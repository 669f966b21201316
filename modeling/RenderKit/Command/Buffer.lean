import RenderKit.Command.RenderPass
import RenderKit.Resource.Mesh
import RenderKit.Resource.Sampler
import RenderKit.Resource.Texture

set_option autoImplicit false

/-! # Command buffers

Commands go to the device at once. A command buffer keeps what they depend on: whether it is
recording, the pipeline and its program, and the framebuffer of the active pass. A command that
makes no sense in the present state is skipped. A skip changes nothing; whether it is an error
depends on how strict the buffer is. -/

namespace RenderKit

/-- What becomes of commands that are skipped. -/
inductive Validation where
  /-- They are traced and count as done. -/
  | silent
  /-- They are errors. -/
  | report
deriving DecidableEq, Repr

instance : Named Validation where
  all := [.silent, .report]
  name
    | .silent => "Silent"
    | .report => "Report"

/-- Why a command was skipped. -/
inductive SkipReason where
  | alreadyRecording
  | notRecording
  | passActive
  | noPass
  | noShader
  | noPipeline
  | noIndexBuffer
deriving DecidableEq, Repr

def SkipReason.text : SkipReason → String
  | .alreadyRecording => "already recording"
  | .notRecording => "not recording"
  | .passActive => "a render pass is already active"
  | .noPass => "no active render pass"
  | .noShader => "no shader bound"
  | .noPipeline => "no pipeline bound"
  | .noIndexBuffer => "pipeline has no index buffer"

inductive CommandError where
  | skipped (command : String) (reason : SkipReason)
  | notUniformBuffer (kind : BufferKind)
deriving DecidableEq, Repr

instance : Cause CommandError where
  source _ := "cbox::command"
  kind _ := .invalidState
  message
    | .skipped command reason => command ++ " skipped: " ++ reason.text
    | .notUniformBuffer kind =>
        "bind_uniform_buffer expects a uniform buffer, got " ++ nameOf kind

structure CommandBuffer where
  validation : Validation
  recording : Bool
  pipeline : Option (Ref Pipeline)
  /-- The program of the pipeline. -/
  program : Option (Ref Program)
  /-- The framebuffer of the active pass. -/
  target : Option (Ref Framebuffer)
deriving DecidableEq

namespace CommandBuffer

def new (validation : Validation) : CommandBuffer := ⟨validation, false, none, none, none⟩

variable {σ : Type} [GraphicsDevice σ]

def discard (c : CommandBuffer) : Render σ Unit := do
  releaseOption c.pipeline
  releaseOption c.program
  releaseOption c.target

/-- Skip a command. -/
def skip (c : CommandBuffer) (command : String) (reason : SkipReason) : Render σ Unit :=
  let e := CommandError.skipped command reason
  match c.validation with
  | .report => reject e
  | .silent => note .trace (Cause.source e) (Cause.message e)

/-! ## Recording -/

def start (c : CommandBuffer) : Render σ CommandBuffer := do
  if c.recording then
    c.skip "begin" .alreadyRecording
    return c
  return { c with recording := true }

/-- End the active pass; the framebuffer is given up. -/
def endPass (c : CommandBuffer) : Render σ CommandBuffer := do
  match c.target with
  | none =>
      c.skip "end_render_pass" .noPass
      return c
  | some target =>
      Framebuffer.unbind
      release target
      return { c with target := none }

/-- End the recording, and the pass if there is one. -/
def finish (c : CommandBuffer) : Render σ CommandBuffer := do
  if !c.recording then
    c.skip "end" .notRecording
    return c
  let c ← if c.target.isSome then c.endPass else pure c
  releaseOption c.pipeline
  releaseOption c.program
  return { c with recording := false, pipeline := none, program := none }

/-! ## Passes and state -/

/-- Begin a pass: bind its framebuffer and clear what is to be cleared. -/
def beginPass (c : CommandBuffer) (pass : RenderPass) : Render σ CommandBuffer := do
  if c.target.isSome then
    c.skip "begin_render_pass" .passActive
    return c
  Framebuffer.bind pass.framebuffer
  let request := pass.clearRequest
  if !request.isEmpty then ask (.clear request)
  hold pass.framebuffer
  return { c with target := some pass.framebuffer }

def setPipeline (c : CommandBuffer) (r : Ref Pipeline) : Render σ CommandBuffer := do
  Pipeline.bind r
  let p ← view r
  hold p.program
  releaseOption c.program
  hold r
  releaseOption c.pipeline
  return { c with pipeline := some r, program := some p.program }

def setViewport (c : CommandBuffer) (area : PixelRect) : Render σ CommandBuffer := do
  ask (.setViewport area)
  return c

def setScissor (c : CommandBuffer) (area : PixelRect) : Render σ CommandBuffer := do
  ask (.setScissor area)
  return c

/-! ## Values for the program -/

def setUniform (c : CommandBuffer) (name : String) (value : UniformValue) :
    Render σ CommandBuffer := do
  match c.program with
  | none => c.skip "set_uniform" .noShader
  | some r => let _ ← Program.setUniform r name value
  return c

def setTexture (c : CommandBuffer) (slot : UInt32) (r : Ref Texture) :
    Render σ CommandBuffer := do
  if c.program.isNone then c.skip "set_texture" .noShader else Texture.bind r slot
  return c

def setSampler (c : CommandBuffer) (slot : UInt32) (r : Ref Sampler) :
    Render σ CommandBuffer := do
  if c.program.isNone then c.skip "set_sampler" .noShader else Sampler.bind r slot
  return c

def bindUniformBuffer (c : CommandBuffer) (binding : UInt32) (r : Ref Buffer) :
    Render σ CommandBuffer := do
  let b ← view r
  if b.kind ≠ .uniform then reject (CommandError.notUniformBuffer b.kind)
  ask (.bindBufferBase .uniform binding (some b.handle))
  return c

/-! ## Buffers of the pipeline -/

def setVertexBuffer (c : CommandBuffer) (r : Ref Buffer) : Render σ CommandBuffer := do
  match c.pipeline with
  | none => c.skip "set_vertex_buffer" .noPipeline
  | some p => Pipeline.setVertexBuffer p r
  return c

def setIndexBuffer (c : CommandBuffer) (r : Ref Buffer) : Render σ CommandBuffer := do
  match c.pipeline with
  | none => c.skip "set_index_buffer" .noPipeline
  | some p => Pipeline.setIndexBuffer p r
  return c

/-! ## Drawing -/

def draw (c : CommandBuffer) (count first : UInt32) : Render σ CommandBuffer := do
  match c.pipeline with
  | none => c.skip "draw" .noPipeline
  | some r => do
      let p ← view r
      ask (.drawArrays p.topology first count)
  return c

def drawIndexed (c : CommandBuffer) (count first : UInt32) (base : Int32) :
    Render σ CommandBuffer := do
  match c.pipeline with
  | none => c.skip "draw_indexed" .noPipeline
  | some r => do
      let p ← view r
      if p.indexBuffer.isNone then c.skip "draw_indexed" .noIndexBuffer
      else
        let offset := (first.toNat * Mesh.indexSize).toUInt64
        ask (.drawElements p.topology count offset base)
  return c

/-- Attach a mesh to the pipeline and draw all of it. -/
def drawMesh (c : CommandBuffer) (m : Mesh) : Render σ CommandBuffer := do
  match c.pipeline with
  | none => c.skip "draw_mesh" .noPipeline
  | some r => do
      m.attach r
      if m.isIndexed then ask (.drawElements m.topology m.indexCount 0 0)
      else ask (.drawArrays m.topology 0 m.vertexCount)
  return c

end CommandBuffer

/-! ## Instructions -/

/-- A command with what it is about. -/
inductive Instruction where
  | start
  | finish
  | beginPass (pass : RenderPass)
  | endPass
  | setPipeline (r : Ref Pipeline)
  | setViewport (area : PixelRect)
  | setScissor (area : PixelRect)
  | setUniform (name : String) (value : UniformValue)
  | setTexture (slot : UInt32) (r : Ref Texture)
  | setSampler (slot : UInt32) (r : Ref Sampler)
  | bindUniformBuffer (binding : UInt32) (r : Ref Buffer)
  | setVertexBuffer (r : Ref Buffer)
  | setIndexBuffer (r : Ref Buffer)
  | draw (count first : UInt32)
  | drawIndexed (count first : UInt32) (base : Int32)
  | drawMesh (m : Mesh)

/-- Carry out an instruction with a command buffer. -/
def Instruction.perform {σ : Type} [GraphicsDevice σ] (c : CommandBuffer) :
    Instruction → Render σ CommandBuffer
  | .start => c.start
  | .finish => c.finish
  | .beginPass pass => c.beginPass pass
  | .endPass => c.endPass
  | .setPipeline r => c.setPipeline r
  | .setViewport area => c.setViewport area
  | .setScissor area => c.setScissor area
  | .setUniform name value => c.setUniform name value
  | .setTexture slot r => c.setTexture slot r
  | .setSampler slot r => c.setSampler slot r
  | .bindUniformBuffer binding r => c.bindUniformBuffer binding r
  | .setVertexBuffer r => c.setVertexBuffer r
  | .setIndexBuffer r => c.setIndexBuffer r
  | .draw count first => c.draw count first
  | .drawIndexed count first base => c.drawIndexed count first base
  | .drawMesh m => c.drawMesh m

end RenderKit
