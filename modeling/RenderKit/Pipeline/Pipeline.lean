import RenderKit.Shader.Program
import RenderKit.Resource.Buffer

set_option autoImplicit false

/-! # Pipelines

A pipeline ties a program to a vertex array and to fixed state. Its vertex and index buffers can be
exchanged; the pipeline owns the ones that are attached. -/

namespace RenderKit

inductive PipelineError where
  | noProgram
  | notVertexBuffer (kind : BufferKind)
  | notIndexBuffer (kind : BufferKind)
deriving DecidableEq, Repr

instance : Cause PipelineError where
  source _ := "cbox::pipeline"
  kind
    | .noProgram => .nullValue
    | .notVertexBuffer _ | .notIndexBuffer _ => .invalidState
  message
    | .noProgram => "Shader is null"
    | .notVertexBuffer kind => "Expected a vertex buffer, got " ++ nameOf kind
    | .notIndexBuffer kind => "Expected an index buffer, got " ++ nameOf kind

/-- What a pipeline is made of. -/
structure PipelinePlan where
  program : Option (Ref Program) := none
  layout : VertexLayout := .empty
  topology : Topology := .triangleList
  rasterizer : Rasterizer := .standard
  depthStencil : DepthStencil := .standard
  blend : Blend := .disabled
  attachments : UInt32 := 1
  vertexBuffer : Option (Ref Buffer) := none
  indexBuffer : Option (Ref Buffer) := none
deriving DecidableEq

namespace Rasterizer

variable {σ : Type} [GraphicsDevice σ]

def apply (r : Rasterizer) : Render σ Unit := ask (.applyRasterizer r)

end Rasterizer

namespace DepthStencil

variable {σ : Type} [GraphicsDevice σ]

def apply (d : DepthStencil) : Render σ Unit := ask (.applyDepthStencil d)

end DepthStencil

namespace Blend

variable {σ : Type} [GraphicsDevice σ]

/-- Apply the settings of the first attachments, of which there are no more than settings. -/
def apply (b : Blend) (count : UInt32) : Render σ Unit :=
  ask (.applyBlend b (min count maxBlendAttachments.toUInt32))

end Blend

namespace Pipeline

variable {σ : Type} [GraphicsDevice σ]

instance : Owned Pipeline where
  discard p := do
    ask (.deleteVertexArray p.array)
    release p.program
    releaseOption p.vertexBuffer
    releaseOption p.indexBuffer

/-- Attach a vertex buffer. The one before it is given up. -/
def setVertexBuffer (r : Ref Pipeline) (buffer : Ref Buffer) : Render σ Unit := do
  let b ← view buffer
  if b.kind ≠ .vertex then reject (PipelineError.notVertexBuffer b.kind)
  let p ← view r
  ask (.attachVertexBuffer p.array b.handle p.layout)
  hold buffer
  alter r fun p => { p with vertexBuffer := some buffer }
  releaseOption p.vertexBuffer

/-- Attach an index buffer. The one before it is given up. -/
def setIndexBuffer (r : Ref Pipeline) (buffer : Ref Buffer) : Render σ Unit := do
  let b ← view buffer
  if b.kind ≠ .index then reject (PipelineError.notIndexBuffer b.kind)
  let p ← view r
  ask (.attachIndexBuffer p.array b.handle)
  hold buffer
  alter r fun p => { p with indexBuffer := some buffer }
  releaseOption p.indexBuffer

/-- Attach the buffers of a plan. -/
def attachAll (r : Ref Pipeline) (plan : PipelinePlan) : Render σ Unit := do
  match plan.vertexBuffer with
  | some b => setVertexBuffer r b
  | none => pure ()
  match plan.indexBuffer with
  | some b => setIndexBuffer r b
  | none => pure ()

/-- Create a pipeline, which becomes an owner of its program and its buffers. If a buffer cannot
    be attached, the vertex array goes again. -/
def create (plan : PipelinePlan) : Render σ (Ref Pipeline) := do
  match plan.program with
  | none => reject PipelineError.noProgram
  | some program => do
      let array ← settle (← ask .createVertexArray)
      hold program
      let r ← share
        { program := program
          array := array
          layout := plan.layout
          topology := plan.topology
          rasterizer := plan.rasterizer
          depthStencil := plan.depthStencil
          blend := plan.blend
          attachments := plan.attachments
          vertexBuffer := none
          indexBuffer := none }
      match ← attempt (attachAll r plan) with
      | .ok _ =>
          note .debug "cbox::pipeline"
            ("Created pipeline (vertex array " ++ array.text ++ ", " ++ nameOf plan.topology
              ++ ")")
          return r
      | .error e =>
          release r
          raise e

/-- Make the pipeline current with all its state. -/
def bind (r : Ref Pipeline) : Render σ Unit := do
  let p ← view r
  Program.bind p.program
  ask (.bindVertexArray (some p.array))
  p.rasterizer.apply
  p.depthStencil.apply
  p.blend.apply p.attachments

/-- Take away the vertex array and the program. -/
def unbind : Render σ Unit := do
  ask (.bindVertexArray none)
  Program.unbind

def debugText (p : Pipeline) (program : Program) : String :=
  recordText "PipelineState"
    [("program", program.handle.debugText), ("vertex_array", p.array.debugText),
     ("topology", nameOf p.topology)]

end Pipeline

end RenderKit
