import RenderKit.Session.Answer
import RenderKit.Session.Step

set_option autoImplicit false

/-! # Playing a session

Named objects stand in the order in which their names first came. An object that is made under a
name in use takes the place of the old one, which is given up once the new one exists; if the new
one cannot be made, the old one stays. In the end all objects are given up in their order. -/

namespace RenderKit.Session

inductive Object where
  | buffer (r : Ref Buffer)
  | texture (r : Ref Texture)
  | sampler (r : Ref Sampler)
  | attachment (a : Attachment)
  | framebuffer (r : Ref Framebuffer)
  | layout (l : VertexLayout)
  | program (r : Ref Program)
  | pipeline (r : Ref Pipeline)
  | pass (p : RenderPass)
  | mesh (m : Mesh)
  | material (m : Material)
  | context (c : RenderContext)
  | commands (c : CommandBuffer)

structure State (σ : Type) where
  world : World σ
  objects : List (Name × Object)
  files : Files

/-- The operations of a session. -/
abbrev Play (σ : Type) := ExceptT Refusal (StateM (State σ))

section

variable {σ : Type} [InstrumentedDevice σ]

/-- Do something in the world of the session. -/
def inWorld {α : Type} (t : Render σ α) : Play σ α := do
  let s ← get
  let (outcome, world) := t.run.run s.world
  set { s with world := world }
  match outcome with
  | .ok a => return a
  | .error h => throw (.halt h)

/-! ## Names -/

def object (name : Name) : Play σ Object := do
  match (← get).objects.lookup name with
  | some o => return o
  | none => throw .noObject

def bufferNamed (name : Name) : Play σ (Ref Buffer) := do
  match ← object name with
  | .buffer r => return r
  | _ => throw .noObject

def textureNamed (name : Name) : Play σ (Ref Texture) := do
  match ← object name with
  | .texture r => return r
  | _ => throw .noObject

def samplerNamed (name : Name) : Play σ (Ref Sampler) := do
  match ← object name with
  | .sampler r => return r
  | _ => throw .noObject

def attachmentNamed (name : Name) : Play σ Attachment := do
  match ← object name with
  | .attachment a => return a
  | _ => throw .noObject

def framebufferNamed (name : Name) : Play σ (Ref Framebuffer) := do
  match ← object name with
  | .framebuffer r => return r
  | _ => throw .noObject

def layoutNamed (name : Name) : Play σ VertexLayout := do
  match ← object name with
  | .layout l => return l
  | _ => throw .noObject

def programNamed (name : Name) : Play σ (Ref Program) := do
  match ← object name with
  | .program r => return r
  | _ => throw .noObject

def pipelineNamed (name : Name) : Play σ (Ref Pipeline) := do
  match ← object name with
  | .pipeline r => return r
  | _ => throw .noObject

def passNamed (name : Name) : Play σ RenderPass := do
  match ← object name with
  | .pass p => return p
  | _ => throw .noObject

def meshNamed (name : Name) : Play σ Mesh := do
  match ← object name with
  | .mesh m => return m
  | _ => throw .noObject

def materialNamed (name : Name) : Play σ Material := do
  match ← object name with
  | .material m => return m
  | _ => throw .noObject

def contextNamed (name : Name) : Play σ RenderContext := do
  match ← object name with
  | .context c => return c
  | _ => throw .noObject

def commandsNamed (name : Name) : Play σ CommandBuffer := do
  match ← object name with
  | .commands c => return c
  | _ => throw .noObject

/-- Give up an object. -/
def discard : Object → Render σ Unit
  | .buffer r => release r
  | .texture r => release r
  | .sampler r => release r
  | .attachment a => a.discard
  | .framebuffer r => release r
  | .layout _ => return ()
  | .program r => release r
  | .pipeline r => release r
  | .pass p => p.discard
  | .mesh m => m.discard
  | .material m => m.discard
  | .context c => c.discard
  | .commands c => c.discard

/-- Put an object under a name, at the place of the name if it is in use. -/
def put (objects : List (Name × Object)) (name : Name) (o : Object) : List (Name × Object) :=
  match objects with
  | [] => [(name, o)]
  | e :: rest => if e.1 = name then (name, o) :: rest else e :: put rest name o

/-- Let a name stand for a new object; the old one is given up. -/
def assign (name : Name) (o : Object) : Play σ Unit := do
  let old := (← get).objects.lookup name
  modify fun s => { s with objects := put s.objects name o }
  match old with
  | some old => inWorld (discard old)
  | none => return ()

/-- Let a name stand for another state of its object. -/
def update (name : Name) (o : Object) : Play σ Unit :=
  modify fun s => { s with objects := put s.objects name o }

/-! ## Looking at objects -/

def handleOf (r : Option (Ref Buffer)) : Render σ (Option BufferHandle) := do
  match r with
  | none => return none
  | some r => return some (← view r).handle

def textureHandleOf (r : Option (Ref Texture)) : Render σ (Option TextureHandle) := do
  match r with
  | none => return none
  | some r => return some (← view r).handle

def info : Object → Render σ Info
  | .buffer r => return .buffer (← view r)
  | .texture r => do
      let t ← view r
      match t.desc.byteSize? with
      | some size => return .texture t size
      | none => abort
  | .sampler r => return .sampler (← view r)
  | .attachment a => return .attachment a (← textureHandleOf a.texture)
  | .framebuffer r => do
      let f ← view r
      return .framebuffer f (← Framebuffer.handles f.colors) (← textureHandleOf f.depth)
  | .layout l => return .layout l
  | .program r => return .program (← view r)
  | .pipeline r => do
      let p ← view r
      let program ← view p.program
      return .pipeline p program.handle (← handleOf p.vertexBuffer) (← handleOf p.indexBuffer)
  | .pass p => return .pass p (← view p.framebuffer).handle
  | .mesh m => do
      let vertices ← view m.vertexBuffer
      return .mesh m vertices.handle (← handleOf m.indexBuffer)
  | .material m => return .material m (← view m.program)
  | .context c => return .context c (GraphicsDevice.api (← get).device)
  | .commands c => do
      let array ← match c.pipeline with
        | none => pure none
        | some r => do pure (some (← view r).array)
      let target ← match c.target with
        | none => pure none
        | some r => do pure (some (← view r))
      return .commands c array target

/-- The text of an object for a developer; not every type has one. -/
def debugText : Object → Play σ String
  | .buffer r => return (← inWorld (view r)).debugText
  | .texture r => return (← inWorld (view r)).debugText
  | .sampler r => return (← inWorld (view r)).debugText
  | .framebuffer r => return (← inWorld (view r)).debugText
  | .program r => return (← inWorld (view r)).debugText
  | .pipeline r => do
      let p ← inWorld (view r)
      return p.debugText (← inWorld (view p.program))
  | .material m => return m.debugText (← inWorld (view m.program))
  | .context c => return c.debugText
  | _ => throw .noObject

/-! ## Making objects -/

def attachmentPlan (a : Attachment) : List AttachmentSetting → Play σ Attachment
  | [] => return a
  | .format f :: rest => attachmentPlan { a with format := f } rest
  | .texture name :: rest => do
      let r ← textureNamed name
      attachmentPlan (a.withTexture r (← inWorld (view r))) rest

def framebufferPlan (p : FramebufferPlan) : List TargetSetting → Play σ FramebufferPlan
  | [] => return p
  | .color name :: rest => do framebufferPlan (p.color (← attachmentNamed name)) rest
  | .depth name :: rest => do
      framebufferPlan { p with depth := some (← attachmentNamed name) } rest
  | .depthStencil name :: rest => do
      framebufferPlan { p with depthStencil := some (← attachmentNamed name) } rest

/-- The inputs of a program; source that is compiled by itself is compiled now. -/
def stageInputs [Toolchain] : List StageSetting → Play σ (List StageInput)
  | [] => return []
  | .input i :: rest => do return i :: (← stageInputs rest)
  | .compiled stage origin source :: rest => do
      let words ← inWorld (compile source origin {})
      return .bytecode stage words :: (← stageInputs rest)

def pipelinePlan (p : PipelinePlan) : List PipelineSetting → Play σ PipelinePlan
  | [] => return p
  | .program name :: rest => do
      pipelinePlan { p with program := some (← programNamed name) } rest
  | .layout name :: rest => do pipelinePlan { p with layout := ← layoutNamed name } rest
  | .topology t :: rest => pipelinePlan { p with topology := t } rest
  | .rasterizer r :: rest => pipelinePlan { p with rasterizer := r } rest
  | .depthStencil d :: rest => pipelinePlan { p with depthStencil := d } rest
  | .blend b :: rest => pipelinePlan { p with blend := b } rest
  | .attachments n :: rest => pipelinePlan { p with attachments := n } rest
  | .vertexBuffer name :: rest => do
      pipelinePlan { p with vertexBuffer := some (← bufferNamed name) } rest
  | .indexBuffer name :: rest => do
      pipelinePlan { p with indexBuffer := some (← bufferNamed name) } rest

def meshPlan (p : MeshPlan) : List MeshSetting → Play σ MeshPlan
  | [] => return p
  | .vertexBuffer name :: rest => do
      meshPlan { p with vertexBuffer := some (← bufferNamed name) } rest
  | .indexBuffer name :: rest => do
      meshPlan { p with indexBuffer := some (← bufferNamed name) } rest
  | .layout name :: rest => do meshPlan { p with layout := ← layoutNamed name } rest
  | .topology t :: rest => meshPlan { p with topology := t } rest
  | .vertexCount n :: rest => meshPlan { p with vertexCount := some n } rest
  | .indexCount n :: rest => meshPlan { p with indexCount := some n } rest

def materialPlan (p : MaterialPlan) : List MaterialSetting → Play σ MaterialPlan
  | [] => return p
  | .program name :: rest => do
      materialPlan { p with program := some (← programNamed name) } rest
  | .uniform name value :: rest =>
      materialPlan { p with uniforms := p.uniforms ++ [(name, value)] } rest
  | .texture slot name :: rest => do
      materialPlan { p with textures := putSlot p.textures slot (← textureNamed name) } rest
  | .sampler slot name :: rest => do
      materialPlan { p with samplers := putSlot p.samplers slot (← samplerNamed name) } rest
  | .removeTexture slot :: rest =>
      materialPlan { p with textures := p.textures.filter fun e => e.1 ≠ slot } rest

/-- The options a program is compiled with. -/
def programOptions (context : Option Name) (own : Option CompileOptions) :
    Play σ CompileOptions := do
  let inherited ← match context with
    | none => pure {}
    | some name => do pure (← contextNamed name).config.options
  return own.getD inherited

variable [Toolchain] [ImageCodec]

/-- Make an object. -/
def make : Recipe → Play σ Object
  | .buffer kind usage size data => do
      return .buffer (← inWorld (Buffer.create kind usage size data))
  | .texture desc data => do
      let files := (← get).files
      let origin := .blank desc.width desc.height desc.format
      return .texture (← inWorld (Texture.build files ⟨origin, data, desc.srgb, desc.mipmaps⟩))
  | .image path data srgb mipmaps => do
      let files := (← get).files
      return .texture (← inWorld (Texture.build files ⟨.file path, data, srgb, mipmaps⟩))
  | .sampler desc => do return .sampler (← inWorld (Sampler.create desc))
  | .attachment start settings => do
      let plan ← attachmentPlan start settings
      return .attachment (← inWorld plan.accepted)
  | .defaultTarget width height => do
      return .framebuffer (← inWorld (Framebuffer.defaultTarget width height))
  | .framebuffer width height settings => do
      let plan ← framebufferPlan (.start width height) settings
      return .framebuffer (← inWorld (Framebuffer.create plan))
  | .layout attributes stride => do
      return .layout (← inWorld (VertexLayout.make attributes stride))
  | .program context own reflected stages => do
      let options ← programOptions context own
      let inputs ← stageInputs stages
      let files := (← get).files
      return .program (← inWorld (Program.create files options reflected inputs))
  | .pipeline mesh settings => do
      let start ← match mesh with
        | none => pure {}
        | some name => do pure (← meshNamed name).pipelinePlan
      let plan ← pipelinePlan start settings
      return .pipeline (← inWorld (Pipeline.create plan))
  | .pass framebuffer plan => do
      let r ← framebufferNamed framebuffer
      return .pass (← inWorld (RenderPass.create r plan))
  | .mesh settings => do
      let plan ← meshPlan {} settings
      return .mesh (← inWorld (Mesh.create plan))
  | .material settings => do
      let plan ← materialPlan {} settings
      return .material (← inWorld (Material.create plan))
  | .context config => do return .context (← inWorld (RenderContext.create config))
  | .commands validation => return .commands (.new validation)
  | .contextCommands context => do return .commands (← contextNamed context).commandBuffer

/-! ## Using objects -/

/-- A command with its objects in place of their names. -/
def command : Command → Play σ Instruction
  | .start => return .start
  | .finish => return .finish
  | .beginPass name => do return .beginPass (← passNamed name)
  | .endPass => return .endPass
  | .setPipeline name => do return .setPipeline (← pipelineNamed name)
  | .setViewport area => return .setViewport area
  | .setScissor area => return .setScissor area
  | .setUniform name value => return .setUniform name value
  | .setTexture slot name => do return .setTexture slot (← textureNamed name)
  | .setSampler slot name => do return .setSampler slot (← samplerNamed name)
  | .bindUniformBuffer binding name => do return .bindUniformBuffer binding (← bufferNamed name)
  | .setVertexBuffer name => do return .setVertexBuffer (← bufferNamed name)
  | .setIndexBuffer name => do return .setIndexBuffer (← bufferNamed name)
  | .draw count first => return .draw count first
  | .drawIndexed count first base => return .drawIndexed count first base
  | .drawMesh name => do return .drawMesh (← meshNamed name)

def bind (o : Object) (slot : UInt32) : Play σ Unit :=
  match o with
  | .buffer r => inWorld (Buffer.bind r)
  | .texture r => inWorld (Texture.bind r slot)
  | .sampler r => inWorld (Sampler.bind r slot)
  | .framebuffer r => inWorld (Framebuffer.bind r)
  | .program r => inWorld (Program.bind r)
  | .pipeline r => inWorld (Pipeline.bind r)
  | _ => throw .noObject

def unbind (o : Object) (slot : UInt32) : Play σ Unit :=
  match o with
  | .buffer r => inWorld (Buffer.unbind r)
  | .texture _ => inWorld (Texture.unbind slot)
  | .sampler _ => inWorld (Sampler.unbind slot)
  | .framebuffer _ => inWorld Framebuffer.unbind
  | .program _ => inWorld Program.unbind
  | .pipeline _ => inWorld Pipeline.unbind
  | _ => throw .noObject

/-- Look into a material. -/
def getMaterial (m : Material) : MaterialQuery → Play σ Answer
  | .uniform name =>
      match m.uniform? name with
      | some v => return .text (v.typeName ++ " " ++ v.text)
      | none => return .nothing
  | .texture slot => do
      match m.texture? slot with
      | some r => return .handle (← inWorld (view r)).handle.raw
      | none => return .nothing
  | .sampler slot => do
      match m.sampler? slot with
      | some r => return .handle (← inWorld (view r)).handle.raw
      | none => return .nothing

/-- Change a material that exists. A texture that is taken out is given up. -/
def setMaterial (name : Name) : MaterialSetting → Play σ Answer
  | .program part => do
      let r ← programNamed part
      let m ← materialNamed name
      update name (.material (← inWorld (m.setProgram r)))
      return .nothing
  | .uniform key value => do
      let m ← materialNamed name
      update name (.material (m.setUniform key value))
      return .nothing
  | .texture slot part => do
      let r ← textureNamed part
      let m ← materialNamed name
      update name (.material (← inWorld (m.setTexture slot r)))
      return .nothing
  | .sampler slot part => do
      let r ← samplerNamed part
      let m ← materialNamed name
      update name (.material (← inWorld (m.setSampler slot r)))
      return .nothing
  | .removeTexture slot => do
      let m ← materialNamed name
      let (removed, m) := m.removeTexture slot
      update name (.material m)
      match removed with
      | none => return .nothing
      | some r => do
          let t ← inWorld (view r)
          inWorld (release r)
          return .handle t.handle.raw

/-- What a reply of the device amounts to. -/
def replyAnswer (r : Request) (reply : r.Reply) : Play σ Answer :=
  let ofHandle {kind : ObjectKind} (h : Except Error (Handle kind)) : Play σ Answer :=
    match h with
    | .ok h => return .handle h.raw
    | .error e => throw (.halt (.error e))
  match r with
  | .createBuffer .. => ofHandle reply
  | .createTexture .. => ofHandle reply
  | .createSampler .. => ofHandle reply
  | .createFramebuffer .. => ofHandle reply
  | .compileShader .. => ofHandle reply
  | .linkProgram .. => ofHandle reply
  | .createVertexArray => ofHandle reply
  | .writeBuffer .. =>
      match (reply : Except Error Unit) with
      | .ok _ => return .nothing
      | .error e => throw (.halt (.error e))
  | .readBuffer .. =>
      match (reply : Except Error (List UInt8)) with
      | .ok bytes => return .bytes bytes
      | .error e => throw (.halt (.error e))
  | .uniformLocation .. => return .number (Int32.toInt reply)
  | .attributeLocation .. => return .number (Int32.toInt reply)
  | _ => return .nothing

/-! ## Steps -/

/-- Play one step. -/
def play : Step σ → Play σ Answer
  | .make name recipe => do
      let o ← make recipe
      assign name o
      return .info (← inWorld (info o))
  | .drop name => do
      let o ← object name
      modify fun s => { s with objects := s.objects.filter fun e => e.1 ≠ name }
      inWorld (discard o)
      return .nothing
  | .info name => do return .info (← inWorld (info (← object name)))
  | .debug name => do return .text (← debugText (← object name))
  | .bind name slot => do
      bind (← object name) slot
      return .nothing
  | .unbind name slot => do
      unbind (← object name) slot
      return .nothing
  | .write name offset data => do
      inWorld (Buffer.write (← bufferNamed name) offset data)
      return .nothing
  | .read name offset length => do
      return .bytes (← inWorld (Buffer.read (← bufferNamed name) offset length))
  | .resize name width height => do
      let r ← framebufferNamed name
      if (← get).world.framebuffers.owners r > 1 then throw .shared
      inWorld (Framebuffer.resize r width height)
      return .info (← inWorld (info (.framebuffer r)))
  | .uniformLocation name key => do
      return .number (← inWorld (Program.uniformLocation (← programNamed name) key)).toInt
  | .attributeLocation name key => do
      return .number (← inWorld (Program.attributeLocation (← programNamed name) key)).toInt
  | .reflection name stage key => do
      let p ← inWorld (view (← programNamed name))
      return .reflection (p.reflection stage) key
  | .setUniform name key value => do
      return .truth (← inWorld (Program.setUniform (← programNamed name) key value))
  | .setVertexBuffer name part => do
      let b ← bufferNamed part
      inWorld (Pipeline.setVertexBuffer (← pipelineNamed name) b)
      return .nothing
  | .setIndexBuffer name part => do
      let b ← bufferNamed part
      inWorld (Pipeline.setIndexBuffer (← pipelineNamed name) b)
      return .nothing
  | .attachMesh name part => do
      let p ← pipelineNamed part
      inWorld ((← meshNamed name).attach p)
      return .nothing
  | .apply name => do
      inWorld (← materialNamed name).apply
      return .nothing
  | .getMaterial name query => do getMaterial (← materialNamed name) query
  | .setMaterial name setting => setMaterial name setting
  | .command name c => do
      let instruction ← command c
      let buffer ← commandsNamed name
      update name (.commands (← inWorld (instruction.perform buffer)))
      return .nothing
  | .applyState rasterizer depthStencil blend => do
      match rasterizer with
      | some r => inWorld r.apply
      | none => pure ()
      match depthStencil with
      | some d => inWorld d.apply
      | none => pure ()
      match blend with
      | some (b, count) => inWorld (b.apply count)
      | none => pure ()
      return .nothing
  | .contextActive => return .truth (← get).world.contextActive
  | .capabilities => do
      let device := (← get).world.device
      return .capabilities (GraphicsDevice.capabilities device) (GraphicsDevice.api device)
  | .deviceDebug => do
      match InstrumentedDevice.debugText? (← get).world.device with
      | some text => return .text text
      | none => throw .noObject
  | .adjust change => do
      modify fun s => { s with world := { s.world with device := change s.world.device } }
      return .nothing
  | .message m => do
      let s ← get
      let (heard, notes, device) := InstrumentedDevice.deliver m s.world.device
      set { s with
        world := { s.world with device := device, journal := s.world.journal ++ notes } }
      return .truth heard
  | .counts => return .counts (InstrumentedDevice.counts (← get).world.device)
  | .ask r => do replyAnswer r (← inWorld (RenderKit.ask r))

/-- What happened in a part of a session: what the device wrote down, and the new entries. -/
structure Episode where
  lines : List String
  entries : List Entry

/-- Run something and give back what happened meanwhile. -/
def observe {α : Type} (s : State σ) (t : Play σ α) : Except Refusal α × Episode × State σ :=
  let (outcome, after) := t.run.run s
  let lines := InstrumentedDevice.linesSince (InstrumentedDevice.recorded s.world.device)
    after.world.device
  let entries := (after.world.journal.extract s.world.journal.size).toList
  (outcome, ⟨lines, entries⟩, after)

/-- Play steps one after the other. -/
def playAll (s : State σ) :
    List (Step σ) → List (Except Refusal Answer × Episode) × State σ
  | [] => ([], s)
  | step :: rest =>
      let (outcome, episode, s) := observe s (play step)
      let (others, s) := playAll s rest
      ((outcome, episode) :: others, s)

/-- Give up all objects in their order. -/
def finish : List (Name × Object) → Play σ Unit
  | [] => return ()
  | (_, o) :: rest => do
      inWorld (discard o)
      finish rest

/-- A whole session: what each step came to, and what happened when everything was given up. -/
def run (device : σ) (files : Files) (steps : List (Step σ)) :
    List (Except Refusal Answer × Episode) × Episode :=
  let (outcomes, s) := playAll { world := .start device, objects := [], files := files } steps
  let (_, ending, _) := observe { s with objects := [] } (finish s.objects)
  (outcomes, ending)

end

end RenderKit.Session
