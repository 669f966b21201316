import RenderKit.Context
import RenderKit.Device.Instrumented

set_option autoImplicit false

/-! # Steps of a session

A session works with named objects of one device. Each of its steps makes an object, uses some, or
asks the device directly. Steps are plain data; objects in them are names. -/

namespace RenderKit.Session

abbrev Name := String

/-! ## Making objects -/

inductive AttachmentSetting where
  | format (f : TextureFormat)
  | texture (name : Name)
deriving DecidableEq, Repr

/-- A part of a framebuffer, by the name of an attachment. -/
inductive TargetSetting where
  | color (name : Name)
  | depth (name : Name)
  | depthStencil (name : Name)
deriving DecidableEq, Repr

/-- A stage of a program. The last kind is source that is compiled by itself first, maybe for
    another stage. -/
inductive StageSetting where
  | input (i : StageInput)
  | compiled (stage origin : Stage) (source : String)
deriving DecidableEq, Repr

inductive PipelineSetting where
  | program (name : Name)
  | layout (name : Name)
  | topology (t : Topology)
  | rasterizer (r : Rasterizer)
  | depthStencil (d : DepthStencil)
  | blend (b : Blend)
  | attachments (count : UInt32)
  | vertexBuffer (name : Name)
  | indexBuffer (name : Name)

inductive MeshSetting where
  | vertexBuffer (name : Name)
  | indexBuffer (name : Name)
  | layout (name : Name)
  | topology (t : Topology)
  | vertexCount (n : UInt32)
  | indexCount (n : UInt32)

inductive MaterialSetting where
  | program (name : Name)
  | uniform (name : String) (value : UniformValue)
  | texture (slot : UInt32) (name : Name)
  | sampler (slot : UInt32) (name : Name)
  /-- Only of a material that exists. -/
  | removeTexture (slot : UInt32)

/-- How an object is made. -/
inductive Recipe where
  | buffer (kind : BufferKind) (usage : BufferUsage) (size : Option UInt64)
      (data : Option (List UInt8))
  | texture (desc : TextureDesc) (data : Option (List UInt8))
  | image (path : String) (data : Option (List UInt8)) (srgb mipmaps : Bool)
  | sampler (desc : SamplerDesc)
  | attachment (start : Attachment) (settings : List AttachmentSetting)
  | defaultTarget (width height : UInt32)
  | framebuffer (width height : UInt32) (settings : List TargetSetting)
  | layout (attributes : List VertexAttribute) (stride : Option UInt32)
  /-- With the options of a context, unless there are options of its own. -/
  | program (context : Option Name) (options : Option CompileOptions) (reflected : Bool)
      (stages : List StageSetting)
  /-- Beginning with what a mesh asks for, if one is named. -/
  | pipeline (mesh : Option Name) (settings : List PipelineSetting)
  | pass (framebuffer : Name) (plan : PassPlan)
  | mesh (settings : List MeshSetting)
  | material (settings : List MaterialSetting)
  | context (config : ContextConfig)
  | commands (validation : Validation)
  | contextCommands (context : Name)

/-! ## Using objects -/

inductive Command where
  | start
  | finish
  | beginPass (pass : Name)
  | endPass
  | setPipeline (pipeline : Name)
  | setViewport (area : PixelRect)
  | setScissor (area : PixelRect)
  | setUniform (name : String) (value : UniformValue)
  | setTexture (slot : UInt32) (texture : Name)
  | setSampler (slot : UInt32) (sampler : Name)
  | bindUniformBuffer (binding : UInt32) (buffer : Name)
  | setVertexBuffer (buffer : Name)
  | setIndexBuffer (buffer : Name)
  | draw (count first : UInt32)
  | drawIndexed (count first : UInt32) (base : Int32)
  | drawMesh (mesh : Name)

/-- Something in a material. -/
inductive MaterialQuery where
  | uniform (name : String)
  | texture (slot : UInt32)
  | sampler (slot : UInt32)

inductive Step (σ : Type) where
  | make (name : Name) (recipe : Recipe)
  | drop (name : Name)
  | info (name : Name)
  | debug (name : Name)
  | bind (name : Name) (slot : UInt32)
  | unbind (name : Name) (slot : UInt32)
  | write (buffer : Name) (offset : UInt64) (data : List UInt8)
  | read (buffer : Name) (offset length : UInt64)
  | resize (framebuffer : Name) (width height : UInt32)
  | uniformLocation (program : Name) (name : String)
  | attributeLocation (program : Name) (name : String)
  | reflection (program : Name) (stage : Stage) (name : Option String)
  | setUniform (program : Name) (name : String) (value : UniformValue)
  | setVertexBuffer (pipeline buffer : Name)
  | setIndexBuffer (pipeline buffer : Name)
  | attachMesh (mesh pipeline : Name)
  | apply (material : Name)
  | getMaterial (material : Name) (query : MaterialQuery)
  | setMaterial (material : Name) (setting : MaterialSetting)
  | command (buffer : Name) (c : Command)
  | applyState (rasterizer : Option Rasterizer) (depthStencil : Option DepthStencil)
      (blend : Option (Blend × UInt32))
  | contextActive
  | capabilities
  | deviceDebug
  /-- Change what the surroundings of the device do. -/
  | adjust (change : σ → σ)
  | message (m : DriverMessage)
  | counts
  /-- Ask the device itself. -/
  | ask (r : Request)

end RenderKit.Session
