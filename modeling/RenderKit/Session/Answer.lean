import RenderKit.Context
import RenderKit.Device.Instrumented

set_option autoImplicit false

/-! # Answers of a session

What an object looks like from outside, and what a step comes back with. -/

namespace RenderKit.Session

/-- An object with the handles of everything in it. -/
inductive Info where
  | buffer (b : Buffer)
  | texture (t : Texture) (size : UInt64)
  | sampler (s : Sampler)
  | attachment (a : Attachment) (texture : Option TextureHandle)
  | framebuffer (f : Framebuffer) (colors : List TextureHandle) (depth : Option TextureHandle)
  | layout (l : VertexLayout)
  | program (p : Program)
  | pipeline (p : Pipeline) (program : ProgramHandle)
      (vertexBuffer indexBuffer : Option BufferHandle)
  | pass (p : RenderPass) (framebuffer : Option FramebufferHandle)
  | mesh (m : Mesh) (vertexBuffer : BufferHandle) (indexBuffer : Option BufferHandle)
  | material (m : Material) (program : Program)
  | context (c : RenderContext) (device : Api)
  | commands (c : CommandBuffer) (array : Option VertexArrayHandle) (target : Option Framebuffer)

inductive Answer where
  | nothing
  | info (i : Info)
  | truth (b : Bool)
  | number (n : Int)
  | handle (raw : UInt32)
  | bytes (data : List UInt8)
  | text (s : String)
  /-- What was found in a stage, and whether uniforms, samplers and attributes of a name are
      among it. -/
  | reflection (r : Reflection) (name : Option String)
  | capabilities (c : Capabilities) (api : Api)
  | counts (c : MessageCounts)

/-- Why a step has no answer. -/
inductive Refusal where
  | halt (h : Halt)
  /-- A name stands for nothing, or for an object of another type. -/
  | noObject
  /-- A framebuffer cannot be resized while something else uses it too. -/
  | shared
deriving DecidableEq

end RenderKit.Session
