import RenderKit.Device.Handle
import RenderKit.Device.PixelRect
import RenderKit.Error
import RenderKit.Pipeline.Blend
import RenderKit.Pipeline.DepthStencil
import RenderKit.Pipeline.Rasterizer
import RenderKit.Pipeline.VertexLayout
import RenderKit.Resource.Format
import RenderKit.Shader.Stage
import RenderKit.Uniform

set_option autoImplicit false

/-! # What is asked of a device

Everything the library wants from a device is one of a few requests, and each request has a type
of reply. Creations reply with a handle or an error; most other requests only change the state of
the device. -/

namespace RenderKit

/-- What one clear of the bound framebuffer covers. A missing part is left alone. -/
structure ClearRequest where
  color : Option Vec4
  depth : Option Binary32
  stencil : Option UInt32
deriving DecidableEq

namespace ClearRequest

def isEmpty (c : ClearRequest) : Bool := c.color.isNone && c.depth.isNone && c.stencil.isNone

/-- The three parts on one line; a missing part is a dash. -/
def text (c : ClearRequest) : String :=
  let part (o : Option String) : String := o.getD "-"
  "color=" ++ part (c.color.map Vec4.text) ++ " depth=" ++ part (c.depth.map Binary32.text)
    ++ " stencil=" ++ part (c.stencil.map fun n => toString n.toNat)

end ClearRequest

abbrev BufferHandle := Handle .buffer

abbrev TextureHandle := Handle .texture

abbrev SamplerHandle := Handle .sampler

abbrev FramebufferHandle := Handle .framebuffer

abbrev ShaderHandle := Handle .shader

abbrev ProgramHandle := Handle .program

abbrev VertexArrayHandle := Handle .vertexArray

inductive Request where
  | clear (what : ClearRequest)
  | setViewport (area : PixelRect)
  | setScissor (area : PixelRect)
  /-- A buffer of some bytes, which begin with the data. -/
  | createBuffer (kind : BufferKind) (usage : BufferUsage) (size : UInt64)
      (data : Option (List UInt8))
  | writeBuffer (buffer : BufferHandle) (kind : BufferKind) (offset : UInt64) (data : List UInt8)
  | readBuffer (buffer : BufferHandle) (kind : BufferKind) (offset length : UInt64)
  | bindBuffer (kind : BufferKind) (buffer : Option BufferHandle)
  | bindBufferBase (kind : BufferKind) (index : UInt32) (buffer : Option BufferHandle)
  | deleteBuffer (buffer : BufferHandle)
  | createTexture (desc : TextureDesc) (data : Option (List UInt8))
  | bindTexture (slot : UInt32) (texture : Option TextureHandle)
  | deleteTexture (texture : TextureHandle)
  | createSampler (desc : SamplerDesc)
  | bindSampler (slot : UInt32) (sampler : Option SamplerHandle)
  | deleteSampler (sampler : SamplerHandle)
  | createFramebuffer (colors : List TextureHandle)
      (depth : Option (TextureHandle × AttachmentPoint))
  | bindFramebuffer (framebuffer : Option FramebufferHandle)
  | deleteFramebuffer (framebuffer : FramebufferHandle)
  | compileShader (stage : Stage) (source : String)
  | deleteShader (shader : ShaderHandle)
  | linkProgram (shaders : List ShaderHandle)
  | useProgram (program : Option ProgramHandle)
  | deleteProgram (program : ProgramHandle)
  | uniformLocation (program : ProgramHandle) (name : String)
  | attributeLocation (program : ProgramHandle) (name : String)
  /-- Write a uniform of the program in use. -/
  | setUniform (location : Int32) (value : UniformValue)
  | createVertexArray
  | bindVertexArray (array : Option VertexArrayHandle)
  | attachVertexBuffer (array : VertexArrayHandle) (buffer : BufferHandle) (layout : VertexLayout)
  | attachIndexBuffer (array : VertexArrayHandle) (buffer : BufferHandle)
  | deleteVertexArray (array : VertexArrayHandle)
  | applyRasterizer (state : Rasterizer)
  | applyDepthStencil (state : DepthStencil)
  | applyBlend (state : Blend) (count : UInt32)
  | drawArrays (topology : Topology) (first count : UInt32)
  | drawElements (topology : Topology) (count : UInt32) (byteOffset : UInt64) (base : Int32)
deriving DecidableEq

/-- What a device replies to a request. -/
def Request.Reply : Request → Type
  | .createBuffer .. => Except Error BufferHandle
  | .writeBuffer .. => Except Error Unit
  | .readBuffer .. => Except Error (List UInt8)
  | .createTexture .. => Except Error TextureHandle
  | .createSampler .. => Except Error SamplerHandle
  | .createFramebuffer .. => Except Error FramebufferHandle
  | .compileShader .. => Except Error ShaderHandle
  | .linkProgram .. => Except Error ProgramHandle
  | .createVertexArray => Except Error VertexArrayHandle
  | .uniformLocation .. | .attributeLocation .. => Int32
  | _ => Unit

/-- The reply that says no more than that a request was carried out, for requests whose replies
    say no more. -/
def Request.done? (r : Request) : Option r.Reply :=
  match r with
  | .clear _ | .setViewport _ | .setScissor _ | .bindBuffer _ _ | .bindBufferBase _ _ _
  | .deleteBuffer _ | .bindTexture _ _ | .deleteTexture _ | .bindSampler _ _ | .deleteSampler _
  | .bindFramebuffer _ | .deleteFramebuffer _ | .deleteShader _ | .useProgram _
  | .deleteProgram _ | .setUniform _ _ | .bindVertexArray _ | .attachVertexBuffer _ _ _
  | .attachIndexBuffer _ _ | .deleteVertexArray _ | .applyRasterizer _ | .applyDepthStencil _
  | .applyBlend _ _ | .drawArrays _ _ _ | .drawElements _ _ _ _ => some ()
  | _ => none

/-- A request with its reply, unless the device was cut off. -/
structure Call where
  request : Request
  reply : Option request.Reply

end RenderKit
