import RenderKit.OpenGL.Code

set_option autoImplicit false

/-! # Drivers

A driver of OpenGL is told commands and asked questions. Commands change its state and have no
reply. Both carry numbers of the interface where they name objects, sizes and places, and settings
of the library where each of them stands for one number. -/

namespace RenderKit

/-- The name of an object of a driver; zero is no object. -/
abbrev GlName := UInt32

/-! ## Commands -/

inductive GlCommand where
  | delete (kind : ObjectKind) (name : GlName)
  -- buffers
  | bindBuffer (target : BufferTarget) (buffer : GlName)
  | bindBufferBase (target : BufferTarget) (index : UInt32) (buffer : GlName)
  /-- Give the bound buffer new contents. -/
  | bufferData (target : BufferTarget) (data : List UInt8) (usage : BufferUsage)
  /-- Give the bound buffer a new size, without contents. -/
  | bufferSize (target : BufferTarget) (size : Int32) (usage : BufferUsage)
  | bufferSubData (target : BufferTarget) (offset : Int32) (data : List UInt8)
  -- textures and samplers
  | activeTexture (unit : UInt32)
  | bindTexture (texture : GlName)
  /-- The boundary at which rows of pixels begin. -/
  | unpackAlignment (bytes : Int32)
  | texImage (format : UploadFormat) (width height : Int32) (data : Option (List UInt8))
  | texParameter (parameter : SamplingParameter) (value : UInt32)
  | generateMipmap
  | samplerParameter (sampler : GlName) (parameter : SamplingParameter) (value : UInt32)
  | samplerBorderColor (sampler : GlName) (color : Vec4)
  | samplerAnisotropy (sampler : GlName) (level : Binary32)
  | bindSampler (unit : UInt32) (sampler : GlName)
  -- framebuffers
  | bindFramebuffer (framebuffer : GlName)
  | framebufferTexture (slot : AttachmentSlot) (texture : GlName)
  /-- The slots that fragments are written to; a missing one is written nowhere. -/
  | drawBuffers (slots : List (Option AttachmentSlot))
  | readBuffer (slot : Option AttachmentSlot)
  -- shaders and programs
  | shaderSource (shader : GlName) (source : String)
  | compileShader (shader : GlName)
  | attachShader (program shader : GlName)
  | detachShader (program shader : GlName)
  | linkProgram (program : GlName)
  | useProgram (program : GlName)
  | uniform (location : Int32) (value : UniformValue)
  -- vertex arrays
  | bindVertexArray (array : GlName)
  | enableAttribute (index : UInt32)
  /-- Read an attribute as floats; integers become fractions of their range if normalized. -/
  | attributePointer (index : UInt32) (components : Nat) (scalar : VertexScalar)
      (normalized : Bool) (stride offset : Int32)
  /-- Read an attribute as integers. -/
  | attributeIntegerPointer (index : UInt32) (components : Nat) (scalar : VertexScalar)
      (stride offset : Int32)
  -- fixed functions
  | switch (what : GlSwitch) (on : Bool)
  | cullFace (face : Face)
  | frontFace (winding : FrontFace)
  /-- How polygons of both sides are filled. -/
  | polygonMode (mode : PolygonMode)
  | polygonOffset (factor units : Binary32)
  | depthMask (on : Bool)
  | depthFunc (op : CompareOp)
  | stencilFunc (face : Face) (op : CompareOp) (reference : Int32) (mask : UInt32)
  | stencilOp (face : Face) (fail depthFail pass : StencilOp)
  | stencilMask (face : Face) (mask : UInt32)
  | switchBlend (drawBuffer : UInt32) (on : Bool)
  | blendFunc (drawBuffer : UInt32) (sourceColor targetColor sourceAlpha targetAlpha : BlendFactor)
  | blendEquation (drawBuffer : UInt32) (color alpha : BlendOp)
  | colorMask (drawBuffer : UInt32) (mask : WriteMask)
  | blendColor (color : Vec4)
  -- drawing
  | clearColor (color : Vec4)
  | clearDepth (depth : Binary32)
  | clearStencil (stencil : Int32)
  | clear (color depth stencil : Bool)
  | viewport (x y width height : Int32)
  | scissor (x y width height : Int32)
  | drawArrays (topology : Topology) (first count : Int32)
  | drawElements (topology : Topology) (count offset base : Int32)
  /-- Have messages reported to the library. -/
  | debugMessageCallback
deriving DecidableEq

/-! ## Questions -/

/-- What a driver can be asked to create. -/
inductive GlObject where
  | buffer
  | texture
  | sampler
  | framebuffer
  | vertexArray
  | shader (stage : Stage)
  | program
deriving DecidableEq, Repr

def GlObject.kind : GlObject → ObjectKind
  | .buffer => .buffer
  | .texture => .texture
  | .sampler => .sampler
  | .framebuffer => .framebuffer
  | .vertexArray => .vertexArray
  | .shader _ => .shader
  | .program => .program

inductive GlQuery where
  /-- A new object; no object if there can be none. -/
  | create (object : GlObject)
  | bufferContents (target : BufferTarget) (offset : Int32) (length : Nat)
  /-- The texture bound in the active unit. -/
  | boundTexture
  | boundFramebuffer
  | boundVertexArray
  | framebufferStatus
  /-- What a compilation said if it failed. -/
  | compileFailure (shader : GlName)
  /-- What linking said if it failed. -/
  | linkFailure (program : GlName)
  /-- Negative if there is no such uniform. -/
  | uniformLocation (program : GlName) (name : String)
  /-- Negative if there is no such attribute. -/
  | attributeLocation (program : GlName) (name : String)
  | activeUniformCount (program : GlName)
  /-- The name of an active uniform. -/
  | activeUniform (program : GlName) (index : Nat)
deriving DecidableEq

def GlQuery.Reply : GlQuery → Type
  | .create _ | .boundTexture | .boundFramebuffer | .boundVertexArray => GlName
  | .bufferContents .. => List UInt8
  | .framebufferStatus => UInt32
  | .compileFailure _ | .linkFailure _ | .activeUniform .. => Option String
  | .uniformLocation .. | .attributeLocation .. => Int32
  | .activeUniformCount _ => Nat

/-! ## Drivers -/

/-- The limits a driver tells. -/
inductive GlLimit where
  | textureSize
  | textureUnits
  | vertexAttributes
  | uniformLocations
  | colorAttachments
deriving DecidableEq, Repr

/-- A type of states that form a driver. -/
class GlDriver (δ : Type) where
  versionText : δ → String
  renderer : δ → String
  extensions : δ → List String
  limit : GlLimit → δ → Int32
  maxAnisotropy : δ → Binary32
  run : GlCommand → δ → δ
  ask : (q : GlQuery) → δ → q.Reply × δ

/-- A driver that writes down what it was told and asked. -/
class RecordingDriver (δ : Type) extends GlDriver δ where
  /-- How much was written down so far. -/
  recorded : δ → Nat
  /-- The lines for what was written down from a point on. -/
  linesSince : Nat → δ → List String

end RenderKit
