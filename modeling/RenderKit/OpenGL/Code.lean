import RenderKit.Device.Request

set_option autoImplicit false

/-! # Numbers of OpenGL

OpenGL calls everything by numbers. Here is what can be named in a call, and the number for each
name and for each setting of the library. -/

namespace RenderKit

/-! ## Buffers -/

/-- Where a buffer can be bound. The two targets for copies are nobody's state: uploads and
    downloads through them disturb nothing. -/
inductive BufferTarget where
  | array
  /-- Part of the vertex array that is bound. -/
  | elementArray
  | uniform
  | shaderStorage
  | copyRead
  | copyWrite
deriving DecidableEq, Repr

def BufferTarget.code : BufferTarget → UInt32
  | .array => 0x8892
  | .elementArray => 0x8893
  | .uniform => 0x8a11
  | .shaderStorage => 0x90d2
  | .copyRead => 0x8f36
  | .copyWrite => 0x8f37

/-- The target buffers of a kind are bound to. -/
def BufferKind.target : BufferKind → BufferTarget
  | .vertex => .array
  | .index => .elementArray
  | .uniform => .uniform
  | .storage => .shaderStorage

def BufferUsage.code : BufferUsage → UInt32
  | .static => 0x88e4
  | .dynamic => 0x88e8
  | .stream => 0x88e0

/-! ## Textures -/

/-- The channels of a pixel that is uploaded. -/
inductive PixelFormat where
  | red
  | rg
  | rgb
  | rgba
  | depth
  | depthStencil
deriving DecidableEq, Repr

namespace PixelFormat

def code : PixelFormat → UInt32
  | .red => 0x1903
  | .rg => 0x8227
  | .rgb => 0x1907
  | .rgba => 0x1908
  | .depth => 0x1902
  | .depthStencil => 0x84f9

/-- The number of channels. -/
def channels : PixelFormat → Nat
  | .red | .depth => 1
  | .rg | .depthStencil => 2
  | .rgb => 3
  | .rgba => 4

end PixelFormat

/-- How the channels of a pixel are stored. -/
inductive PixelType where
  | byte
  | float
  /-- Depth and stencil in one word. -/
  | packed24And8
deriving DecidableEq, Repr

def PixelType.code : PixelType → UInt32
  | .byte => 0x1401
  | .float => 0x1406
  | .packed24And8 => 0x84fa

/-- How a texture is kept, and how its pixels are read when it is uploaded. -/
structure UploadFormat where
  kept : UInt32
  pixel : PixelFormat
  type : PixelType
deriving DecidableEq, Repr

namespace UploadFormat

/-- The format of an upload. The sRGB curve is only for three and four channels of a byte. -/
def of (format : TextureFormat) (srgb : Bool) : UploadFormat :=
  match format with
  | .r8 => ⟨0x8229, .red, .byte⟩
  | .rg8 => ⟨0x822b, .rg, .byte⟩
  | .rgb8 => ⟨if srgb then 0x8c41 else 0x8051, .rgb, .byte⟩
  | .rgba8 => ⟨if srgb then 0x8c43 else 0x8058, .rgba, .byte⟩
  | .r16f => ⟨0x822d, .red, .float⟩
  | .rg16f => ⟨0x822f, .rg, .float⟩
  | .rgb16f => ⟨0x881b, .rgb, .float⟩
  | .rgba16f => ⟨0x881a, .rgba, .float⟩
  | .r32f => ⟨0x822e, .red, .float⟩
  | .rg32f => ⟨0x8230, .rg, .float⟩
  | .rgb32f => ⟨0x8815, .rgb, .float⟩
  | .rgba32f => ⟨0x8814, .rgba, .float⟩
  | .depth24Stencil8 => ⟨0x88f0, .depthStencil, .packed24And8⟩
  | .depth32f => ⟨0x8cac, .depth, .float⟩

/-- The bytes that are read for one pixel. -/
def bytesPerPixel (f : UploadFormat) : Nat :=
  match f.type with
  | .byte => f.pixel.channels
  | .float => f.pixel.channels * 4
  | .packed24And8 => 4

end UploadFormat

/-- The filter for magnified textures, and for any texture without levels. -/
def Filter.code : Filter → UInt32
  | .nearest => 0x2600
  | .linear => 0x2601

/-- The filter for reduced textures: within a level and between levels. -/
def Filter.mipmapCode : Filter → Filter → UInt32
  | .nearest, .nearest => 0x2700
  | .linear, .nearest => 0x2701
  | .nearest, .linear => 0x2702
  | .linear, .linear => 0x2703

def WrapMode.code : WrapMode → UInt32
  | .repeated => 0x2901
  | .mirrored => 0x8370
  | .clampToEdge => 0x812f
  | .clampToBorder => 0x812d

/-- What can be set about the sampling of a texture. -/
inductive SamplingParameter where
  | minFilter
  | magFilter
  | wrapS
  | wrapT
  | wrapR
  | maxLevel
deriving DecidableEq, Repr

def SamplingParameter.code : SamplingParameter → UInt32
  | .minFilter => 0x2801
  | .magFilter => 0x2800
  | .wrapS => 0x2802
  | .wrapT => 0x2803
  | .wrapR => 0x8072
  | .maxLevel => 0x813d

/-- The unit of the slot zero; the others follow. -/
def firstTextureUnit : UInt32 := 0x84c0

/-! ## Framebuffers -/

/-- Where a texture is attached. -/
inductive AttachmentSlot where
  | color (index : UInt32)
  | depth
  | stencil
  | depthStencil
deriving DecidableEq, Repr

def AttachmentSlot.code : AttachmentSlot → UInt32
  | .color index => 0x8ce0 + index
  | .depth => 0x8d00
  | .stencil => 0x8d20
  | .depthStencil => 0x821a

/-- The slot of a texture that is not for colors. -/
def AttachmentPoint.depthSlot? : AttachmentPoint → Option AttachmentSlot
  | .color => none
  | .depth => some .depth
  | .stencil => some .stencil
  | .depthStencil => some .depthStencil

/-- The status of a framebuffer that can be drawn to. -/
def framebufferComplete : UInt32 := 0x8cd5

/-! ## Shaders and vertices -/

def Stage.code : Stage → UInt32
  | .vertex => 0x8b31
  | .fragment => 0x8b30
  | .geometry => 0x8dd9
  | .compute => 0x91b9
  | .tessControl => 0x8e88
  | .tessEvaluation => 0x8e87

def VertexScalar.code : VertexScalar → UInt32
  | .float => 0x1406
  | .int => 0x1404
  | .uint => 0x1405

/-- The type of the indices of a draw. -/
def indexTypeCode : UInt32 := 0x1405

def Topology.code : Topology → UInt32
  | .pointList => 0
  | .lineList => 1
  | .lineStrip => 3
  | .triangleList => 4
  | .triangleStrip => 5
  | .triangleFan => 6

/-! ## Fixed functions -/

/-- What can be switched on and off. -/
inductive GlSwitch where
  | debugOutput
  | debugOutputSynchronous
  | cullFace
  | polygonOffset (mode : PolygonMode)
  | depthClamp
  | scissorTest
  | depthTest
  | stencilTest
deriving DecidableEq, Repr

def GlSwitch.code : GlSwitch → UInt32
  | .debugOutput => 0x92e0
  | .debugOutputSynchronous => 0x8242
  | .cullFace => 0x0b44
  | .polygonOffset .fill => 0x8037
  | .polygonOffset .line => 0x2a02
  | .polygonOffset .point => 0x2a01
  | .depthClamp => 0x864f
  | .scissorTest => 0x0c11
  | .depthTest => 0x0b71
  | .stencilTest => 0x0b90

/-- The capability of blending, which is switched for each draw buffer. -/
def blendCode : UInt32 := 0x0be2

/-- The sides of a face. -/
inductive Face where
  | front
  | back
  | frontAndBack
deriving DecidableEq, Repr

def Face.code : Face → UInt32
  | .front => 0x0404
  | .back => 0x0405
  | .frontAndBack => 0x0408

/-- The faces that are culled, if any. -/
def CullMode.face? : CullMode → Option Face
  | .none => Option.none
  | .front => some .front
  | .back => some .back
  | .frontAndBack => some .frontAndBack

def FrontFace.code : FrontFace → UInt32
  | .counterClockwise => 0x0901
  | .clockwise => 0x0900

def PolygonMode.code : PolygonMode → UInt32
  | .fill => 0x1b02
  | .line => 0x1b01
  | .point => 0x1b00

def CompareOp.code : CompareOp → UInt32
  | .never => 0x0200
  | .less => 0x0201
  | .equal => 0x0202
  | .lessOrEqual => 0x0203
  | .greater => 0x0204
  | .notEqual => 0x0205
  | .greaterOrEqual => 0x0206
  | .always => 0x0207

def StencilOp.code : StencilOp → UInt32
  | .keep => 0x1e00
  | .zero => 0
  | .replace => 0x1e01
  | .incrementAndClamp => 0x1e02
  | .decrementAndClamp => 0x1e03
  | .invert => 0x150a
  | .incrementAndWrap => 0x8507
  | .decrementAndWrap => 0x8508

def BlendFactor.code : BlendFactor → UInt32
  | .zero => 0
  | .one => 1
  | .srcColor => 0x0300
  | .oneMinusSrcColor => 0x0301
  | .srcAlpha => 0x0302
  | .oneMinusSrcAlpha => 0x0303
  | .dstAlpha => 0x0304
  | .oneMinusDstAlpha => 0x0305
  | .dstColor => 0x0306
  | .oneMinusDstColor => 0x0307
  | .constantColor => 0x8001
  | .oneMinusConstantColor => 0x8002
  | .constantAlpha => 0x8003
  | .oneMinusConstantAlpha => 0x8004

def BlendOp.code : BlendOp → UInt32
  | .add => 0x8006
  | .min => 0x8007
  | .max => 0x8008
  | .subtract => 0x800a
  | .reverseSubtract => 0x800b

end RenderKit
