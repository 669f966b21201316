import RenderKit.Named
import RenderKit.Number.Vector

set_option autoImplicit false

/-! # Descriptions of resources

What a device needs to know to create a buffer, a texture or a sampler. -/

namespace RenderKit

/-! ## Buffers -/

/-- What a buffer is bound as. -/
inductive BufferKind where
  | vertex
  /-- Indices of 32 bits. -/
  | index
  | uniform
  | storage
deriving DecidableEq, Repr

instance : Named BufferKind where
  all := [.vertex, .index, .uniform, .storage]
  name
    | .vertex => "Vertex"
    | .index => "Index"
    | .uniform => "Uniform"
    | .storage => "Storage"

/-- How often a buffer is rewritten. -/
inductive BufferUsage where
  | static
  | dynamic
  | stream
deriving DecidableEq, Repr

instance : Named BufferUsage where
  all := [.static, .dynamic, .stream]
  name
    | .static => "Static"
    | .dynamic => "Dynamic"
    | .stream => "Stream"

/-! ## Textures -/

inductive TextureFormat where
  | r8
  | rg8
  | rgb8
  | rgba8
  | r16f
  | rg16f
  | rgb16f
  | rgba16f
  | r32f
  | rg32f
  | rgb32f
  | rgba32f
  | depth24Stencil8
  | depth32f
deriving DecidableEq, Repr

instance : Named TextureFormat where
  all := [.r8, .rg8, .rgb8, .rgba8, .r16f, .rg16f, .rgb16f, .rgba16f, .r32f, .rg32f, .rgb32f,
    .rgba32f, .depth24Stencil8, .depth32f]
  name
    | .r8 => "R8"
    | .rg8 => "RG8"
    | .rgb8 => "RGB8"
    | .rgba8 => "RGBA8"
    | .r16f => "R16F"
    | .rg16f => "RG16F"
    | .rgb16f => "RGB16F"
    | .rgba16f => "RGBA16F"
    | .r32f => "R32F"
    | .rg32f => "RG32F"
    | .rgb32f => "RGB32F"
    | .rgba32f => "RGBA32F"
    | .depth24Stencil8 => "Depth24Stencil8"
    | .depth32f => "Depth32F"

namespace TextureFormat

/-- Whether the format holds depths. -/
def isDepth : TextureFormat → Bool
  | .depth24Stencil8 | .depth32f => true
  | _ => false

/-- Whether the format holds stencil values too. -/
def hasStencil : TextureFormat → Bool
  | .depth24Stencil8 => true
  | _ => false

/-- The bytes of one pixel. -/
def bytesPerPixel : TextureFormat → Nat
  | .r8 => 1
  | .rg8 => 2
  | .rgb8 => 3
  | .rgba8 => 4
  | .r16f => 2
  | .rg16f => 4
  | .rgb16f => 6
  | .rgba16f => 8
  | .r32f => 4
  | .rg32f => 8
  | .rgb32f => 12
  | .rgba32f => 16
  | .depth24Stencil8 => 4
  | .depth32f => 4

/-- The format of pixels with a number of channels of eight bits. -/
def ofChannels? : Nat → Option TextureFormat
  | 1 => some .r8
  | 2 => some .rg8
  | 3 => some .rgb8
  | 4 => some .rgba8
  | _ => none

theorem bytesPerPixel_of_ofChannels? {n : Nat} {f : TextureFormat} (h : ofChannels? n = some f) :
    f.bytesPerPixel = n := by
  unfold ofChannels? at h
  split at h <;> simp_all [bytesPerPixel] <;> subst h <;> rfl

end TextureFormat

/-- A texture to be created. -/
structure TextureDesc where
  width : UInt32
  height : UInt32
  format : TextureFormat
  /-- Colors of eight bits are kept in the sRGB curve. -/
  srgb : Bool
  /-- Smaller levels are made after the upload. -/
  mipmaps : Bool
deriving DecidableEq, Repr

namespace TextureDesc

/-- The bytes of a full upload, as a number. -/
def fullSize (d : TextureDesc) : Nat :=
  d.width.toNat * d.height.toNat * d.format.bytesPerPixel

/-- The bytes of a full upload, if 64 bits can hold their number. The product of the sides always
    fits, so only the last factor can leave the range. -/
def byteSize? (d : TextureDesc) : Option UInt64 :=
  if d.fullSize < UInt64.size then some d.fullSize.toUInt64 else none

theorem byteSize?_eq_some_iff {d : TextureDesc} {n : UInt64} :
    d.byteSize? = some n ↔ n.toNat = d.fullSize := by
  unfold byteSize?
  constructor
  · intro h
    split at h
    · rename_i hlt
      cases h
      simp only [UInt64.size] at hlt
      simp only [Nat.toUInt64, UInt64.toNat_ofNat']
      omega
    · cases h
  · intro h
    have hlt : d.fullSize < UInt64.size := h ▸ n.toNat_lt
    rw [if_pos hlt, ← h]
    simp [Nat.toUInt64]

end TextureDesc

/-! ## Samplers -/

inductive Filter where
  | nearest
  | linear
deriving DecidableEq, Repr

instance : Named Filter where
  all := [.nearest, .linear]
  name
    | .nearest => "Nearest"
    | .linear => "Linear"

/-- How a texture continues outside the unit square. -/
inductive WrapMode where
  | repeated
  | mirrored
  | clampToEdge
  | clampToBorder
deriving DecidableEq, Repr

instance : Named WrapMode where
  all := [.repeated, .mirrored, .clampToEdge, .clampToBorder]
  name
    | .repeated => "Repeat"
    | .mirrored => "MirroredRepeat"
    | .clampToEdge => "ClampToEdge"
    | .clampToBorder => "ClampToBorder"

structure SamplerDesc where
  minFilter : Filter
  magFilter : Filter
  /-- The filter between levels. -/
  mipmapMode : Filter
  wrapU : WrapMode
  wrapV : WrapMode
  wrapW : WrapMode
  anisotropy : Binary32
  borderColor : Vec4
deriving DecidableEq, Repr

namespace SamplerDesc

/-- Linear filters everywhere, repetition, and a black border. -/
def standard : SamplerDesc :=
  { minFilter := .linear
    magFilter := .linear
    mipmapMode := .linear
    wrapU := .repeated
    wrapV := .repeated
    wrapW := .repeated
    anisotropy := .one
    borderColor := .black }

/-- The anisotropy to be applied; one and less have no effect. -/
def effectiveAnisotropy? (d : SamplerDesc) : Option Binary32 :=
  if Binary32.one.lt d.anisotropy then some d.anisotropy else none

/-- The settings on one line; a missing value is shown as a dash. -/
def text (d : SamplerDesc) : String :=
  let effective := match d.effectiveAnisotropy? with
    | some x => x.text
    | none => "-"
  "min=" ++ nameOf d.minFilter ++ " mag=" ++ nameOf d.magFilter ++ " mip=" ++ nameOf d.mipmapMode
    ++ " wrap=" ++ nameOf d.wrapU ++ "," ++ nameOf d.wrapV ++ "," ++ nameOf d.wrapW
    ++ " aniso=" ++ d.anisotropy.text ++ " effective=" ++ effective
    ++ " border=" ++ d.borderColor.text

end SamplerDesc

/-! ## Attachments -/

/-- Where a texture is attached to a framebuffer. -/
inductive AttachmentPoint where
  | color
  | depth
  | stencil
  | depthStencil
deriving DecidableEq, Repr

instance : Named AttachmentPoint where
  all := [.color, .depth, .stencil, .depthStencil]
  name
    | .color => "Color"
    | .depth => "Depth"
    | .stencil => "Stencil"
    | .depthStencil => "DepthStencil"

end RenderKit
