import RenderKit.Resource.Image.Codec
import RenderKit.World

set_option autoImplicit false

/-! # Textures

A texture is created empty, from pixels, or from an image file. Given pixels must cover it all.
Images are turned upside down, because the first row of a texture is its lowest. -/

namespace RenderKit

inductive TextureError where
  | noExtent (width height : UInt32)
  | dataTooShort (length : Nat) (desc : TextureDesc) (needed : UInt64)
  | undecodable (path report : String)
  | channels (count : Nat) (path : String)
deriving DecidableEq, Repr

/-- Two sides with a cross between them. -/
def sizeText (width height : UInt32) : String :=
  toString width.toNat ++ "x" ++ toString height.toNat

instance : Cause TextureError where
  source _ := "cbox::texture"
  kind
    | .noExtent _ _ | .dataTooShort _ _ _ => .invalidState
    | .undecodable _ _ | .channels _ _ => .invalidFormat
  message
    | .noExtent width height =>
        "Texture dimensions cannot be 0 (" ++ sizeText width height ++ ")"
    | .dataTooShort length desc needed =>
        "Texture data is " ++ toString length ++ " bytes, " ++ sizeText desc.width desc.height
          ++ " " ++ nameOf desc.format ++ " needs " ++ toString needed.toNat
    | .undecodable path report => "Failed to decode " ++ path ++ ": " ++ report
    | .channels count path =>
        "Unsupported channel count " ++ toString count ++ " in " ++ path

/-! ## Image files -/

/-- The channels that the pixels of a format are taken with from an image. -/
def TextureFormat.imageChannels : TextureFormat → Nat
  | .r8 => 1
  | .rg8 => 2
  | .rgb8 => 3
  | _ => 4

/-- An image as it is uploaded: its size, its format and its bytes from the lowest row up. -/
def loadImage [ImageCodec] {σ : Type} (files : Files) (path : String) :
    Render σ (UInt32 × UInt32 × TextureFormat × List UInt8) := do
  match files.lookup path with
  | .error fault => do
      let e := Error.ofRead fault path
      note .error "cbox::texture" e.text
      raise e
  | .ok node =>
      match (ImageCodec.decode path node).map ImageCodec.flip with
      | .error report => reject (TextureError.undecodable path report)
      | .ok image =>
          match TextureFormat.ofChannels? image.channels with
          | none => reject (TextureError.channels image.channels path)
          | some format =>
              return (image.width, image.height, format,
                ImageCodec.bytes format.imageChannels image)

/-! ## Textures -/

/-- Where a texture has its size and its format from. -/
inductive TextureOrigin where
  | blank (width height : UInt32) (format : TextureFormat)
  /-- An image file. It brings pixels of its own. -/
  | file (path : String)
deriving DecidableEq, Repr

/-- A texture that is to be created. -/
structure TexturePlan where
  origin : TextureOrigin
  /-- Pixels for a texture that is not from a file. -/
  data : Option (List UInt8) := none
  srgb : Bool := false
  mipmaps : Bool := false
deriving DecidableEq, Repr

namespace Texture

variable {σ : Type} [GraphicsDevice σ]

instance : Owned Texture where
  discard t := ask (.deleteTexture t.handle)

def debugText (t : Texture) : String :=
  recordText "Texture2D"
    [("handle", t.handle.debugText),
     ("desc", recordText "TextureDesc"
       [("width", toString t.desc.width.toNat), ("height", toString t.desc.height.toNat),
        ("format", nameOf t.desc.format), ("srgb", boolText t.desc.srgb),
        ("mipmaps", boolText t.desc.mipmaps)])]

/-- Create a texture. Data that does not reach to its end is refused; where 64 bits cannot hold
    the number of bytes that data has to reach, the creation is cut off. -/
def create (desc : TextureDesc) (data? : Option (List UInt8)) : Render σ (Ref Texture) := do
  if desc.width = 0 || desc.height = 0 then
    reject (TextureError.noExtent desc.width desc.height)
  match data? with
  | none => pure ()
  | some data =>
      match desc.byteSize? with
      | none => abort
      | some needed =>
          if data.length < needed.toNat then
            reject (TextureError.dataTooShort data.length desc needed)
  let handle ← settle (← ask (.createTexture desc data?))
  note .debug "cbox::texture"
    ("Created texture " ++ handle.text ++ " (" ++ sizeText desc.width desc.height ++ " "
      ++ nameOf desc.format ++ ")")
  share { handle := handle, desc := desc }

/-- Create a texture from an image file. -/
def ofFile [ImageCodec] (files : Files) (path : String) (srgb mipmaps : Bool) :
    Render σ (Ref Texture) := do
  let (width, height, format, bytes) ← loadImage files path
  create
    { width := width, height := height, format := format, srgb := srgb, mipmaps := mipmaps }
    (some bytes)

/-- Create a texture by a plan. -/
def build [ImageCodec] (files : Files) (p : TexturePlan) : Render σ (Ref Texture) :=
  match p.origin with
  | .blank width height format =>
      create
        { width := width, height := height, format := format, srgb := p.srgb
          mipmaps := p.mipmaps }
        p.data
  | .file path => ofFile files path p.srgb p.mipmaps

def bind (r : Ref Texture) (slot : UInt32) : Render σ Unit := do
  let t ← view r
  ask (.bindTexture slot (some t.handle))

/-- Bind nothing in a slot. -/
def unbind (slot : UInt32) : Render σ Unit := ask (.bindTexture slot none)

end Texture

end RenderKit
