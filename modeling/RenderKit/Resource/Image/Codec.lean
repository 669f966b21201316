import RenderKit.Files
import RenderKit.Resource.Image.Basic

set_option autoImplicit false

/-! # Reading image files

Which files hold an image, of what depth its samples are, and how it is turned upside down, is up to
a codec. -/

namespace RenderKit

/-- What reads image files. -/
class ImageCodec where
  /-- A sample as it comes out of a file, of any depth. -/
  Sample : Type
  /-- A sample brought to eight bits. -/
  toByte : Sample → UInt8
  /-- The image in a file, or why there is none. The path tells what kind of file it is. -/
  decode : String → FileNode → Except String (Image Sample)
  /-- The image upside down. -/
  flip : Image Sample → Image Sample
  /-- The bytes of an image whose pixels are brought to some number of channels, of eight bits
      each. -/
  bytes : Nat → Image Sample → List UInt8
  /-- Pixels that have this number of channels keep them. -/
  bytes_channels : ∀ i, bytes i.channels i = i.samples.map toByte
  width_flip : ∀ i, (flip i).width = i.width
  height_flip : ∀ i, (flip i).height = i.height
  channels_flip : ∀ i, (flip i).channels = i.channels
  /-- The top row of the flipped image is the bottom row, and so on. -/
  sample?_flip : ∀ i {row : Nat} (column channel : Nat), row < i.height.toNat →
    (flip i).sample? row column channel = i.sample? (i.height.toNat - 1 - row) column channel

attribute [simp] ImageCodec.width_flip ImageCodec.height_flip ImageCodec.channels_flip

end RenderKit
