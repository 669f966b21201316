import RenderKit.Proofs.Resources.Textures
import RenderKit.Resource.Image.Png

set_option autoImplicit false

/-! # Textures from image files

An image that can be read is uploaded whole, with its lowest row first and each sample brought to
eight bits. The bytes always cover the texture, so the device is asked whatever the image is, and
whatever pixels a plan brings along for a texture without a file. -/

namespace RenderKit

/-- The formats with one to four channels of eight bits. -/
def byteFormats : List TextureFormat := [.r8, .rg8, .rgb8, .rgba8]

theorem exists_byteFormat {n : Nat} (h : 1 ≤ n ∧ n ≤ 4) :
    ∃ format, byteFormats[n - 1]? = some format ∧ TextureFormat.ofChannels? n = some format ∧
      format.imageChannels = n := by
  obtain rfl | rfl | rfl | rfl : n = 1 ∨ n = 2 ∨ n = 3 ∨ n = 4 := by omega
  · exact ⟨.r8, rfl, rfl, rfl⟩
  · exact ⟨.rg8, rfl, rfl, rfl⟩
  · exact ⟨.rgb8, rfl, rfl, rfl⟩
  · exact ⟨.rgba8, rfl, rfl, rfl⟩

/-! ## Bytes of an image -/

section Codecs

variable [ImageCodec]

/-- A description and bytes are those of an image that stands upside down: the first row of the
    bytes is the lowest one of the image, and every sample is brought to eight bits. -/
structure Image.Uploaded (i : Image ImageCodec.Sample) (desc : TextureDesc) (data : List UInt8) :
    Prop where
  width_eq : desc.width = i.width
  height_eq : desc.height = i.height
  format_eq : byteFormats[i.channels - 1]? = some desc.format
  length_eq : data.length = i.width.toNat * i.height.toNat * i.channels
  byte_eq : ∀ row < i.height.toNat, ∀ column < i.width.toNat, ∀ channel < i.channels,
    ∃ sample, i.sample? (i.height.toNat - 1 - row) column channel = some sample ∧
      data[(row * i.width.toNat + column) * i.channels + channel]? =
        some (ImageCodec.toByte sample)

namespace Image

variable (i : Image ImageCodec.Sample)

/-- The bytes of the image upside down. -/
def turnedBytes : List UInt8 := (ImageCodec.flip i).samples.map ImageCodec.toByte

theorem length_turnedBytes :
    i.turnedBytes.length = i.width.toNat * i.height.toNat * i.channels := by
  rw [turnedBytes, List.length_map, length_samples]
  simp only [ImageCodec.width_flip, ImageCodec.height_flip, ImageCodec.channels_flip]

theorem turnedBytes_eq {row column channel : Nat} (hrow : row < i.height.toNat)
    (hcolumn : column < i.width.toNat) (hchannel : channel < i.channels) :
    ∃ sample, i.sample? (i.height.toNat - 1 - row) column channel = some sample ∧
      i.turnedBytes[(row * i.width.toNat + column) * i.channels + channel]? =
        some (ImageCodec.toByte sample) := by
  have hturned : i.height.toNat - 1 - row < i.height.toNat := by omega
  obtain ⟨sample, hsample⟩ := i.exists_sample hcolumn hchannel hturned
  refine ⟨sample, hsample, ?_⟩
  have hcolumn' : column < (ImageCodec.flip i).width.toNat := by rwa [ImageCodec.width_flip]
  have hchannel' : channel < (ImageCodec.flip i).channels := by rwa [ImageCodec.channels_flip]
  have hplace := (ImageCodec.flip i).getElem?_samples hcolumn' hchannel' row
  rw [ImageCodec.sample?_flip i column channel hrow, hsample, ImageCodec.width_flip,
    ImageCodec.channels_flip] at hplace
  rw [turnedBytes, List.getElem?_map]
  exact congrArg (Option.map ImageCodec.toByte) hplace

end Image

/-! ## Textures of images -/

section Textures

variable {σ : Type} {files : Files} {path : String} {node : FileNode}
  {image : Image ImageCodec.Sample}

/-- Reading an image that is there changes nothing, and its pixels keep their channels. -/
theorem run_loadImage (hnode : files.lookup path = .ok node)
    (hdecoded : ImageCodec.decode path node = .ok image) {format : TextureFormat}
    (hformat : TextureFormat.ofChannels? image.channels = some format)
    (hchannels : format.imageChannels = image.channels) (w : World σ) :
    (loadImage files path : Render σ _).run.run w =
      (.ok (image.width, image.height, format, image.turnedBytes), w) := by
  have hbytes : ImageCodec.bytes format.imageChannels (ImageCodec.flip image) =
      image.turnedBytes := by
    rw [hchannels, ← ImageCodec.channels_flip image]
    exact ImageCodec.bytes_channels (ImageCodec.flip image)
  unfold loadImage
  simp only [hnode, hdecoded, Except.map, ImageCodec.channels_flip, hformat,
    ImageCodec.width_flip, ImageCodec.height_flip, hbytes]
  rfl

namespace Texture

variable [GraphicsDevice σ]

/-- What becomes of a plan. -/
def built (files : Files) (p : TexturePlan) (w : World σ) :
    Except Halt (Ref Texture) × World σ :=
  (build files p).run.run w

/-- The device is asked for the texture of an image that can be read, with all bytes of the image
    upside down, whatever other pixels there are in the plan, and what it replies is the outcome. -/
theorem image_uploaded_whole (hnode : files.lookup path = .ok node)
    (hdecoded : ImageCodec.decode path node = .ok image) (hwidth : 0 < image.width)
    (hheight : 0 < image.height) (hchannels : 1 ≤ image.channels ∧ image.channels ≤ 4)
    (srgb mipmaps : Bool) :
    ∃ desc data, image.Uploaded desc data ∧ desc.srgb = srgb ∧ desc.mipmaps = mipmaps ∧
      ∀ (other : Option (List UInt8)) (w : World σ),
        (built files ⟨.file path, other, srgb, mipmaps⟩ w).2.history =
            w.history ++ [⟨.createTexture desc (some data), reply desc (some data) w⟩] ∧
          Replied desc (reply desc (some data) w)
            (built files ⟨.file path, other, srgb, mipmaps⟩ w).1
            (built files ⟨.file path, other, srgb, mipmaps⟩ w).2 := by
  obtain ⟨format, hbyte, hformat, hkept⟩ := exists_byteFormat hchannels
  let desc : TextureDesc := ⟨image.width, image.height, format, srgb, mipmaps⟩
  have hsize : desc.fullSize = image.turnedBytes.length := by
    rw [image.length_turnedBytes, TextureDesc.fullSize,
      TextureFormat.bytesPerPixel_of_ofChannels? hformat]
  have hflat : ¬desc.Flat := by
    rintro (h | h)
    · exact UInt32.lt_irrefl 0 (h ▸ hwidth)
    · exact UInt32.lt_irrefl 0 (h ▸ hheight)
  have hcounted : ¬desc.Uncounted (some image.turnedBytes) := by
    rintro ⟨-, h⟩
    have hlt := image.size_lt
    rw [← image.length_turnedBytes] at hlt
    omega
  have hcovered : ¬desc.Uncovered (some image.turnedBytes) := by
    rintro ⟨given, hgiven, h⟩
    rw [← Option.mem_some.mp hgiven, hsize] at h
    exact lt_irrefl _ h
  refine ⟨desc, image.turnedBytes, ⟨rfl, rfl, hbyte, image.length_turnedBytes, ?_⟩, rfl, rfl, ?_⟩
  · exact fun row hrow column hcolumn channel hchannel =>
      image.turnedBytes_eq hrow hcolumn hchannel
  · intro other w
    have hbuilt : built files ⟨.file path, other, srgb, mipmaps⟩ w =
        created desc (some image.turnedBytes) w := by
      show (loadImage files path >>= _).run.run w = _
      rw [run_bind, run_loadImage hnode hdecoded hformat hkept]
      rfl
    rw [hbuilt]
    exact created_of_covered hflat hcounted hcovered w

end Texture

end Textures

end Codecs

/-! ## Two deep samples -/

namespace Texture

/-- A file with one sample of sixteen bits above another. -/
def deepFile : FileNode := .file
  [137, 80, 78, 71, 13, 10, 26, 10, 0, 0, 0, 13, 73, 72, 68, 82, 0, 0, 0, 1, 0, 0, 0, 2, 16, 0, 0,
   0, 0, 236, 122, 53, 184, 0, 0, 0, 17, 73, 68, 65, 84, 120, 1, 1, 6, 0, 249, 255, 0, 128, 0, 0,
   1, 2, 2, 138, 0, 132, 164, 233, 136, 176, 0, 0, 0, 0, 73, 69, 78, 68, 174, 66, 96, 130]

def deepFiles : Files := Files.empty.insert "deep.png" deepFile

def deepImage : Image Png.Sample where
  width := 1
  height := 2
  channels := 1
  rows := [[.deep 0x8000], [.deep 0x0102]]
  length_rows := rfl
  length_of_mem_rows := by decide
  size_lt := by decide

/-- What is uploaded is the lower sample and then the upper one, of eight bits each. -/
theorem image_uploaded_whole_deep :
    deepFiles.lookup "deep.png" = .ok deepFile ∧
      ImageCodec.decode "deep.png" deepFile = .ok deepImage ∧
      0 < deepImage.width ∧ 0 < deepImage.height ∧
      (1 ≤ deepImage.channels ∧ deepImage.channels ≤ 4) ∧
      ∃ desc data, Image.Uploaded deepImage desc data ∧ desc.srgb = true ∧ desc.mipmaps = false ∧
        ∀ (other : Option (List UInt8)) (w : World ScriptedDevice),
          (built deepFiles ⟨.file "deep.png", other, true, false⟩ w).2.history =
              w.history ++ [⟨.createTexture desc (some data), reply desc (some data) w⟩] ∧
            Replied desc (reply desc (some data) w)
              (built deepFiles ⟨.file "deep.png", other, true, false⟩ w).1
              (built deepFiles ⟨.file "deep.png", other, true, false⟩ w).2 := by
  have hnode : deepFiles.lookup "deep.png" = .ok deepFile := by decide +kernel
  have hdecoded : ImageCodec.decode "deep.png" deepFile = .ok deepImage :=
    Png.decode_of_read (by decide +kernel)
  exact ⟨hnode, hdecoded, by decide, by decide, by decide,
    image_uploaded_whole hnode hdecoded (by decide) (by decide) (by decide) true false⟩

end Texture

end RenderKit
