import RenderKit.Proofs.OpenGL.History
import RenderKit.Proofs.OpenGL.Transcript
import RenderKit.Resource.Image.Png
import RenderKit.Resource.Texture

set_option autoImplicit false

/-! # What uploads read

A driver that is handed pixels is not told how many bytes there are: it reads as many as the size,
the pixel format and the pixel type come to. Data that is checked to reach to the end of a texture
can still be too short, because floats of 16 bits are uploaded as floats of 32 bits. -/

namespace RenderKit

/-! ## Uploads -/

/-- Pixels that a driver reads from a slice of bytes. -/
structure Upload where
  format : UploadFormat
  width : Int32
  height : Int32
  /-- The boundary at which rows begin. -/
  alignment : Int32
  data : List UInt8
deriving DecidableEq

namespace Upload

/-- The bytes of the pixels of a row. -/
def rowBytes (u : Upload) : Nat := u.width.toNatClampNeg * u.format.bytesPerPixel

/-- The bytes from the beginning of a row to the beginning of the next one. -/
def rowPitch (u : Upload) : Nat :=
  let boundary := u.alignment.toNatClampNeg
  (u.rowBytes + (boundary - 1)) / boundary * boundary

/-- The bytes that are read. Behind the last row nothing is filled up. -/
def bytesRead (u : Upload) : Nat :=
  match u.height.toNatClampNeg with
  | 0 => 0
  | rows + 1 => rows * u.rowPitch + u.rowBytes

/-- Rows that follow each other without a gap. -/
theorem bytesRead_of_alignment_eq_one {u : Upload} (h : u.alignment = 1) :
    u.bytesRead = u.width.toNatClampNeg * u.height.toNatClampNeg * u.format.bytesPerPixel := by
  have hpitch : u.rowPitch = u.rowBytes := by
    rw [rowPitch, h]
    simp
  have hrows : u.bytesRead = u.height.toNatClampNeg * u.rowBytes := by
    rw [bytesRead]
    split
    · rename_i hheight
      rw [hheight, Nat.zero_mul]
    · rename_i rows hheight
      rw [hheight, hpitch, Nat.succ_mul]
  rw [hrows, rowBytes, Nat.mul_left_comm, Nat.mul_assoc]

end Upload

/-- How a driver reads pixels, and what it has read. -/
structure PixelStore where
  alignment : Int32
  uploads : List Upload

namespace PixelStore

def initial : PixelStore := ⟨4, []⟩

def run (s : PixelStore) : GlCommand → PixelStore
  | .unpackAlignment bytes => { s with alignment := bytes }
  | .texImage format width height (some data) =>
      { s with uploads := s.uploads ++ [⟨format, width, height, s.alignment, data⟩] }
  | _ => s

def runAll (s : PixelStore) (cs : List GlCommand) : PixelStore := cs.foldl run s

theorem runAll_append (s : PixelStore) (cs ds : List GlCommand) :
    s.runAll (cs ++ ds) = (s.runAll cs).runAll ds := List.foldl_append

/-- The commands for a texture upload its data once, without gaps between the rows. -/
theorem runAll_textureCommands (s : PixelStore) (desc : TextureDesc) (width height : Int32)
    (data : List UInt8) :
    s.runAll (GlDevice.textureCommands desc width height (some data)) =
      ⟨1, s.uploads ++ [⟨.of desc.format desc.srgb, width, height, 1, data⟩]⟩ := by
  cases hmipmaps : desc.mipmaps
  · simp [GlDevice.textureCommands, runAll, run, hmipmaps]
  · simp [GlDevice.textureCommands, runAll, run, hmipmaps]

end PixelStore

/-- The upload of all pixels of a texture. -/
def TextureDesc.upload (desc : TextureDesc) (data : List UInt8) : Upload :=
  ⟨.of desc.format desc.srgb, desc.width.toInt32, desc.height.toInt32, 1, data⟩

/-- A number that the interface has room for is handed over as it is. -/
theorem toNatClampNeg_toInt32 {n : UInt32} (h : n.toNat < 2 ^ 31) :
    n.toInt32.toNatClampNeg = n.toNat := by
  have hsame : n.toInt32 = Int32.ofNat n.toNat := by
    rw [← UInt32.toInt32_ofNat', UInt32.ofNat_toNat]
  rw [hsame, Int32.toNatClampNeg_ofNat_of_lt h]

/-- All pixels are read, if the sides are numbers of the interface. -/
theorem TextureDesc.bytesRead_upload {desc : TextureDesc} {data : List UInt8}
    (hwidth : desc.width.toNat < 2 ^ 31) (hheight : desc.height.toNat < 2 ^ 31) :
    (desc.upload data).bytesRead = desc.width.toNat * desc.height.toNat *
      (UploadFormat.of desc.format desc.srgb).bytesPerPixel := by
  rw [Upload.bytesRead_of_alignment_eq_one rfl]
  simp only [upload, toNatClampNeg_toInt32 hwidth, toNatClampNeg_toInt32 hheight]

/-- A texture within the limit that was created was uploaded once. One that was not created was
    not uploaded. -/
def TextureDesc.Uploaded (desc : TextureDesc) (data : List UInt8) (limit : UInt32)
    (before : List Upload) : Except Error TextureHandle → List Upload → Prop
  | .ok _, after =>
      (desc.width ≤ limit ∧ desc.height ≤ limit) ∧ after = before ++ [desc.upload data]
  | .error _, after => after = before

/-! ## The device -/

namespace GlDevice

variable {δ : Type} [GlDriver δ]

/-- The capabilities are those that a driver told when the device was opened. -/
def Opened (d : GlDevice δ) : Prop := ∃ driver : δ, d.capabilities = capabilitiesOf d.version driver

/-- Limits are numbers of the interface that are not negative. -/
theorem limitOf_lt (which : GlLimit) (driver : δ) : (limitOf which driver).toNat < 2 ^ 31 := by
  have hclamped : (GlDriver.limit which driver).toNatClampNeg < 2 ^ 31 := Int32.toNatClampNeg_lt _
  simp only [limitOf, Nat.toUInt32, UInt32.toNat_ofNat']
  omega

theorem Opened.maxTextureSize_lt {d : GlDevice δ} (h : d.Opened) :
    d.capabilities.maxTextureSize.toNat < 2 ^ 31 := by
  obtain ⟨driver, hcapabilities⟩ := h
  rw [hcapabilities]
  exact limitOf_lt .textureSize driver

variable [Transcribing δ] {w : Work δ} {limit length : UInt32} {desc : TextureDesc}
  {data : List UInt8}

theorem told_side :
    Runs (side length limit) w
      (fun n w' => (length ≤ limit ∧ n = length.toInt32) ∧ w'.told = w.told)
      (fun w' => w'.told = w.told) := by
  unfold side
  refine Runs.reject_if rfl fun hfits => Runs.pure ⟨⟨UInt32.not_lt.mp hfits, rfl⟩, rfl⟩

def Work.pixelStore (w : Work δ) : PixelStore := PixelStore.initial.runAll w.told

/-- A texture that is created uploads its data once; one that is not uploads nothing. -/
theorem uploads_createTexture :
    Runs (createTexture limit desc (some data)) w
      (fun _ w' => (desc.width ≤ limit ∧ desc.height ≤ limit) ∧
        w'.pixelStore.uploads = w.pixelStore.uploads ++ [desc.upload data])
      (fun w' => w'.pixelStore.uploads = w.pixelStore.uploads) := by
  have hstore : ∀ {w₁ : Work δ}, w₁.told = w.told →
      w₁.pixelStore.uploads = w.pixelStore.uploads := by
    intro w₁ h
    rw [Work.pixelStore, h, Work.pixelStore]
  refine Runs.andThen told_side (fun _ => hstore) ?_
  rintro width w₁ ⟨⟨hwidth, rfl⟩, h₁⟩
  refine Runs.andThen told_side (fun _ h => hstore (h.trans h₁)) ?_
  rintro height w₂ ⟨⟨hheight, rfl⟩, h₂⟩
  refine Runs.andThen told_create (fun _ h => hstore (h.trans (h₂.trans h₁))) ?_
  intro h w₃ h₃
  refine Runs.bind told_query fun previous w₄ h₄ => ?_
  refine Runs.bind told_tell fun _ w₅ h₅ => ?_
  refine Runs.bind told_tellAll fun _ w₆ h₆ => ?_
  refine Runs.bind told_tell fun _ w₇ h₇ => ?_
  refine Runs.bind_note (Runs.pure ⟨⟨hwidth, hheight⟩, ?_⟩)
  -- of these commands only those between the two bindings have to do with pixels
  have htold : w₇.told = w.told ++ [.bindTexture h.raw] ++
      textureCommands desc desc.width.toInt32 desc.height.toInt32 (some data) ++
      [.bindTexture previous] := by
    rw [h₇, h₆, h₅, h₄, h₃, h₂, h₁]
  show (PixelStore.initial.runAll w₇.told).uploads = _
  rw [htold, PixelStore.runAll_append, PixelStore.runAll_append,
    PixelStore.runAll_textureCommands, PixelStore.runAll_append]
  rfl

theorem uploads_serve {capabilities : Capabilities} {E : Work δ → Prop} :
    Runs (serve capabilities (.createTexture desc (some data))) w
      (fun reply w' => desc.Uploaded data capabilities.maxTextureSize w.pixelStore.uploads reply
        w'.pixelStore.uploads) E := by
  refine (runs_attempt uploads_createTexture).imp ?_
  rintro (e | h) w' hafter
  · exact hafter
  · exact hafter

end GlDevice

/-! ## Formats -/

/-- Floats of 16 bits. -/
def TextureFormat.isHalf : TextureFormat → Bool
  | .r16f | .rg16f | .rgb16f | .rgba16f => true
  | _ => false

/-- Floats of 16 bits are read as floats of 32 bits. -/
theorem UploadFormat.bytesPerPixel_of (format : TextureFormat) (srgb : Bool) :
    (UploadFormat.of format srgb).bytesPerPixel =
      if format.isHalf then 2 * format.bytesPerPixel else format.bytesPerPixel := by
  cases format <;> rfl

theorem TextureFormat.isHalf_of_ofChannels? {n : Nat} {format : TextureFormat}
    (h : ofChannels? n = some format) : format.isHalf = false := by
  unfold ofChannels? at h
  split at h
  case h_5 => cases h
  all_goals
    cases h
    rfl

/-- What the driver reads for a texture stays within data that reaches to the end of the texture,
    unless the texture has floats of 16 bits and the data does not go on as far again. -/
theorem TextureDesc.read_le_iff (desc : TextureDesc) {length : Nat}
    (hlength : desc.fullSize ≤ length) :
    desc.width.toNat * desc.height.toNat * (UploadFormat.of desc.format desc.srgb).bytesPerPixel
      ≤ length ↔ (desc.format.isHalf → 2 * desc.fullSize ≤ length) := by
  rw [UploadFormat.bytesPerPixel_of]
  cases hhalf : desc.format.isHalf
  · simpa [fullSize] using hlength
  · simp [fullSize, Nat.mul_left_comm]

/-! ## Textures -/

section Textures

variable {δ : Type} [GlDriver δ] [Transcribing δ] {w : World (GlDevice δ)} {desc : TextureDesc}
  {data : List UInt8}

/-- What the driver of a world has read. -/
def World.uploads (w : World (GlDevice δ)) : List Upload :=
  (PixelStore.initial.runAll w.told).uploads

/-- What becomes of a request for a texture. -/
theorem uploads_ask {E : World (GlDevice δ) → Prop} :
    Runs (ask (.createTexture desc (some data))) w
      (fun reply w' =>
        desc.Uploaded data w.device.capabilities.maxTextureSize w.uploads reply w'.uploads) E := by
  refine runs_ask.imp ?_
  rintro reply _ ⟨rfl, hreply⟩
  exact GlDevice.of_perform (d := w.device) (r := .createTexture desc (some data))
    (Q := fun reply driver => desc.Uploaded data w.device.capabilities.maxTextureSize w.uploads
      reply (PixelStore.initial.runAll (Transcribing.told driver)).uploads)
    (E := fun _ => False) GlDevice.uploads_serve hreply

/-- A new texture reads its data once. -/
theorem Texture.uploads_create :
    Runs (create desc (some data)) w
      (fun _ w' => desc.fullSize ≤ data.length ∧
        (desc.width ≤ w.device.capabilities.maxTextureSize ∧
          desc.height ≤ w.device.capabilities.maxTextureSize) ∧
        w'.uploads = w.uploads ++ [desc.upload data])
      (fun w' => w'.uploads = w.uploads) := by
  refine Runs.reject_if rfl fun _ => ?_
  rcases hsize : desc.byteSize? with _ | needed
  · exact Runs.bind runs_abort fun _ _ h => h
  · refine Runs.reject_if rfl fun hlength => ?_
    have hfull : desc.fullSize ≤ data.length := by
      rw [← TextureDesc.byteSize?_eq_some_iff.mp hsize]
      exact Nat.not_lt.mp hlength
    refine Runs.bind uploads_ask ?_
    intro reply w₁ hafter
    refine Runs.bind_settle ?_ ?_
    · rintro h rfl
      exact Runs.bind_note (Runs.bind_get (Runs.bind_set (Runs.pure ⟨hfull, hafter⟩)))
    · rintro e rfl
      exact hafter

omit [GlDriver δ] [Transcribing δ] in
/-- Images have channels of eight bits, and reading one asks nothing of the device. -/
theorem uploads_loadImage [ImageCodec] {files : Files} {path : String} :
    Runs (loadImage files path) w (fun image w' => image.2.2.1.isHalf = false ∧ w'.device = w.device)
      (fun w' => w'.device = w.device) := by
  unfold loadImage
  split
  · exact Runs.bind_note (runs_raise rfl)
  · split
    · exact runs_reject rfl
    · split
      · exact runs_reject rfl
      · rename_i hformat
        exact Runs.pure ⟨TextureFormat.isHalf_of_ofChannels? hformat, rfl⟩

/-- What the driver reads for a new texture is as much as its size comes to, and stays within the
    data unless the texture has floats of 16 bits and the data does not reach as far again as it has
    to. Images never have such floats. -/
theorem reads_within_iff [ImageCodec] (hopened : w.device.Opened) :
    (∀ (desc : TextureDesc) (data : List UInt8),
      Runs (Texture.create desc (some data)) w
        (fun _ w' => ∃ u, w'.uploads = w.uploads ++ [u] ∧ u.data = data ∧
          u.format = .of desc.format desc.srgb ∧ u.alignment = 1 ∧
          u.bytesRead = desc.width.toNat * desc.height.toNat * u.format.bytesPerPixel ∧
          (u.bytesRead ≤ data.length ↔ (desc.format.isHalf → 2 * desc.fullSize ≤ data.length)))
        (fun w' => w'.uploads = w.uploads)) ∧
    (∀ (files : Files) (path : String) (srgb mipmaps : Bool),
      Runs (Texture.ofFile files path srgb mipmaps) w
        (fun _ w' => ∃ u, w'.uploads = w.uploads ++ [u] ∧ u.bytesRead ≤ u.data.length)
        (fun w' => w'.uploads = w.uploads)) := by
  have hlimit := hopened.maxTextureSize_lt
  have hread : ∀ (desc : TextureDesc) (data : List UInt8) (w₁ : World (GlDevice δ)),
      w₁.device.capabilities = w.device.capabilities →
      Runs (Texture.create desc (some data)) w₁
        (fun _ w' => desc.fullSize ≤ data.length ∧ w'.uploads = w₁.uploads ++ [desc.upload data] ∧
          (desc.upload data).bytesRead = desc.width.toNat * desc.height.toNat *
            (UploadFormat.of desc.format desc.srgb).bytesPerPixel)
        (fun w' => w'.uploads = w₁.uploads) := by
    intro desc data w₁ hcapabilities
    refine Texture.uploads_create.imp ?_
    rintro - w' ⟨hfull, ⟨hwidth, hheight⟩, huploads⟩
    rw [hcapabilities] at hwidth hheight
    exact ⟨hfull, huploads, TextureDesc.bytesRead_upload (lt_of_le_of_lt hwidth hlimit)
      (lt_of_le_of_lt hheight hlimit)⟩
  refine ⟨fun desc data => ?_, fun files path srgb mipmaps => ?_⟩
  · refine (hread desc data w rfl).imp ?_
    rintro - w' ⟨hfull, huploads, hbytes⟩
    refine ⟨desc.upload data, huploads, rfl, rfl, rfl, hbytes, ?_⟩
    rw [hbytes]
    exact desc.read_le_iff hfull
  · refine Runs.andThen uploads_loadImage (fun w' h => ?_) ?_
    · rw [World.uploads, World.told, h]
      rfl
    · rintro ⟨width, height, format, data⟩ w₁ ⟨hhalf, hdevice⟩
      have huploads : w₁.uploads = w.uploads := by
        rw [World.uploads, World.told, hdevice]
        rfl
      refine (hread _ data w₁ (congrArg _ hdevice)).mono ?_ fun w' h => h.trans huploads
      rintro - w' ⟨hfull, hafter, hbytes⟩
      refine ⟨_, huploads ▸ hafter, ?_⟩
      rw [hbytes]
      exact (TextureDesc.read_le_iff _ hfull).mpr fun h => absurd h (by simp [hhalf])

end Textures

/-! ## Two textures -/

/-- What becomes of a texture on a device that records. -/
def painted (desc : TextureDesc) (data : List UInt8) :
    Except Halt (Ref Texture) × World (GlDevice GlRecorder) :=
  (Texture.create desc (some data)).run.run (.start .recording)

/-- Two pixels of four floats. -/
def twoHalves : TextureDesc := ⟨2, 1, .rgba16f, false, false⟩

/-- Data that reaches twice as far as it has to is enough. -/
theorem reads_within_recording :
    (painted twoHalves (List.replicate 32 0)).1.isOk ∧
      ∃ u, (painted twoHalves (List.replicate 32 0)).2.uploads = [u] ∧ u.data.length = 32 ∧
        u.bytesRead ≤ 32 := by
  have hok : (painted twoHalves (List.replicate 32 0)).1.isOk := by decide +kernel
  have hread := (reads_within_iff (w := .start .recording) ⟨_, rfl⟩).1 twoHalves
    (List.replicate 32 0)
  unfold Runs at hread
  rcases hrun : painted twoHalves (List.replicate 32 0) with ⟨e | r, w'⟩
  · rw [hrun] at hok
    cases hok
  · rw [show (Texture.create twoHalves (some (List.replicate 32 0))).run.run (.start .recording) =
      (.ok r, w') from hrun] at hread
    obtain ⟨u, huploads, hdata, -, -, -, hiff⟩ := hread
    exact ⟨rfl, u, huploads, by rw [hdata]; rfl, hiff.mpr fun _ => by decide⟩

/-- A pixel of one float. -/
def oneHalf : TextureDesc := ⟨1, 1, .r16f, false, false⟩

/-- Two bytes are all of the texture, but four are read. -/
theorem half_upload_overruns :
    GlDevice.recording.Opened ∧ (painted oneHalf [0x00, 0x3c]).1.isOk ∧
      (painted oneHalf [0x00, 0x3c]).2.uploads.map (fun u => (u.bytesRead, u.data.length)) =
        [(4, 2)] := by
  refine ⟨⟨_, rfl⟩, ?_, ?_⟩
  all_goals decide +kernel

end RenderKit
