import RenderKit.Device.Scripted
import RenderKit.Proofs.Modes.Blind
import RenderKit.Resource.Texture

set_option autoImplicit false

/-! # Creation of textures

A texture without extent is refused, and so is data that does not cover the texture. For every other
texture the device is asked once, and what it replies is the outcome. There is one gap: the bytes
that data has to reach are counted in 64 bits, and where they leave them, a creation with data is
cut off, however little data there is. -/

namespace RenderKit

namespace TextureDesc

variable (desc : TextureDesc) (data? : Option (List UInt8))

/-- A side has no length. -/
def Flat : Prop := desc.width = 0 ∨ desc.height = 0

/-- Data is given that does not reach to the end of the texture. -/
def Uncovered : Prop := ∃ data ∈ data?, data.length < desc.fullSize

/-- Data is given for more bytes than 64 bits can count. -/
def Uncounted : Prop := data?.isSome ∧ 2 ^ 64 ≤ desc.fullSize

/-- There is no extent, or data is given that does not cover the texture, as far as can be told. -/
def Refused : Prop := desc.Flat ∨ desc.Uncovered data? ∧ ¬desc.Uncounted data?

end TextureDesc

namespace Texture

variable {σ : Type} [GraphicsDevice σ] {desc : TextureDesc} {data? : Option (List UInt8)}

/-- What the reply of a device becomes: its error is passed on, and its handle becomes a texture
    that was described like this. -/
def Replied (desc : TextureDesc) (reply : Option (Except Error (Handle .texture)))
    (outcome : Except Halt (Ref Texture)) (w : World σ) : Prop :=
  match reply with
  | none => outcome = .error .abort
  | some (.error e) => outcome = .error (.error e)
  | some (.ok handle) => ∃ r, outcome = .ok r ∧ w.textures.get? r = some ⟨handle, desc⟩

/-- What becomes of a creation. -/
def created (desc : TextureDesc) (data? : Option (List UInt8)) (w : World σ) :
    Except Halt (Ref Texture) × World σ :=
  (create desc data?).run.run w

/-- The reply of the device to the request for a texture. -/
def reply (desc : TextureDesc) (data? : Option (List UInt8)) (w : World σ) :
    Option (Except Error (Handle .texture)) :=
  (GraphicsDevice.perform (.createTexture desc data?) w.device).reply

omit [GraphicsDevice σ] in
theorem history_of_unlogged {w w' : World σ} (h : w'.unlogged = w.unlogged) :
    w'.history = w.history := by
  have hcalls : w'.unlogged.calls = w.unlogged.calls := by rw [h]
  exact congrArg Array.toList hcalls

theorem byteSize?_of_lt (h : desc.fullSize < 2 ^ 64) :
    ∃ needed, desc.byteSize? = some needed ∧ needed.toNat = desc.fullSize := by
  refine ⟨desc.fullSize.toUInt64, if_pos h, ?_⟩
  exact TextureDesc.byteSize?_eq_some_iff.mp (if_pos h)

/-- The error names the sides. -/
theorem created_of_flat (h : desc.Flat) (data? : Option (List UInt8)) (w : World σ) :
    (created desc data? w).1 =
        .error (.error (Cause.error (TextureError.noExtent desc.width desc.height))) ∧
      (created desc data? w).2.unlogged = w.unlogged := by
  unfold created create
  extract_lets make check
  rw [if_pos (by simpa [TextureDesc.Flat] using h)]
  exact ⟨rfl, rfl⟩

/-- The error names the length of the data and the size that it should have had. -/
theorem created_of_uncovered (hflat : ¬desc.Flat) (hcounted : ¬desc.Uncounted data?)
    (h : desc.Uncovered data?) (w : World σ) :
    ∃ data ∈ data?, ∃ needed : UInt64, needed.toNat = desc.fullSize ∧
      (created desc data? w).1 =
        .error (.error (Cause.error (TextureError.dataTooShort data.length desc needed))) ∧
      (created desc data? w).2.unlogged = w.unlogged := by
  obtain ⟨data, rfl, hshort⟩ := h
  have hlt : desc.fullSize < 2 ^ 64 := by simpa [TextureDesc.Uncounted] using hcounted
  obtain ⟨needed, hneeded, hsize⟩ := byteSize?_of_lt hlt
  refine ⟨data, rfl, needed, hsize, ?_⟩
  unfold created create
  extract_lets make check
  rw [if_neg (by simpa [TextureDesc.Flat] using hflat)]
  simp only [check, hneeded]
  rw [if_pos (hsize ▸ hshort)]
  exact ⟨rfl, rfl⟩

theorem created_of_uncounted (hflat : ¬desc.Flat) (h : desc.Uncounted data?) (w : World σ) :
    created desc data? w = (.error .abort, w) := by
  obtain ⟨hgiven, hbeyond⟩ := h
  obtain ⟨data, rfl⟩ := Option.isSome_iff_exists.mp hgiven
  have hnone : desc.byteSize? = none := if_neg (Nat.not_lt.mpr hbeyond)
  unfold created create
  extract_lets make check
  rw [if_neg (by simpa [TextureDesc.Flat] using hflat)]
  simp only [check, hnone]
  rfl

/-- The device is asked once, and what it replies is the outcome. -/
theorem created_of_covered (hflat : ¬desc.Flat) (hcounted : ¬desc.Uncounted data?)
    (hcovered : ¬desc.Uncovered data?) (w : World σ) :
    (created desc data? w).2.history =
        w.history ++ [⟨.createTexture desc data?, reply desc data? w⟩] ∧
      Replied desc (reply desc data? w) (created desc data? w).1 (created desc data? w).2 := by
  unfold created create
  extract_lets make check
  have hmake : ((make ()).run.run w).2.history =
        w.history ++ [⟨.createTexture desc data?, reply desc data? w⟩] ∧
      Replied desc (reply desc data? w) ((make ()).run.run w).1 ((make ()).run.run w).2 := by
    have hasked : (w.asked (.createTexture desc data?)).history =
        w.history ++ [⟨.createTexture desc data?, reply desc data? w⟩] := w.asked_history _
    -- the texture is put into a pool afterwards, which adds no call
    rw [show make () = (ask (.createTexture desc data?) >>= _) from rfl, run_bind, run_ask,
      show (GraphicsDevice.perform (.createTexture desc data?) w.device).reply =
        reply desc data? w from rfl]
    generalize reply desc data? w = replied at hasked ⊢
    rcases replied with _ | e | handle
    · exact ⟨hasked, rfl⟩
    · exact ⟨hasked, rfl⟩
    · exact ⟨hasked, _, rfl, Pool.get?_add _ _⟩
  rw [if_neg (by simpa [TextureDesc.Flat] using hflat)]
  cases data? with
  | none => exact hmake
  | some data =>
    have hlt : desc.fullSize < 2 ^ 64 := by simpa [TextureDesc.Uncounted] using hcounted
    obtain ⟨needed, hneeded, hsize⟩ := byteSize?_of_lt hlt
    have hlong : ¬data.length < needed.toNat := by
      simpa [TextureDesc.Uncovered, hsize] using hcovered
    simp only [check, hneeded]
    rw [if_neg hlong]
    exact hmake

/-- What becomes of any description with any data, and any device. It is an error of state and no
    call exactly if a side has no length or if data is given that does not cover the texture, as
    long as 64 bits can count what it has to cover, and then nothing else is changed. The creation
    is cut off without a call exactly if data is given for more bytes than that. In every other
    case the device is asked once, for this texture with this data, and what it replies is the
    outcome. -/
theorem created_iff (desc : TextureDesc) (data? : Option (List UInt8)) (w : World σ) :
    (((∃ e, (created desc data? w).1 = .error (.error e) ∧ e.kind = .invalidState) ∧
        (created desc data? w).2.history = w.history) ↔ desc.Refused data?) ∧
    (desc.Refused data? → (created desc data? w).2.unlogged = w.unlogged) ∧
    (((created desc data? w).1 = .error .abort ∧ (created desc data? w).2.history = w.history) ↔
      ¬desc.Flat ∧ desc.Uncounted data?) ∧
    (¬desc.Refused data? → ¬desc.Uncounted data? →
      (created desc data? w).2.history =
          w.history ++ [⟨.createTexture desc data?, reply desc data? w⟩] ∧
        Replied desc (reply desc data? w) (created desc data? w).1 (created desc data? w).2) := by
  unfold TextureDesc.Refused
  by_cases hflat : desc.Flat
  case pos =>
    obtain ⟨houtcome, hworld⟩ := created_of_flat hflat data? w
    have hhistory : (created desc data? w).2.history = w.history := history_of_unlogged hworld
    have hkind : (Cause.error (TextureError.noExtent desc.width desc.height)).kind =
      .invalidState := rfl
    simp [hflat, houtcome, hworld, hhistory, hkind]
  by_cases huncounted : desc.Uncounted data?
  case pos => simp [hflat, huncounted, created_of_uncounted]
  by_cases huncovered : desc.Uncovered data?
  case pos =>
    obtain ⟨data, -, needed, -, houtcome, hworld⟩ :=
      created_of_uncovered hflat huncounted huncovered w
    have hhistory : (created desc data? w).2.history = w.history := history_of_unlogged hworld
    have hkind : (Cause.error (TextureError.dataTooShort data.length desc needed)).kind =
      .invalidState := rfl
    simp [hflat, huncounted, huncovered, houtcome, hworld, hhistory, hkind]
  -- the call that is made now tells this case from the others
  obtain ⟨hhistory, hreplied⟩ := created_of_covered hflat huncounted huncovered w
  simp [hflat, huncounted, huncovered, hhistory, hreplied]

/-! ## A texture that is too large to count -/

/-- Sides as long as they can be, and sixteen bytes for each point. -/
def vast : TextureDesc := ⟨0xFFFFFFFF, 0xFFFFFFFF, .rgba32f, false, false⟩

/-- A world with a device that does as it is told. -/
def obedient : World ScriptedDevice :=
  .start (.new .openGL (ScriptedDevice.capabilitiesOf 64 4) .empty)

/-- One byte does not cover it, but that is not reported. -/
theorem vast_unreported :
    ¬vast.Flat ∧ vast.Uncovered (some [0]) ∧
      created vast (some [0]) obedient = (.error .abort, obedient) := by
  have hflat : ¬vast.Flat := by simp [TextureDesc.Flat, vast]
  have hsize : 2 ^ 64 ≤ vast.fullSize := by decide
  exact ⟨hflat, ⟨[0], rfl, by decide⟩, created_of_uncounted hflat ⟨rfl, hsize⟩ obedient⟩

end Texture

end RenderKit
