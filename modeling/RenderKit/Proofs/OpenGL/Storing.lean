import RenderKit.Proofs.Buffers.Storing
import RenderKit.Proofs.OpenGL.History
import RenderKit.Proofs.OpenGL.Numbers

set_option autoImplicit false

/-! # Drivers that store bytes

A driver stores the bytes of a buffer, which commands and questions reach through a target that the
buffer is bound to. It has room for offsets of 31 bits. A device on such a driver stores bytes: it
binds the buffer for each access, and what it hands on as an offset or a size is never more than
the size of the buffer, for which there was room when the buffer was created. -/

namespace RenderKit

/-! ## Drivers -/

/-- A driver that stores what it is handed for the bound buffer. -/
class StoringDriver (δ : Type) [GlDriver δ] where
  /-- A buffer is bound to a target. -/
  Bound : δ → BufferTarget → GlName → Prop
  /-- A buffer has so many bytes, of which some are known. -/
  Keeps : δ → GlName → Nat → KnownBytes → Prop
  bound (d : δ) (target : BufferTarget) (name : GlName) :
    Bound (GlDriver.run (.bindBuffer target name) d) target name
  keeps_bind {d : δ} {target : BufferTarget} {name other : GlName} {size : Nat}
    {known : KnownBytes} (keeps : Keeps d other size known) :
    Keeps (GlDriver.run (.bindBuffer target name) d) other size known
  /-- New contents are all that is in the buffer. -/
  filled {d : δ} {target : BufferTarget} {name : GlName} {data : List UInt8} {usage : BufferUsage}
    (real : name ≠ 0) (bound : Bound d target name) :
    Keeps (GlDriver.run (.bufferData target data usage) d) name data.length
      (KnownBytes.blank.overlay 0 data)
  /-- A buffer that is given a size has room for so much, and stays bound. -/
  sized {d : δ} {target : BufferTarget} {name : GlName} {size : Nat} (usage : BufferUsage)
    (real : name ≠ 0) (bound : Bound d target name) (room : size < 2 ^ 31) :
    Bound (GlDriver.run (.bufferSize target (Int32.ofNat size) usage) d) target name ∧
      Keeps (GlDriver.run (.bufferSize target (Int32.ofNat size) usage) d) name size .blank
  /-- A part of a buffer that is written leaves the rest of it and all other buffers alone. -/
  patched {d : δ} {target : BufferTarget} {name : GlName} {size : Nat} {known : KnownBytes}
    (offset : Nat) (data : List UInt8) (bound : Bound d target name)
    (keeps : Keeps d name size known) (fits : offset + data.length ≤ size)
    (room : offset < 2 ^ 31) :
    Keeps (GlDriver.run (.bufferSubData target (Int32.ofNat offset) data) d) name size
        (known.overlay offset data) ∧
      ∀ other ≠ name, ∀ (size : Nat) (known : KnownBytes), Keeps d other size known →
        Keeps (GlDriver.run (.bufferSubData target (Int32.ofNat offset) data) d) other size known
  /-- A part of a buffer is told as it is known, and nothing changes. -/
  contents {d : δ} {target : BufferTarget} {name : GlName} {size offset length : Nat}
    {known : KnownBytes} (bound : Bound d target name) (keeps : Keeps d name size known)
    (fits : offset + length ≤ size) (room : offset < 2 ^ 31) :
    ((GlDriver.ask (.bufferContents target (Int32.ofNat offset) length) d).1 : List UInt8).length
        = length ∧
      known.Agrees offset
        (GlDriver.ask (.bufferContents target (Int32.ofNat offset) length) d).1 ∧
      ∀ (other : GlName) (size : Nat) (known : KnownBytes), Keeps d other size known →
        Keeps (GlDriver.ask (.bufferContents target (Int32.ofNat offset) length) d).2 other size
          known

namespace GlRecorder

theorem boundBuffer_run_bindBuffer (d : GlRecorder) (target : BufferTarget) (name : GlName) :
    (run (.bindBuffer target name) d).boundBuffer target = name := by
  simp [run, effect, boundBuffer]

/-- A buffer of which nothing is remembered but what it is filled with. -/
instance : StoringDriver GlRecorder where
  Bound d target name := d.boundBuffer target = name
  Keeps d name _ known := d.memory.Holds name known
  bound := boundBuffer_run_bindBuffer
  keeps_bind keeps := keeps
  filled {d target name data usage} _ bound := by
    subst bound
    exact Memory.holds_blank.write
  sized {d target name size} _ _ bound _ := ⟨bound, Memory.holds_blank⟩
  patched {d target name size known} offset data bound keeps _ room := by
    subst bound
    have hplace : (Int32.ofNat offset).toNatClampNeg = offset :=
      Int32.toNatClampNeg_ofNat_of_lt room
    change (d.memory.write (d.boundBuffer target) (Int32.ofNat offset).toNatClampNeg data).Holds
      _ _ ∧ ∀ other ≠ _, ∀ _ known, _ →
        (d.memory.write (d.boundBuffer target) (Int32.ofNat offset).toNatClampNeg data).Holds
          other known
    rw [hplace]
    refine ⟨keeps.write, ?_⟩
    intro other ne _ known' keeps'
    exact keeps'.write_other ne.symm
  contents {d target name size offset length known} bound keeps _ room := by
    subst bound
    have hplace : (Int32.ofNat offset).toNatClampNeg = offset :=
      Int32.toNatClampNeg_ofNat_of_lt room
    change (d.memory.read (d.boundBuffer target) (Int32.ofNat offset).toNatClampNeg
        length).length = length ∧
      known.Agrees offset (d.memory.read (d.boundBuffer target)
        (Int32.ofNat offset).toNatClampNeg length) ∧ _
    rw [hplace]
    exact ⟨Memory.length_read, Memory.Holds.agrees_read keeps, fun _ _ _ keeps' => keeps'⟩

end GlRecorder

/-! ## The device -/

namespace GlDevice

variable {δ : Type} [GlDriver δ]

/-- Numbers up to the size of a buffer have 31 bits. -/
theorem lt_of_le_size {n size : Nat} (h : n ≤ size) (room : size ≤ maxBytes) : n < 2 ^ 31 := by
  unfold maxBytes at room
  omega

omit [GlDriver δ] in
/-- There is room for a number of bytes of 31 bits. -/
theorem run_bytes {count : UInt64} {what : String} (h : count.toNat ≤ maxBytes) (w : Work δ) :
    (bytes count what : Task δ Int32).run.run w = (.ok (Int32.ofNat count.toNat), w) := by
  unfold bytes
  dsimp only
  rw [if_neg (by omega)]
  rfl

omit [GlDriver δ] in
/-- A number of bytes is handed on if there is room for it. -/
theorem runs_bytes {count : UInt64} {what : String} {w : Work δ} :
    Runs (bytes count what) w
      (fun n _ => count.toNat ≤ maxBytes ∧ n = Int32.ofNat count.toNat) (fun _ => True) := by
  by_cases room : count.toNat ≤ maxBytes
  · unfold Runs
    rw [run_bytes room]
    exact ⟨room, rfl⟩
  · exact Runs.reject_if trivial fun near => absurd (Nat.le_of_not_lt near) room

/-- The driver after a write. -/
def afterWrite (buffer : BufferHandle) (offset : UInt64) (data : List UInt8) (driver : δ) : δ :=
  GlDriver.run (.bindBuffer .copyWrite 0)
    (GlDriver.run (.bufferSubData .copyWrite (Int32.ofNat offset.toNat) data)
      (GlDriver.run (.bindBuffer .copyWrite buffer.raw) driver))

theorem run_writeBuffer {buffer : BufferHandle} {offset : UInt64} {data : List UInt8}
    (h : offset.toNat ≤ maxBytes) (w : Work δ) :
    (writeBuffer buffer offset data).run.run w =
      (.ok (), { w with driver := afterWrite buffer offset data w.driver }) := by
  unfold writeBuffer
  rw [run_bind, run_bytes h]
  rfl

/-- What the driver replies to a read, and the driver after it. -/
def readThrough (buffer : BufferHandle) (offset length : UInt64) (driver : δ) : List UInt8 × δ :=
  let (data, driver) :=
    GlDriver.ask (.bufferContents .copyRead (Int32.ofNat offset.toNat) length.toNat)
      (GlDriver.run (.bindBuffer .copyRead buffer.raw) driver)
  (data, GlDriver.run (.bindBuffer .copyRead 0) driver)

theorem run_readBuffer {buffer : BufferHandle} {offset length : UInt64}
    (hoffset : offset.toNat ≤ maxBytes) (hlength : length.toNat ≤ maxBytes) (w : Work δ) :
    (readBuffer buffer offset length).run.run w =
      (.ok (readThrough buffer offset length w.driver).1,
        { w with driver := (readThrough buffer offset length w.driver).2 }) := by
  have hcount : (Int32.ofNat length.toNat).toNatClampNeg = length.toNat :=
    Int32.toNatClampNeg_ofNat_of_lt (lt_of_le_size le_rfl hlength)
  unfold readBuffer readThrough
  rw [run_bind, run_bytes hoffset]
  dsimp only
  rw [run_bind, run_bytes hlength]
  dsimp only
  rw [hcount]
  rfl

section Keeping

variable [StoringDriver δ] {driver : δ} {buffer : BufferHandle} {size : Nat} {known : KnownBytes}
  {offset length : UInt64} {data : List UInt8}

open StoringDriver

theorem keeps_afterWrite (keeps : Keeps driver buffer.raw size known)
    (fits : offset.toNat + data.length ≤ size) (room : size ≤ maxBytes) :
    Keeps (afterWrite buffer offset data driver) buffer.raw size
        (known.overlay offset.toNat data) ∧
      ∀ other ≠ buffer.raw, ∀ (size : Nat) (known : KnownBytes), Keeps driver other size known →
        Keeps (afterWrite buffer offset data driver) other size known := by
  have hoffset : offset.toNat < 2 ^ 31 := lt_of_le_size (Nat.le_of_add_right_le fits) room
  obtain ⟨written, others⟩ := patched offset.toNat data (bound driver .copyWrite buffer.raw)
    (keeps_bind keeps) fits hoffset
  refine ⟨keeps_bind written, ?_⟩
  intro other ne size' known' keeps'
  exact keeps_bind (others other ne size' known' (keeps_bind keeps'))

theorem agrees_readThrough (keeps : Keeps driver buffer.raw size known)
    (fits : offset.toNat + length.toNat ≤ size) (room : size ≤ maxBytes) :
    (readThrough buffer offset length driver).1.length = length.toNat ∧
      known.Agrees offset.toNat (readThrough buffer offset length driver).1 ∧
      ∀ (other : GlName) (size : Nat) (known : KnownBytes), Keeps driver other size known →
        Keeps (readThrough buffer offset length driver).2 other size known := by
  have hoffset : offset.toNat < 2 ^ 31 := lt_of_le_size (Nat.le_of_add_right_le fits) room
  obtain ⟨hlength, agrees, others⟩ := contents (bound driver .copyRead buffer.raw)
    (keeps_bind keeps) fits hoffset
  refine ⟨hlength, agrees, ?_⟩
  intro other size' known' keeps'
  exact keeps_bind (others other size' known' (keeps_bind keeps'))

/-- A new buffer that is bound is filled by one command or, if there is less data, by two. -/
theorem keeps_upload {w : Work δ} {usage : BufferUsage} {data : Option (List UInt8)}
    (fits : (data.getD []).length ≤ size) (room : size ≤ maxBytes)
    (hbound : Bound w.driver .copyWrite buffer.raw) {E : Work δ → Prop} :
    Runs (tellAll (upload (Int32.ofNat size) usage data)) w
      (fun _ w' => Keeps w'.driver buffer.raw size (KnownBytes.blank.overlay 0 (data.getD [])))
      E := by
  have hsize : size < 2 ^ 31 := lt_of_le_size le_rfl room
  have hcount : (Int32.ofNat size).toNatClampNeg = size := Int32.toNatClampNeg_ofNat_of_lt hsize
  obtain ⟨stays, empty⟩ := sized usage buffer.raw_ne_zero hbound hsize
  cases data with
  | none =>
    have nothing : KnownBytes.blank.overlay 0 [] = KnownBytes.blank := by
      funext place
      exact KnownBytes.blank.overlay_outside 0 [] (by simp)
    simp only [Option.getD_none, nothing]
    exact empty
  | some data =>
    -- data for the whole buffer makes it in one go, less than that comes after the size
    by_cases hfull : data.length = size
    · subst hfull
      simp only [upload, hcount, if_true]
      exact filled buffer.raw_ne_zero hbound
    · simp only [upload, hcount, hfull, if_false]
      have hpatched := patched 0 data stays empty (by simpa using fits) (by decide)
      exact hpatched.1

theorem keeps_createBuffer {w : Work δ} {kind : BufferKind} {usage : BufferUsage} {size : UInt64}
    {data : Option (List UInt8)} (fits : (data.getD []).length ≤ size.toNat) :
    Runs (createBuffer kind usage size data) w
      (fun buffer w' => size.toNat ≤ maxBytes ∧
        Keeps w'.driver buffer.raw size.toNat (KnownBytes.blank.overlay 0 (data.getD [])))
      (fun _ => True) := by
  refine Runs.bind runs_bytes ?_
  rintro _ w₁ ⟨room, rfl⟩
  refine Runs.bind_anyhow fun buffer w₂ => ?_
  refine Runs.bind_modify ?_
  refine Runs.bind (keeps_upload fits room (bound w₂.driver .copyWrite buffer.raw)) ?_
  intro _ w₃ keeps
  refine Runs.bind_modify (Runs.bind_note (Runs.pure ?_))
  exact ⟨room, keeps_bind keeps⟩

end Keeping

section Replies

variable {d : GlDevice δ} {kind : BufferKind} {usage : BufferUsage} {size : UInt64}
  {data : Option (List UInt8)} {buffer : BufferHandle}

/-- What holds of every buffer that is created holds of the one that is replied. -/
theorem of_reply_createBuffer {Q : BufferHandle → δ → Prop}
    (h : Runs (createBuffer kind usage size data) (⟨d.driver, #[]⟩ : Work δ)
      (fun buffer w => Q buffer w.driver) (fun _ => True))
    (reply : (GraphicsDevice.perform (.createBuffer kind usage size data) d).reply =
      some (.ok buffer)) :
    Q buffer (GraphicsDevice.perform (.createBuffer kind usage size data) d).state.driver := by
  have hserved : Runs (serve d.capabilities (.createBuffer kind usage size data))
      (⟨d.driver, #[]⟩ : Work δ)
      (fun reply w => ∀ buffer : BufferHandle, reply = .ok buffer → Q buffer w.driver)
      (fun _ => True) := by
    refine (runs_attempt h).imp ?_
    rintro _ w hQ buffer rfl
    exact hQ
  exact of_perform (d := d) (r := .createBuffer kind usage size data)
    (Q := fun reply driver => ∀ buffer : BufferHandle, reply = .ok buffer → Q buffer driver)
    hserved reply buffer rfl

/-- There is room for a buffer that was created. -/
theorem size_le_of_reply
    (reply : (GraphicsDevice.perform (.createBuffer kind usage size data) d).reply =
      some (.ok buffer)) : size.toNat ≤ maxBytes := by
  refine of_reply_createBuffer (Q := fun _ _ => size.toNat ≤ maxBytes) ?_ reply
  refine Runs.bind runs_bytes ?_
  rintro _ w ⟨room, -⟩
  exact runs_anyhow fun _ _ => room

end Replies

/-- A device keeps what its driver keeps, as long as the interface has room for the buffer. -/
instance [StoringDriver δ] : StoringDevice (GlDevice δ) where
  Serves _ := True
  Keeps d buffer size known :=
    size ≤ maxBytes ∧ StoringDriver.Keeps d.driver buffer.raw size known
  created {d kind usage size data buffer} _ fits reply :=
    of_reply_createBuffer (Q := fun buffer driver => size.toNat ≤ maxBytes ∧
      StoringDriver.Keeps driver buffer.raw size.toNat
        (KnownBytes.blank.overlay 0 (data.getD []))) (keeps_createBuffer fits) reply
  written {d buffer size known} kind {offset data} keeps fits := by
    obtain ⟨room, keeps⟩ := keeps
    have hoffset : offset.toNat ≤ maxBytes := Nat.le_trans (Nat.le_of_add_right_le fits) room
    have hrun : (serve d.capabilities (.writeBuffer buffer kind offset data)).run.run
        (⟨d.driver, #[]⟩ : Work δ) = (.ok (.ok ()), ⟨afterWrite buffer offset data d.driver, #[]⟩) :=
      run_attempt (run_writeBuffer hoffset _)
    obtain ⟨written, others⟩ := keeps_afterWrite keeps fits room
    rw [show GraphicsDevice.perform (.writeBuffer buffer kind offset data) d = _ from
      perform_of_run hrun]
    refine ⟨rfl, ⟨room, written⟩, ?_⟩
    intro other ne size' known' ⟨room', keeps'⟩
    exact ⟨room', others other.raw (fun same => ne (Handle.raw_injective same)) size' known' keeps'⟩
  read {d buffer size known} kind {offset length} keeps fits := by
    obtain ⟨room, keeps⟩ := keeps
    have hoffset : offset.toNat ≤ maxBytes := Nat.le_trans (Nat.le_of_add_right_le fits) room
    have hcount : length.toNat ≤ maxBytes := Nat.le_trans (Nat.le_of_add_left_le fits) room
    have hrun : (serve d.capabilities (.readBuffer buffer kind offset length)).run.run
        (⟨d.driver, #[]⟩ : Work δ) = (.ok (.ok (readThrough buffer offset length d.driver).1),
          ⟨(readThrough buffer offset length d.driver).2, #[]⟩) :=
      run_attempt (run_readBuffer hoffset hcount _)
    obtain ⟨hlength, agrees, others⟩ := agrees_readThrough keeps fits room
    rw [show GraphicsDevice.perform (.readBuffer buffer kind offset length) d = _ from
      perform_of_run hrun]
    refine ⟨⟨_, rfl, hlength, agrees⟩, ?_⟩
    intro other size' known' ⟨room', keeps'⟩
    exact ⟨room', others other.raw size' known' keeps'⟩

end GlDevice

end RenderKit
