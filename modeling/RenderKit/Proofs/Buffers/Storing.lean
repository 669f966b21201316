import RenderKit.Device.Scripted

set_option autoImplicit false

/-! # Devices that store bytes

A device stores bytes if what is written to a buffer is read back from it, as long as nothing reaches
past the end of the buffer. Bytes that nobody wrote may be anything, so that what a buffer is known
to hold is a byte for some of its places. Scripted devices are such devices, unless their script
says that writing or reading fails. -/

namespace RenderKit

/-- Handles are told apart by their numbers. -/
theorem Handle.raw_injective {kind : ObjectKind} {a b : Handle kind} (h : a.raw = b.raw) :
    a = b := by
  cases a
  cases b
  cases h
  rfl

/-! ## Known bytes -/

/-- The bytes of a buffer by their places, as far as they are known. -/
def KnownBytes := Nat → Option UInt8

namespace KnownBytes

/-- Nothing is known. -/
def blank : KnownBytes := fun _ => none

/-- What is known after some bytes are put in from a place on. -/
def overlay (known : KnownBytes) (offset : Nat) (data : List UInt8) : KnownBytes := fun place =>
  if offset ≤ place ∧ place < offset + data.length then data[place - offset]? else known place

/-- The bytes are the known ones from a place on, wherever one is known. -/
def Agrees (known : KnownBytes) (offset : Nat) (data : List UInt8) : Prop :=
  ∀ (i : Nat) (b : UInt8), i < data.length → known (offset + i) = some b → data[i]? = some b

variable (known : KnownBytes) (offset : Nat) (data : List UInt8) {place : Nat}

theorem overlay_inside (h : offset ≤ place ∧ place < offset + data.length) :
    known.overlay offset data place = data[place - offset]? := if_pos h

theorem overlay_outside (h : ¬(offset ≤ place ∧ place < offset + data.length)) :
    known.overlay offset data place = known place := if_neg h

end KnownBytes

/-! ## The memory of buffers -/

namespace Memory

variable {m : Memory} {buffer other : UInt32} {known : KnownBytes} {offset length place : Nat}
  {data : List UInt8}

theorem byte_write_inside (h : offset ≤ place ∧ place < offset + data.length) :
    data[place - offset]? = some ((m.write buffer offset data).byte buffer place) := by
  have hplace : place - offset < data.length := by omega
  simp [byte, write, MemoryWrite.byte?, h.1, hplace]

theorem byte_write_outside
    (h : ¬(buffer = other ∧ offset ≤ place ∧ place < offset + data.length)) :
    (m.write buffer offset data).byte other place = m.byte other place := by
  have hnone : MemoryWrite.byte? ⟨buffer, offset, data⟩ other place = none := by
    by_cases hreach : buffer = other ∧ offset ≤ place
    · have hpast : data.length ≤ place - offset := by
        have hend : ¬place < offset + data.length := fun hlt => h ⟨hreach.1, hreach.2, hlt⟩
        omega
      simp [MemoryWrite.byte?, hreach, hpast]
    · simp [MemoryWrite.byte?, hreach]
  simp [byte, write, hnone]

/-- The memory holds what is known of a buffer. -/
def Holds (m : Memory) (buffer : UInt32) (known : KnownBytes) : Prop :=
  ∀ (place : Nat) (b : UInt8), known place = some b → m.byte buffer place = b

theorem holds_blank : m.Holds buffer .blank := nofun

theorem Holds.write (h : m.Holds buffer known) :
    (m.write buffer offset data).Holds buffer (known.overlay offset data) := by
  intro place b hb
  by_cases inside : offset ≤ place ∧ place < offset + data.length
  · rw [known.overlay_inside offset data inside, byte_write_inside inside] at hb
    exact Option.some.inj hb
  · rw [known.overlay_outside offset data inside] at hb
    rw [byte_write_outside fun inside' => inside inside'.2]
    exact h place b hb

theorem Holds.write_other (h : m.Holds other known) (ne : buffer ≠ other) :
    (m.write buffer offset data).Holds other known := by
  intro place b hb
  rw [byte_write_outside fun inside => ne inside.1]
  exact h place b hb

theorem length_read : (m.read buffer offset length).length = length := by
  simp [read]

theorem Holds.agrees_read (h : m.Holds buffer known) :
    known.Agrees offset (m.read buffer offset length) := by
  intro i b hi hb
  rw [length_read] at hi
  have hbyte := h (offset + i) b hb
  simp [read, hi, hbyte]

end Memory

/-! ## Storing -/

/-- A type of states that form a device which stores bytes. -/
class StoringDevice (σ : Type) [GraphicsDevice σ] where
  /-- Buffers that are created now are stored. -/
  Serves : σ → Prop
  /-- A buffer has so many bytes, of which some are known. -/
  Keeps : σ → BufferHandle → Nat → KnownBytes → Prop
  /-- A new buffer begins with its data. -/
  created {d : σ} {kind : BufferKind} {usage : BufferUsage} {size : UInt64}
    {data : Option (List UInt8)} {handle : BufferHandle} (serves : Serves d)
    (fits : (data.getD []).length ≤ size.toNat)
    (reply : (GraphicsDevice.perform (.createBuffer kind usage size data) d).reply =
      some (.ok handle)) :
    Keeps (GraphicsDevice.perform (.createBuffer kind usage size data) d).state handle size.toNat
      (KnownBytes.blank.overlay 0 (data.getD []))
  /-- What is written within a buffer is in it, and other buffers stay as they are. -/
  written {d : σ} {handle : BufferHandle} {size : Nat} {known : KnownBytes} (kind : BufferKind)
    {offset : UInt64} {data : List UInt8} (keeps : Keeps d handle size known)
    (fits : offset.toNat + data.length ≤ size) :
    (GraphicsDevice.perform (.writeBuffer handle kind offset data) d).reply = some (.ok ()) ∧
      Keeps (GraphicsDevice.perform (.writeBuffer handle kind offset data) d).state handle size
        (known.overlay offset.toNat data) ∧
      ∀ other ≠ handle, ∀ (size : Nat) (known : KnownBytes), Keeps d other size known →
        Keeps (GraphicsDevice.perform (.writeBuffer handle kind offset data) d).state other size
          known
  /-- What is read within a buffer is what is known of it, and all buffers stay as they are. -/
  read {d : σ} {handle : BufferHandle} {size : Nat} {known : KnownBytes} (kind : BufferKind)
    {offset length : UInt64} (keeps : Keeps d handle size known)
    (fits : offset.toNat + length.toNat ≤ size) :
    (∃ data : List UInt8,
      (GraphicsDevice.perform (.readBuffer handle kind offset length) d).reply = some (.ok data) ∧
        data.length = length.toNat ∧ known.Agrees offset.toNat data) ∧
      ∀ (other : BufferHandle) (size : Nat) (known : KnownBytes), Keeps d other size known →
        Keeps (GraphicsDevice.perform (.readBuffer handle kind offset length) d).state other size
          known

namespace ScriptedDevice

/-- The script lets bytes be written and read. -/
def Willing (d : ScriptedDevice) : Prop :=
  d.failure? ["write_buffer"] = none ∧ d.failure? ["read_buffer"] = none

theorem attempt_of_none {α : Type} {d : ScriptedDevice} {names : List String}
    {go : ScriptedDevice → α × ScriptedDevice} (h : d.failure? names = none) :
    d.attempt names go = (.ok (go d).1, (go d).2) := by
  simp only [attempt, h]

/-- A buffer that was created has its data at its front. -/
theorem createBuffer_of_ok {d d' : ScriptedDevice} {r : Request} {data : Option (List UInt8)}
    {handle : BufferHandle} (h : d.createBuffer r data = (.ok handle, d')) :
    ∃ m : Memory, d'.memory = m.write handle.raw 0 (data.getD []) ∧ d'.script = d.script := by
  unfold createBuffer create attempt fresh at h
  cases hfailure : d.failure? ["create_buffer"] with
  | some failed =>
    simp only [hfailure] at h
    cases h
  | none =>
    simp only [hfailure] at h
    split at h
    all_goals
      cases h
      exact ⟨d.memory, rfl, rfl⟩

instance : StoringDevice ScriptedDevice where
  Serves := Willing
  Keeps d handle _ known := d.Willing ∧ d.memory.Holds handle.raw known
  created {d kind usage size data handle} serves _ reply := by
    change some (d.createBuffer (.createBuffer kind usage size data) data).1 = _ at reply
    obtain ⟨m, hmemory, hscript⟩ :=
      createBuffer_of_ok (Prod.ext (Option.some.inj reply) rfl :
        d.createBuffer (.createBuffer kind usage size data) data = (.ok handle, _))
    constructor
    · change (d.createBuffer (.createBuffer kind usage size data) data).2.Willing
      simpa only [Willing, failure?, hscript] using serves
    · change (d.createBuffer (.createBuffer kind usage size data) data).2.memory.Holds _ _
      rw [hmemory]
      exact Memory.holds_blank.write
  written {d handle size known} kind {offset data} keeps _ := by
    obtain ⟨willing, holds⟩ := keeps
    simp only [GraphicsDevice.perform, perform, attempt_of_none willing.1, quiet]
    refine ⟨trivial, ⟨willing, holds.write⟩, ?_⟩
    intro other ne _ known' ⟨_, holds'⟩
    exact ⟨willing, holds'.write_other fun same => ne (Handle.raw_injective same).symm⟩
  read {d handle size known} kind {offset length} keeps _ := by
    obtain ⟨willing, holds⟩ := keeps
    simp only [GraphicsDevice.perform, perform, attempt_of_none willing.2, quiet]
    refine ⟨⟨_, rfl, Memory.length_read, holds.agrees_read⟩, ?_⟩
    intro other _ known' ⟨_, holds'⟩
    exact ⟨willing, holds'⟩

end ScriptedDevice

end RenderKit
