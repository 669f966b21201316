import RenderKit.Proofs.Buffers.Making
import RenderKit.Proofs.Modes.Blind
import RenderKit.Proofs.OpenGL.Storing

set_option autoImplicit false

/-! # Buffers as arrays of bytes

On a device that stores bytes a buffer is an array of bytes whose size never changes. What lies
within it is written and read, the last write to a byte counts, and whatever would leave it is
refused before the device hears of it. Offsets and lengths are added as numbers that never wrap
around. -/

namespace RenderKit

namespace Buffer

variable {σ : Type} [GraphicsDevice σ]

/-! ## Single accesses -/

/-- A task that is not possible: nothing happens but an entry of the journal. -/
def Refused {α : Type} (t : Render σ α) (w : World σ) : Prop :=
  ∃ cause : BufferError, (Cause.error cause).kind = .invalidState ∧
    t.run.run w = (.error (.error (Cause.error cause)),
      HasJournal.note ⟨.error, Cause.source cause, Cause.message cause⟩ w)

section Single

variable {w : World σ} {r : Ref Buffer} {b : Buffer} {offset length : UInt64} {data : List UInt8}

theorem holds_iff {n : Nat} : b.holds offset n = true ↔ offset.toNat + n ≤ b.size.toNat :=
  decide_eq_true_iff

theorem run_write (h : (Pooled.pool w).get? r = some b)
    (fits : offset.toNat + data.length ≤ b.size.toNat)
    (reply : (GraphicsDevice.perform (.writeBuffer b.handle b.kind offset data) w.device).reply =
      some (.ok ())) :
    (write r offset data).run.run w =
      (.ok (), w.asked (.writeBuffer b.handle b.kind offset data)) := by
  unfold write
  rw [run_view_bind h, holds_iff.2 fits]
  exact run_ask_bind reply

theorem run_read (h : (Pooled.pool w).get? r = some b)
    (fits : offset.toNat + length.toNat ≤ b.size.toNat)
    (reply : (GraphicsDevice.perform (.readBuffer b.handle b.kind offset length) w.device).reply =
      some (.ok data)) :
    (read r offset length).run.run w =
      (.ok data, w.asked (.readBuffer b.handle b.kind offset length)) := by
  unfold read
  rw [run_view_bind h, holds_iff.2 fits]
  exact run_ask_bind reply

theorem refused_write (h : (Pooled.pool w).get? r = some b)
    (past : ¬offset.toNat + data.length ≤ b.size.toNat) : Refused (write r offset data) w := by
  refine ⟨.writePastEnd data.length offset b.size, Error.kind_of _ _, ?_⟩
  unfold write
  rw [run_view_bind h, Bool.eq_false_iff.2 fun fits => past (holds_iff.1 fits)]
  rfl

theorem refused_read (h : (Pooled.pool w).get? r = some b)
    (past : ¬offset.toNat + length.toNat ≤ b.size.toNat) : Refused (read r offset length) w := by
  refine ⟨.readPastEnd length offset b.size, Error.kind_of _ _, ?_⟩
  unfold read
  rw [run_view_bind h, Bool.eq_false_iff.2 fun fits => past (holds_iff.1 fits)]
  rfl

end Single

/-! ## Sequences of accesses -/

/-- Some bytes are written or read. -/
inductive Access where
  | write (offset : UInt64) (data : List UInt8)
  | read (offset length : UInt64)

namespace Access

/-- The world after an access to a buffer, possible or not. -/
def after (r : Ref Buffer) (w : World σ) : Access → World σ
  | .write offset data => ((Buffer.write r offset data).run.run w).2
  | .read offset length => ((Buffer.read r offset length).run.run w).2

/-- What is known of an array of bytes after an access: only what is written within it counts. -/
def known (size : Nat) (known : KnownBytes) : Access → KnownBytes
  | .write offset data =>
      if offset.toNat + data.length ≤ size then known.overlay offset.toNat data else known
  | .read _ _ => known

end Access

variable [StoringDevice σ]

/-- A reference leads to a buffer of which the device keeps what is known. -/
structure Stands (w : World σ) (r : Ref Buffer) (b : Buffer) (known : KnownBytes) : Prop where
  object : (Pooled.pool w).get? r = some b
  keeps : StoringDevice.Keeps w.device b.handle b.size.toNat known

/-- What is kept of other buffers in one world is kept in the other one, too. -/
def OthersKept (b : Buffer) (w w' : World σ) : Prop :=
  ∀ other ≠ b.handle, ∀ (size : Nat) (known : KnownBytes),
    StoringDevice.Keeps w.device other size known → StoringDevice.Keeps w'.device other size known

namespace Stands

variable {w : World σ} {r : Ref Buffer} {b : Buffer} {known : KnownBytes}
  {offset length : UInt64} {data : List UInt8}

theorem write (h : Stands w r b known) (fits : offset.toNat + data.length ≤ b.size.toNat) :
    ∃ w', (Buffer.write r offset data).run.run w = (.ok (), w') ∧
      Stands w' r b (known.overlay offset.toNat data) ∧ OthersKept b w w' := by
  obtain ⟨reply, keeps, others⟩ := StoringDevice.written b.kind h.keeps fits
  exact ⟨_, run_write h.object fits reply, ⟨h.object, keeps⟩, others⟩

theorem read (h : Stands w r b known) (fits : offset.toNat + length.toNat ≤ b.size.toNat) :
    ∃ data w', (Buffer.read r offset length).run.run w = (.ok data, w') ∧
      data.length = length.toNat ∧ known.Agrees offset.toNat data ∧
      Stands w' r b known ∧ OthersKept b w w' := by
  obtain ⟨⟨data, reply, hlength, agrees⟩, keeps⟩ :=
    StoringDevice.read b.kind h.keeps fits
  refine ⟨data, _, run_read h.object fits reply, hlength, agrees, ⟨h.object, ?_⟩, ?_⟩
  · exact keeps _ _ _ h.keeps
  · exact fun other _ size known => keeps other size known

/-- The entry of a refusal changes neither the device nor the buffers. -/
theorem of_refused {α : Type} {t : Render σ α} (h : Stands w r b known) (refused : Refused t w) :
    Stands (t.run.run w).2 r b known := by
  obtain ⟨cause, _, hrun⟩ := refused
  rw [hrun]
  exact ⟨h.object, h.keeps⟩

theorem after (h : Stands w r b known) (a : Access) :
    Stands (a.after r w) r b (a.known b.size.toNat known) := by
  cases a with
  | write offset data =>
    by_cases fits : offset.toNat + data.length ≤ b.size.toNat
    · obtain ⟨w', hrun, stands, _⟩ := h.write fits
      simp only [Access.after, Access.known, hrun, fits, if_true]
      exact stands
    · simp only [Access.after, Access.known, fits, if_false]
      exact h.of_refused (refused_write h.object fits)
  | read offset length =>
    by_cases fits : offset.toNat + length.toNat ≤ b.size.toNat
    · obtain ⟨data, w', hrun, _, _, stands, _⟩ := h.read fits
      simp only [Access.after, Access.known, hrun]
      exact stands
    · exact h.of_refused (refused_read h.object fits)

/-- Whatever was written and read, and whatever was refused. -/
theorem foldl_after (h : Stands w r b known) (accesses : List Access) :
    Stands (accesses.foldl (Access.after r) w) r b
      (accesses.foldl (Access.known b.size.toNat) known) := by
  -- each access changes what is known, so the rest goes on from any bytes
  induction accesses generalizing w known with
  | nil => exact h
  | cons a rest ih => exact ih (h.after a)

end Stands

/-- On a device that serves, a buffer that was created begins with its data. -/
theorem Made.stands {w w' : World σ} {b : Buffer} {data? : Option (List UInt8)} {r : Ref Buffer}
    (h : Made w b data? r w') (serves : StoringDevice.Serves w.device) :
    Stands w' r b (KnownBytes.blank.overlay 0 (data?.getD [])) := by
  refine ⟨h.object, ?_⟩
  rw [h.device]
  exact StoringDevice.created serves h.fits h.reply

/-! ## Arrays of bytes -/

/-- After any accesses, possible or not, a buffer is as it was created and holds its data with what
    was written within it on top. A write is possible exactly if it ends within the buffer, and so
    is a read, which then gives what the buffer is known to hold. -/
theorem bytes_of_accesses {w w₀ : World σ} {kind : BufferKind} {usage : BufferUsage}
    {size? : Option UInt64} {data? : Option (List UInt8)} {r : Ref Buffer}
    (serves : StoringDevice.Serves w.device)
    (made : (create kind usage size? data?).run.run w = (.ok r, w₀)) (accesses : List Access) :
    ∃ b : Buffer, b.kind = kind ∧ b.usage = usage ∧ b.size = sizeOf size? data? ∧
      (data?.getD []).length ≤ b.size.toNat ∧
      let w' := accesses.foldl (Access.after r) w₀
      let known := accesses.foldl (Access.known b.size.toNat)
        (KnownBytes.blank.overlay 0 (data?.getD []))
      (Pooled.pool w').get? r = some b ∧
      (∀ offset data,
        (offset.toNat + data.length ≤ b.size.toNat →
          ∃ w'', (write r offset data).run.run w' = (.ok (), w'') ∧ OthersKept b w' w'') ∧
        (¬offset.toNat + data.length ≤ b.size.toNat → Refused (write r offset data) w')) ∧
      ∀ offset length,
        (offset.toNat + length.toNat ≤ b.size.toNat →
          ∃ data w'', (read r offset length).run.run w' = (.ok data, w'') ∧
            data.length = length.toNat ∧ known.Agrees offset.toNat data ∧ OthersKept b w' w'') ∧
        (¬offset.toNat + length.toNat ≤ b.size.toNat → Refused (read r offset length) w') := by
  obtain ⟨handle, hmade⟩ := made_create.of_ok made
  have stands := (hmade.stands serves).foldl_after accesses
  refine ⟨_, rfl, rfl, rfl, hmade.fits, stands.object, ?_, ?_⟩
  · intro offset data
    refine ⟨fun fits => ?_, refused_write stands.object⟩
    obtain ⟨w'', hrun, _, others⟩ := stands.write fits
    exact ⟨w'', hrun, others⟩
  · intro offset length
    refine ⟨fun fits => ?_, refused_read stands.object⟩
    obtain ⟨data, w'', hrun, hlength, agrees, _, others⟩ := stands.read fits
    exact ⟨data, w'', hrun, hlength, agrees, others⟩

/-- A device whose script says nothing. -/
def unscripted : ScriptedDevice := .new .openGL (ScriptedDevice.capabilitiesOf 1024 4) .empty

/-- A vertex buffer of eight bytes that begins with three. -/
def threeOfEight (σ : Type) [GraphicsDevice σ] : Render σ (Ref Buffer) :=
  create .vertex .static (some 8) (some [1, 2, 3])

/-- Two bytes are written within it, and two more that would leave it, once by one byte and once
    from an offset that is as large as there are any. -/
def threeWrites : List Access :=
  [.write 2 [8, 9], .write 7 [5, 5], .write 0xffffffffffffffff [5, 5]]

/-- With a driver of OpenGL the four bytes at the front are read back, and with a script two bytes
    at the end are refused. -/
theorem bytes_of_accesses_recording :
    (∃ r w₀, (threeOfEight (GlDevice GlRecorder)).run.run (.start .recording) = (.ok r, w₀) ∧
      ∃ w', (read r 0 4).run.run (threeWrites.foldl (Access.after r) w₀) =
        (.ok [1, 2, 8, 9], w')) ∧
    ∃ r w₀, (threeOfEight ScriptedDevice).run.run (.start unscripted) = (.ok r, w₀) ∧
      Refused (write r 7 [5, 5]) (threeWrites.foldl (Access.after r) w₀) := by
  constructor
  · refine ⟨_, _, rfl, ?_⟩
    have made : (create .vertex .static (some 8) (some [1, 2, 3])).run.run
        (World.start GlDevice.recording) = (.ok _, _) := rfl
    obtain ⟨b, _, _, hsize, _, _, _, reads⟩ := bytes_of_accesses trivial made threeWrites
    rw [hsize] at reads
    obtain ⟨data, w', hrun, hlength, agrees, _⟩ := (reads 0 4).1 (by decide)
    have hdata : data = [1, 2, 8, 9] := by
      have hlength : data.length = 4 := hlength
      apply List.ext_getElem?
      intro i
      rcases i with _ | _ | _ | _ | i
      · exact agrees 0 1 (by omega) (by decide)
      · exact agrees 1 2 (by omega) (by decide)
      · exact agrees 2 8 (by omega) (by decide)
      · exact agrees 3 9 (by omega) (by decide)
      · simp [hlength]
    exact ⟨w', hdata ▸ hrun⟩
  · refine ⟨_, _, rfl, ?_⟩
    have serves : StoringDevice.Serves (World.start unscripted).device := ⟨rfl, rfl⟩
    have made : (create .vertex .static (some 8) (some [1, 2, 3])).run.run
        (World.start unscripted) = (.ok _, _) := rfl
    obtain ⟨b, _, _, hsize, _, _, writes, _⟩ := bytes_of_accesses serves made threeWrites
    exact (writes 7 [5, 5]).2 (by rw [hsize]; decide)

end Buffer

end RenderKit
