import RenderKit.Proofs.Modes.Blind
import RenderKit.Proofs.OpenGL.Numbers
import RenderKit.Proofs.OpenGL.Reference
import RenderKit.Proofs.OpenGL.Sessions

set_option autoImplicit false

/-! # Numbers of draws

Whatever an application does, the numbers that arrive at the driver are those of the requests that
were made, one after the other, and they are the ones that were meant wherever there is room for
them. A draw has no way to fail on the device. Elements too far in for the interface are skipped:
the instruction succeeds, and an entry in the journal is all that is left of it. -/

namespace RenderKit

/-! ## Histories -/

namespace Calls

/-- The numbers that arrive in the course of some calls. -/
def arriving (calls : List Call) : List (List Int) := calls.flatMap fun c => c.request.arriving

/-- The numbers that should. -/
def faithful (calls : List Call) : List (List Int) := calls.flatMap fun c => c.request.faithful

theorem length_arriving_le (calls : List Call) :
    (arriving calls).length ≤ (faithful calls).length := by
  induction calls with
  | nil => exact le_refl _
  | cons c rest ih =>
      have hc := c.request.length_arriving_le
      simp only [arriving, faithful, List.flatMap_cons, List.length_append] at ih ⊢
      omega

/-- No call makes up for what another one loses. -/
theorem arriving_eq_faithful_iff (calls : List Call) :
    arriving calls = faithful calls ↔ ∀ c ∈ calls, c.request.Fits := by
  induction calls with
  | nil => simp [arriving, faithful]
  | cons c rest ih =>
      rw [List.forall_mem_cons, ← ih, ← c.request.arriving_eq_faithful_iff]
      refine ⟨fun h => ?_, fun h => congrArg₂ (· ++ ·) h.1 h.2⟩
      -- neither part is longer than it should be, so neither is shorter
      have hlength := congrArg List.length h
      have hc := c.request.length_arriving_le
      have hrest := length_arriving_le rest
      simp only [arriving, faithful, List.flatMap_cons, List.length_append] at hlength hrest
      exact List.append_inj h (by omega)

end Calls

/-! ## Instructions -/

namespace Instruction

variable {σ : Type} {c : CommandBuffer} {w : World σ} {i : Instruction} {r : Request}

/-- The numbers an instruction is given: a size, a unit, or what is to be drawn. -/
def numbers : Instruction → List Nat
  | .setViewport area | .setScissor area => [area.width.toNat, area.height.toNat]
  | .setTexture slot _ => [firstTextureUnit.toNat + slot.toNat]
  | .draw count first => [first.toNat, count.toNat]
  | .drawIndexed count first _ => [count.toNat, 4 * first.toNat]
  | _ => []

/-- An instruction that is not skipped comes down to a request with its numbers. -/
inductive Asks (c : CommandBuffer) (w : World σ) : Instruction → Request → Prop where
  | setViewport (area : PixelRect) : Asks c w (.setViewport area) (.setViewport area)
  | setScissor (area : PixelRect) : Asks c w (.setScissor area) (.setScissor area)
  | setTexture {program : Ref Program} {r : Ref Texture} {t : Texture} (slot : UInt32)
      (hprogram : c.program = some program) (ht : w.textures.get? r = some t) :
      Asks c w (.setTexture slot r) (.bindTexture slot (some t.handle))
  | draw {r : Ref Pipeline} {p : Pipeline} (count first : UInt32) (hr : c.pipeline = some r)
      (hp : w.pipelines.get? r = some p) :
      Asks c w (.draw count first) (.drawArrays p.topology first count)
  | drawIndexed {r : Ref Pipeline} {p : Pipeline} (count first : UInt32) (base : Int32)
      (hr : c.pipeline = some r) (hp : w.pipelines.get? r = some p)
      (helements : p.indexBuffer.isSome) :
      Asks c w (.drawIndexed count first base)
        (.drawElements p.topology count (first.toNat * Mesh.indexSize).toUInt64 base)

/-- Offsets are counted in words that have room for all of them. -/
theorem toNat_byteOffset (first : UInt32) :
    (first.toNat * Mesh.indexSize).toUInt64.toNat = 4 * first.toNat := by
  have hfirst := first.toNat_lt
  rw [Mesh.indexSize, Nat.mul_comm]
  exact Nat.mod_eq_of_lt (by omega)

/-- The request is about the numbers that the instruction was given. -/
theorem Asks.wanted_eq (h : i.Asks c w r) : r.wanted = [i.numbers] := by
  cases h with
  | drawIndexed count first base =>
      rw [Request.wanted, toNat_byteOffset]
      rfl
  | _ => rfl

theorem Asks.isNumeric (h : i.Asks c w r) : r.isNumeric := by
  cases h <;> rfl

theorem Asks.faithful_eq (h : i.Asks c w r) : r.faithful = [i.numbers.map Int.ofNat] := by
  rw [Request.faithful, h.wanted_eq, List.map_singleton]

section

variable [GraphicsDevice σ]

/-- A request that is all there is to an instruction. -/
theorem run_ask_pure {r : Request} {c : CommandBuffer} :
    (ask r >>= fun _ => pure c : Render σ CommandBuffer).run.run w =
      (if (GraphicsDevice.perform r w.device).reply.isSome then .ok c else .error .abort,
        w.asked r) := by
  rw [run_bind, run_ask]
  cases (GraphicsDevice.perform r w.device).reply <;> rfl

/-- What is not skipped is asked, and nothing else becomes of it. -/
theorem Asks.run_perform (h : i.Asks c w r) :
    (i.perform c).run.run w =
      (if (GraphicsDevice.perform r w.device).reply.isSome then .ok c else .error .abort,
        w.asked r) := by
  cases h with
  | setViewport | setScissor => exact run_ask_pure
  | @setTexture program texture t slot hprogram ht =>
      have hbind : (Texture.bind texture slot : Render σ Unit).run.run w =
          (ask (.bindTexture slot (some t.handle))).run.run w := run_view_bind ht
      show (c.setTexture slot texture).run.run w = _
      unfold CommandBuffer.setTexture
      dsimp only
      rw [if_neg (by simp [hprogram]), run_bind, hbind, run_ask]
      cases (GraphicsDevice.perform (.bindTexture slot (some t.handle)) w.device).reply <;> rfl
  | draw count first hr hp =>
      show (c.draw count first).run.run w = _
      unfold CommandBuffer.draw
      simp only [hr]
      rw [run_view_bind hp]
      exact run_ask_pure
  | drawIndexed count first base hr hp helements =>
      show (c.drawIndexed count first base).run.run w = _
      unfold CommandBuffer.drawIndexed
      simp only [hr]
      rw [run_view_bind hp, if_neg (by simpa [Option.isSome_iff_ne_none] using helements)]
      exact run_ask_pure

end

end Instruction

/-! ## Instructions on OpenGL -/

namespace Instruction

variable {δ : Type} [GlDriver δ] [Transcribing δ] {c : CommandBuffer} {w : World (GlDevice δ)}
  {i : Instruction} {r : Request}

/-- An instruction that fits is carried out, and its numbers are what arrives. -/
theorem Asks.run_of_fits (h : i.Asks c w r) (hfits : r.Fits) :
    ∃ w', (i.perform c).run.run w = (.ok c, w') ∧
      w'.numbers = w.numbers ++ [i.numbers.map Int.ofNat] := by
  have hanswered : (GraphicsDevice.perform r w.device).reply.isSome :=
    GlDevice.isSome_reply (.inl ⟨h.isNumeric, hfits⟩)
  refine ⟨w.asked r, by rw [h.run_perform, if_pos hanswered], ?_⟩
  obtain ⟨reply, hreply⟩ := Option.isSome_iff_exists.mp hanswered
  have hnumbers : (w.asked r).numbers = w.numbers ++ r.arriving := GlDevice.numbers_perform hreply
  rw [hnumbers, r.arriving_eq_faithful_iff.mpr hfits, h.faithful_eq]

/-- An instruction to draw elements too far in does not fail. It leaves an entry, and the device
    as it was. -/
theorem Asks.run_of_skipNote? {note : Entry} (h : i.Asks c w r) (hnote : r.skipNote? = some note) :
    ∃ w', (i.perform c).run.run w = (.ok c, w') ∧
      w'.device = w.device ∧ w'.journal = w.journal ++ [note] := by
  have hanswered : (GraphicsDevice.perform r w.device).reply.isSome :=
    GlDevice.isSome_reply (.inr (by rw [hnote]; rfl))
  obtain ⟨hnotes, hdevice⟩ := GlDevice.perform_of_skipNote? (d := w.device) hnote
  refine ⟨w.asked r, by rw [h.run_perform, if_pos hanswered], hdevice, ?_⟩
  show w.journal ++ (GlDevice.perform r w.device).notes = _
  rw [hnotes]

end Instruction

/-! ## Sessions -/

namespace Session

section Numbers

variable {δ : Type} [RecordingDriver δ] [Transcribing δ] {device : GlDevice δ} {files : Files}
  {s : State (GlDevice δ)}

/-- A guard that knows which numbers arrived. -/
def numbering : Guard (GlDevice δ) where
  tokens := 0
  base := []
  allows _ := True
  allows_resource _ := trivial
  watched := ∅
  law d calls := Calls.Answered calls → d.numbers = Calls.arriving calls
  law_ask {d calls} r h := by
    intro hanswered
    obtain ⟨hcalls, hreply⟩ := Calls.answered_concat.mp hanswered
    obtain ⟨reply, hreply⟩ := Option.isSome_iff_exists.mp hreply
    have hafter := GlDevice.numbers_perform (d := d) hreply
    rw [h hcalls] at hafter
    refine hafter.trans ?_
    simp [Calls.arriving]

theorem numbers_of_reached [Toolchain] [ImageCodec] (hdevice : device.numbers = [])
    (hs : ReachedBy device files Action.Genuine s) :
    s.world.numbers = Calls.arriving s.world.history := by
  have hstart : Owns (numbering : Guard (GlDevice δ)) 0 (.start device) :=
    owns_start rfl rfl rfl fun _ => hdevice
  have hdeliver : ∀ m, (numbering : Guard (GlDevice δ)).Tolerates
      fun d => (GlDevice.deliver m d).2.2 := by
    refine fun m => ⟨fun d calls h hanswered => ?_, fun _ _ _ => trivial⟩
    rw [GlDevice.numbers, GlDevice.told, GlDevice.driver_deliver]
    exact h hanswered
  have hkept : Kept (numbering : Guard (GlDevice δ)) [] 0 s :=
    kept_of_reached hstart rfl (fun _ ha => ha.allowed (fun _ => trivial) hdeliver) hs
  exact hkept.owns.law hkept.owns.answered

/-- A session has told the driver what it meant to exactly if there was room for all of it. -/
theorem numbers_eq_faithful_iff [Toolchain] [ImageCodec] (hdevice : device.numbers = [])
    (hs : ReachedBy device files Action.Genuine s) :
    s.world.numbers = Calls.faithful s.world.history ↔
      ∀ call ∈ s.world.history, call.request.Fits := by
  rw [numbers_of_reached hdevice hs]
  exact Calls.arriving_eq_faithful_iff _

/-- Every number that arrives at the driver comes from a request. A request with room for its
    numbers is answered and brings all of them to the driver as they were meant, and an instruction
    that comes down to it succeeds. Elements that are too far in are not drawn: the driver is told
    nothing and the instruction succeeds as well, while an entry says what became of it. -/
theorem numbers_of_session [Toolchain] [ImageCodec] (hdevice : device.numbers = [])
    (hs : ReachedBy device files Action.Genuine s) :
    (∀ (d : GlDevice δ) (r : Request),
      (r.isNumeric → r.Fits → (GlDevice.perform r d).reply.isSome ∧
        (GlDevice.perform r d).state.numbers = d.numbers ++ r.faithful) ∧
      ∀ note, r.skipNote? = some note → (GlDevice.perform r d).reply.isSome ∧
        (GlDevice.perform r d).notes = [note] ∧ (GlDevice.perform r d).state = d) ∧
    (∃ parts, s.world.numbers = parts.flatten ∧
      List.Forall₂ (fun call part => (call.request.Fits → part = call.request.faithful) ∧
        (call.request.skipNote?.isSome → part = [])) s.world.history parts) ∧
    ∀ (c : CommandBuffer) (i : Instruction) (r : Request), i.Asks c s.world r →
      r.wanted = [i.numbers] ∧
      (r.Fits → ∃ w', (i.perform c).run.run s.world = (.ok c, w') ∧
        w'.numbers = s.world.numbers ++ [i.numbers.map Int.ofNat]) ∧
      ∀ note, r.skipNote? = some note →
        ∃ w', (i.perform c).run.run s.world = (.ok c, w') ∧
          w'.device = s.world.device ∧ w'.journal = s.world.journal ++ [note] := by
  refine ⟨fun d r => ⟨fun hr hfits => ?_, fun note hnote => ?_⟩, ?_, fun c i r h => ?_⟩
  · have hanswered := GlDevice.isSome_reply (d := d) (.inl ⟨hr, hfits⟩)
    obtain ⟨reply, hreply⟩ := Option.isSome_iff_exists.mp hanswered
    rw [← r.arriving_eq_faithful_iff.mpr hfits]
    exact ⟨hanswered, GlDevice.numbers_perform hreply⟩
  · exact ⟨GlDevice.isSome_reply (.inr (by rw [hnote]; rfl)), GlDevice.perform_of_skipNote? hnote⟩
  · refine ⟨s.world.history.map fun call => call.request.arriving, ?_, ?_⟩
    · rw [numbers_of_reached hdevice hs, Calls.arriving, List.flatMap_def]
    · refine List.forall₂_map_right_iff.mpr (List.forall₂_same.mpr fun call _ => ?_)
      exact ⟨call.request.arriving_eq_faithful_iff.mpr, Request.arriving_of_skipNote?⟩
  · exact ⟨h.wanted_eq, h.run_of_fits, fun note hnote => h.run_of_skipNote? hnote⟩

end Numbers

/-! ## Elements too far in -/

/-- A pipeline with elements is current. -/
def readyToDraw : State (GlDevice GlRecorder) :=
  actAll
    [.step (.make "i" (.buffer .index .static (some 12) none)),
     .step (.make "p" (.program none none false [.input emptyStage])),
     .step (.make "l" (.pipeline none [.program "p", .indexBuffer "i"])),
     .step (.make "c" (.commands .report)), .step (.command "c" (.setPipeline "l")),
     .step (.command "c" (.setViewport ⟨0, 0, 640, 480⟩))]
    { world := .start .recording, objects := [], files := .empty }

theorem reached_readyToDraw : ReachedBy .recording .empty Action.Genuine readyToDraw := by
  refine ReachedBy.start.of_allOk ?_ (by decide +kernel)
  simp [Action.Genuine, Action.Public, Recipe.Named]

/-- What is said about elements that are 2 GiB in. -/
def farNote : Entry :=
  ⟨.error, glSource, "Index offset 2147483648 exceeds the GL limit, draw skipped"⟩

set_option maxRecDepth 2000 in
/-- Six vertices from the third index on, which is eight bytes in, and three that are 2 GiB in. -/
theorem numbers_of_session_recording :
    readyToDraw.world.numbers = [[640, 480]] ∧
      ∃ c, readyToDraw.objects.lookup "c" = some (.commands c) ∧
        (∃ w', ((Instruction.drawIndexed 6 2 0).perform c).run.run readyToDraw.world =
            (.ok c, w') ∧
          w'.numbers = [[640, 480], [6, 8]]) ∧
        ∃ w', ((Instruction.drawIndexed 3 536870912 0).perform c).run.run readyToDraw.world =
            (.ok c, w') ∧
          w'.journal = readyToDraw.world.journal ++ [farNote] := by
  obtain ⟨-, -, hclaim⟩ := numbers_of_session (δ := GlRecorder) (by decide) reached_readyToDraw
  have hnumbers : readyToDraw.world.numbers = [[640, 480]] := by decide +kernel
  have hindexed : (readyToDraw.world.pipelines.get? ⟨0⟩).map (fun p => p.indexBuffer.isSome) =
      some true := by decide +kernel
  obtain ⟨p, hp, hindexed⟩ := Option.map_eq_some_iff.mp hindexed
  have hlookup : readyToDraw.objects.lookup "c" =
      some (.commands ⟨.report, false, some ⟨0⟩, some ⟨0⟩, none⟩) :=
    lookup_of_commands? (by decide +kernel)
  refine ⟨hnumbers, _, hlookup, ?_, ?_⟩
  · obtain ⟨-, hnear, -⟩ := hclaim ⟨.report, false, some ⟨0⟩, some ⟨0⟩, none⟩ _ _
      (.drawIndexed 6 2 0 rfl hp hindexed)
    have hfits : (Request.drawElements p.topology 6 8 0).Fits := by
      simp [Request.Fits, Request.wanted, Request.room]
    obtain ⟨w', hrun, hafter⟩ := hnear hfits
    exact ⟨w', hrun, by rw [hafter, hnumbers]; rfl⟩
  · obtain ⟨-, -, hfar⟩ := hclaim ⟨.report, false, some ⟨0⟩, some ⟨0⟩, none⟩ _ _
      (.drawIndexed 3 536870912 0 rfl hp hindexed)
    obtain ⟨w', hrun, -, hjournal⟩ := hfar farNote rfl
    exact ⟨w', hrun, hjournal⟩

/-- What becomes of three elements that are 2 GiB in. -/
def afterFarElements : Except Refusal Answer × State (GlDevice GlRecorder) :=
  (play (.command "c" (.drawIndexed 3 536870912 0))).run.run readyToDraw

set_option maxRecDepth 2000 in
/-- The command succeeds and the driver is told nothing. -/
theorem far_elements_not_drawn :
    ReachedBy .recording .empty Action.Genuine readyToDraw ∧ afterFarElements.1.isOk ∧
      afterFarElements.2.world.device.told = readyToDraw.world.device.told := by
  refine ⟨reached_readyToDraw, ?_, ?_⟩
  · decide +kernel
  · decide +kernel

end Session

end RenderKit
