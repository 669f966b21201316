import RenderKit.Proofs.Ledger.Books
import RenderKit.Proofs.OpenGL.History
import RenderKit.Proofs.OpenGL.Vocabulary

set_option autoImplicit false

/-! # Numbers on their way to the driver

Sizes, counts, strides and offsets are words without a sign in the library, and numbers with a sign
in the interface. What is at least half of the range becomes negative on the way, except for an
offset into elements: nothing is drawn from one that has no room. Units of textures keep their
range, and a slot that has no unit cuts the request off. -/

namespace RenderKit

/-! ## What arrives -/

/-- The sizes, counts, places or the unit that a command tells the driver. -/
def GlCommand.numbers? : GlCommand → Option (List Int)
  | .activeTexture unit => some [unit.toNat]
  | .attributePointer _ _ _ _ stride offset => some [stride.toInt, offset.toInt]
  | .attributeIntegerPointer _ _ _ stride offset => some [stride.toInt, offset.toInt]
  | .viewport _ _ width height => some [width.toInt, height.toInt]
  | .scissor _ _ width height => some [width.toInt, height.toInt]
  | .drawArrays _ first count => some [first.toInt, count.toInt]
  | .drawElements _ count offset _ => some [count.toInt, offset.toInt]
  | _ => none

/-- A word without a sign that is read as one with a sign. -/
def signed (n : UInt32) : Int := n.toInt32.toInt

/-- The upper half of the range is read as negative. -/
theorem signed_eq (n : UInt32) :
    signed n = if n.toNat < 2 ^ 31 then (n.toNat : Int) else n.toNat - 2 ^ 32 := by
  have hsigned : signed n = if 2 * n.toNat < 2 ^ 32 then (n.toNat : Int) else n.toNat - 2 ^ 32 :=
    BitVec.toInt_eq_toNat_cond n.toBitVec
  rw [hsigned]
  split <;> split <;> omega

theorem signed_eq_toNat_iff (n : UInt32) : signed n = n.toNat ↔ n.toNat < 2 ^ 31 := by
  rw [signed_eq]
  split <;> omega

namespace Request

/-- The numbers a request is about, for each command it should come down to. -/
def wanted : Request → List (List Nat)
  | .setViewport area | .setScissor area => [[area.width.toNat, area.height.toNat]]
  | .bindTexture slot _ => [[firstTextureUnit.toNat + slot.toNat]]
  | .attachVertexBuffer _ _ layout =>
      layout.attributes.map fun a => [layout.stride.toNat, a.offset.toNat]
  | .drawArrays _ first count => [[first.toNat, count.toNat]]
  | .drawElements _ count byteOffset _ => [[count.toNat, byteOffset.toNat]]
  | _ => []

/-- The numbers that arrive at the driver. -/
def arriving : Request → List (List Int)
  | .setViewport area | .setScissor area => [[signed area.width, signed area.height]]
  | .bindTexture slot _ =>
      if firstTextureUnit.toNat + slot.toNat < UInt32.size then
        [[((firstTextureUnit.toNat + slot.toNat : Nat) : Int)]]
      else []
  | .attachVertexBuffer _ _ layout =>
      layout.attributes.map fun a => [signed layout.stride, signed a.offset]
  | .drawArrays _ first count => [[signed first, signed count]]
  | .drawElements _ count byteOffset _ =>
      if byteOffset.toNat ≤ GlDevice.maxBytes then [[signed count, byteOffset.toNat]] else []
  | _ => []

/-- What the interface has room for. -/
def room : Request → Nat
  | .bindTexture _ _ => UInt32.size
  | _ => 2 ^ 31

/-- There is room for every number of a request. -/
def Fits (r : Request) : Prop := ∀ ns ∈ r.wanted, ∀ n ∈ ns, n < r.room

instance (r : Request) : Decidable r.Fits := inferInstanceAs (Decidable (∀ ns ∈ r.wanted, _))

/-- The numbers a request is about, as the interface should have them. -/
def faithful (r : Request) : List (List Int) := r.wanted.map (·.map Int.ofNat)

theorem length_arriving_le (r : Request) : r.arriving.length ≤ r.faithful.length := by
  cases r with
  | bindTexture | drawElements =>
      simp only [arriving, faithful, wanted]
      split
      · simp
      · simp
  | _ => simp [arriving, faithful, wanted]

/-- Numbers arrive as they are meant exactly if there is room for them. -/
theorem arriving_eq_faithful_iff (r : Request) : r.arriving = r.faithful ↔ r.Fits := by
  cases r with
  | setViewport area | setScissor area =>
      simp [arriving, faithful, Fits, wanted, room, signed_eq_toNat_iff]
  | bindTexture slot texture =>
      by_cases hunit : firstTextureUnit.toNat + slot.toNat < UInt32.size
      · simp [arriving, faithful, Fits, wanted, room, hunit]
      · simp [arriving, faithful, Fits, wanted, room, hunit]
  | attachVertexBuffer array buffer layout =>
      simp [arriving, faithful, Fits, wanted, room, signed_eq_toNat_iff, Function.comp_def]
  | drawArrays topology first count =>
      simp [arriving, faithful, Fits, wanted, room, signed_eq_toNat_iff]
  | drawElements topology count byteOffset base =>
      have hroom : byteOffset.toNat ≤ GlDevice.maxBytes ↔ byteOffset.toNat < 2 ^ 31 := by
        rw [GlDevice.maxBytes]
        omega
      by_cases hnear : byteOffset.toNat ≤ GlDevice.maxBytes
      · simpa [arriving, faithful, Fits, wanted, room, signed_eq_toNat_iff, hnear] using
          fun _ => hroom.mp hnear
      · simpa [arriving, faithful, Fits, wanted, room, hnear] using
          fun _ => Nat.not_lt.mp (mt hroom.mpr hnear)
  | _ => simp [arriving, faithful, Fits, wanted]

/-- The entry about elements that are too far in. They are not drawn. -/
def skipNote? : Request → Option Entry
  | .drawElements _ _ byteOffset _ =>
      if byteOffset.toNat > GlDevice.maxBytes then
        some ⟨.error, glSource,
          "Index offset " ++ toString byteOffset.toNat ++ " exceeds the GL limit, draw skipped"⟩
      else none
  | _ => none

theorem arriving_of_skipNote? {r : Request} (h : r.skipNote?.isSome) : r.arriving = [] := by
  cases r with
  | drawElements topology count byteOffset base =>
      have hfar : byteOffset.toNat > GlDevice.maxBytes := by
        by_contra hnear
        simp [skipNote?, hnear] at h
      rw [arriving, if_neg (Nat.not_le.mpr hfar)]
  | _ => cases h

/-- Whether a request is about numbers that the interface has. -/
def isNumeric (r : Request) : Bool :=
  r matches .setViewport _ | .setScissor _ | .bindTexture _ _ | .attachVertexBuffer _ _ _
    | .drawArrays _ _ _ | .drawElements _ _ _ _

theorem arriving_of_not_isNumeric {r : Request} (h : r.isNumeric = false) : r.arriving = [] := by
  cases r <;> first | rfl | cases h

theorem numbers?_of_mayTell {r : Request} {c : GlCommand} (hr : r.isNumeric = false)
    (h : r.mayTell c) : c.numbers? = none := by
  cases c with
  | activeTexture | attributePointer | attributeIntegerPointer | viewport | scissor | drawArrays
  | drawElements =>
      cases r with
      | setViewport | setScissor | bindTexture | attachVertexBuffer | drawArrays | drawElements =>
          cases hr
      | _ => cases h
  | _ => rfl

end Request

namespace GlDevice

variable {δ : Type} [GlDriver δ] [Transcribing δ] {w : Work δ}

/-! ## Requests -/

/-- What arrived at the driver, in order. -/
def Work.numbers (w : Work δ) : List (List Int) := w.told.filterMap GlCommand.numbers?

/-- What was said is all that arrived. -/
theorem Work.numbers_of_told {w' : Work δ} {cs : List GlCommand} (h : w'.told = w.told ++ cs) :
    w'.numbers = w.numbers ++ cs.filterMap GlCommand.numbers? := by
  rw [Work.numbers, h, List.filterMap_append, Work.numbers]

theorem filterMap_attributeCommands (stride : UInt32) (as : List VertexAttribute) :
    (as.flatMap (attributeCommands stride.toInt32)).filterMap GlCommand.numbers? =
      as.map fun a => [signed stride, signed a.offset] := by
  induction as with
  | nil => rfl
  | cons a rest ih =>
      have hone : (attributeCommands stride.toInt32 a).filterMap GlCommand.numbers? =
          [[signed stride, signed a.offset]] := by
        simp only [attributeCommands]
        cases a.format.scalar <;> rfl
      rw [List.flatMap_cons, List.filterMap_append, hone, ih, List.map_cons, List.singleton_append]

theorem numbers_bindTexture {slot : UInt32} {texture : Option TextureHandle}
    {E : Work δ → Prop} :
    Runs (bindTexture slot texture) w
      (fun _ w' => w'.numbers = w.numbers ++ Request.arriving (.bindTexture slot texture)) E := by
  unfold bindTexture
  dsimp only
  split
  · exact Runs.bind runs_abort fun _ _ h => h
  · rename_i hnear
    have hroom := Nat.not_le.mp hnear
    have hunit : (firstTextureUnit + slot).toNat = firstTextureUnit.toNat + slot.toNat := by
      rw [UInt32.toNat_add]
      exact Nat.mod_eq_of_lt hroom
    refine Runs.bind told_tell fun _ w₁ h₁ => told_tell.imp fun _ w₂ h₂ => ?_
    rw [Work.numbers_of_told h₂, Work.numbers_of_told h₁, Request.arriving, if_pos hroom, ← hunit]
    exact List.append_nil _

/-- Each request adds what follows from it alone, and one that fails adds nothing. -/
theorem numbers_serve {capabilities : Capabilities} (r : Request) :
    Runs (serve capabilities r) w (fun _ w' => w'.numbers = w.numbers ++ r.arriving)
      (fun w' => w'.numbers = w.numbers) := by
  by_cases hr : r.isNumeric
  · cases r with
    | setViewport area | setScissor area =>
        refine told_tell.imp fun _ w' h => ?_
        rw [Work.numbers_of_told h, Request.arriving]
        rfl
    | bindTexture slot texture => exact numbers_bindTexture
    | attachVertexBuffer array buffer layout =>
        refine told_attachVertexBuffer.imp ?_
        rintro - w' ⟨previous, h⟩
        rw [Work.numbers_of_told h, List.filterMap_append, List.filterMap_append,
          filterMap_attributeCommands, Request.arriving]
        show w.numbers ++ ([] ++ _ ++ []) = _
        rw [List.nil_append, List.append_nil]
    | drawArrays topology first count =>
        refine told_tell.imp fun _ w' h => ?_
        rw [Work.numbers_of_told h, Request.arriving]
        rfl
    | drawElements topology count byteOffset base =>
        show Runs (drawElements topology count byteOffset base) _ _ _
        unfold drawElements
        split
        · rename_i hfar
          exact runs_note (by rw [Request.arriving, if_neg hfar.not_ge, List.append_nil]; rfl)
        · rename_i hnear
          have hroom : byteOffset.toNat < 2 ^ 31 := by rw [maxBytes] at hnear; omega
          refine told_tell.imp fun _ w' h => ?_
          rw [Work.numbers_of_told h, Request.arriving, if_pos (Nat.not_lt.mp hnear),
            ← Int32.toInt_ofNat_of_lt hroom]
          rfl
    | _ => cases hr
  · -- no command in the vocabulary of the other requests has numbers
    have hr : r.isNumeric = false := eq_false_of_ne_true hr
    have hafter : ∀ w' : Work δ, (∃ cs, w'.told = w.told ++ cs ∧ ∀ c ∈ cs, r.mayTell c) →
        w'.numbers = w.numbers := by
      rintro w' ⟨cs, hcs, hmay⟩
      have hnone : cs.filterMap GlCommand.numbers? = [] :=
        List.filterMap_eq_nil_iff.mpr fun c hc => Request.numbers?_of_mayTell hr (hmay c hc)
      rw [Work.numbers_of_told hcs, hnone, List.append_nil]
    rw [Request.arriving_of_not_isNumeric hr]
    simpa using ((says_serve r).told w).mono (fun _ => hafter) hafter

/-! ## Devices -/

variable {d : GlDevice δ} {r : Request}

/-- What arrived at the driver of a device, in order. -/
def numbers (d : GlDevice δ) : List (List Int) := d.told.filterMap GlCommand.numbers?

theorem numbers_perform {reply : r.Reply} (hreply : (GlDevice.perform r d).reply = some reply) :
    (GlDevice.perform r d).state.numbers = d.numbers ++ r.arriving :=
  of_perform
    (Q := fun _ driver => (Transcribing.told driver).filterMap GlCommand.numbers? =
      d.numbers ++ r.arriving)
    (numbers_serve r) hreply

omit [Transcribing δ] in
theorem reply_bindTexture {slot : UInt32} {texture : Option TextureHandle}
    (hnear : ¬UInt32.size ≤ firstTextureUnit.toNat + slot.toNat) :
    (GlDevice.perform (.bindTexture slot texture) d).reply = some () := by
  have hrun : (bindTexture slot texture).run.run (⟨d.driver, #[]⟩ : Work δ) =
      (.ok (), ⟨GlDriver.run (.bindTexture (Handle.rawOf texture))
        (GlDriver.run (.activeTexture (firstTextureUnit + slot)) d.driver), #[]⟩) := by
    unfold bindTexture
    dsimp only
    rw [if_neg hnear]
    rfl
  rw [perform_of_run (r := .bindTexture slot texture) hrun]
  rfl

omit [Transcribing δ] in
/-- Elements too far in are not drawn, and yet the request is answered. -/
theorem reply_drawElements {topology : Topology} {count : UInt32} {byteOffset : UInt64}
    {base : Int32} :
    (GlDevice.perform (.drawElements topology count byteOffset base) d).reply = some () := by
  have hrun : ∃ work, (drawElements topology count byteOffset base).run.run
      (⟨d.driver, #[]⟩ : Work δ) = (.ok (), work) := by
    unfold drawElements
    split
    · exact ⟨_, rfl⟩
    · exact ⟨_, rfl⟩
  obtain ⟨work, hrun⟩ := hrun
  rw [perform_of_run (r := .drawElements topology count byteOffset base) hrun]
  rfl

omit [Transcribing δ] in
/-- The driver is not told anything of elements too far in, only an entry is left. -/
theorem perform_of_skipNote? {note : Entry} (h : r.skipNote? = some note) :
    (GlDevice.perform r d).notes = [note] ∧ (GlDevice.perform r d).state = d := by
  cases r with
  | drawElements topology count byteOffset base =>
      have hfar : byteOffset.toNat > maxBytes := by
        by_contra hnear
        simp [Request.skipNote?, hnear] at h
      have hrun : (drawElements topology count byteOffset base).run.run
          (⟨d.driver, #[]⟩ : Work δ) = (.ok (), ⟨d.driver, #[note]⟩) := by
        rw [Request.skipNote?, if_pos hfar, Option.some.injEq] at h
        rw [drawElements, if_pos hfar, ← h]
        rfl
      rw [perform_of_run (r := .drawElements topology count byteOffset base) hrun]
      exact ⟨rfl, rfl⟩
  | _ => cases h

/-- Attaching a vertex buffer comes to nothing but commands. -/
theorem reply_attachVertexBuffer (array : VertexArrayHandle) (buffer : BufferHandle)
    (layout : VertexLayout) :
    (GlDevice.perform (.attachVertexBuffer array buffer layout) d).reply = some () := by
  have hwith : ∀ (inside : List GlCommand) (w : Work δ),
      ∃ w', (withVertexArray array inside).run.run w = (.ok (), w') := by
    intro inside w
    let asked := GlDriver.ask .boundVertexArray w.driver
    let bound : Work δ := { w with driver := GlDriver.run (.bindVertexArray array.raw) asked.2 }
    obtain ⟨w', hrun, -⟩ := run_tellAll inside bound
    refine ⟨{ w' with driver := GlDriver.run (.bindVertexArray asked.1) w'.driver }, ?_⟩
    show (tellAll inside >>= fun _ => tell (.bindVertexArray asked.1)).run.run bound = _
    rw [run_bind, hrun]
    rfl
  obtain ⟨w', hrun⟩ := hwith (.bindBuffer .array buffer.raw ::
    layout.attributes.flatMap (attributeCommands layout.stride.toInt32)) ⟨d.driver, #[]⟩
  have hattach : (attachVertexBuffer array buffer layout).run.run (⟨d.driver, #[]⟩ : Work δ) =
      (.ok (), { w' with driver := GlDriver.run (.bindBuffer .array 0) w'.driver }) := by
    rw [attachVertexBuffer, run_bind, hrun]
    rfl
  rw [perform_of_run (r := .attachVertexBuffer array buffer layout) hattach]
  rfl

/-- What there is room for is answered, and so are elements too far in. -/
theorem isSome_reply (h : r.isNumeric ∧ r.Fits ∨ r.skipNote?.isSome) :
    (GlDevice.perform r d).reply.isSome := by
  cases r with
  | bindTexture slot texture =>
      have hnear : ¬UInt32.size ≤ firstTextureUnit.toNat + slot.toNat := by
        simpa [Request.Fits, Request.wanted, Request.room, Request.isNumeric,
          Request.skipNote?] using h
      rw [reply_bindTexture hnear]
      rfl
  | attachVertexBuffer array buffer layout =>
      rw [reply_attachVertexBuffer]
      rfl
  | drawElements =>
      rw [reply_drawElements]
      rfl
  | setViewport | setScissor | drawArrays => rfl
  | _ => simp [Request.isNumeric, Request.skipNote?] at h

end GlDevice

/-- What arrived at the driver of a world, in order. -/
def World.numbers {δ : Type} [GlDriver δ] [Transcribing δ] (w : World (GlDevice δ)) :
    List (List Int) :=
  w.device.numbers

end RenderKit
