import RenderKit.Device.Scripted
import RenderKit.Proofs.Ledger.Steps
import RenderKit.Resource.Image.Png
import RenderKit.Shader.Glsl.Toolchain

set_option autoImplicit false

/-! # The ledger of a session

Whoever uses a device through its own objects names what exists, deletes everything once, and
deletes nothing that something else on the device still holds. This is so after every step of a
session, however its steps come out, and once a session has given up all of its objects nothing is
left on the device. -/

namespace RenderKit.Session

variable {σ : Type} [InstrumentedDevice σ]

/-- What an application does: a step, or one more name for an object that several can own. -/
inductive Action (σ : Type) where
  | step (s : Step σ)
  | share (original copy : Name)

/-- Become one more owner of an object. -/
def holdObject : Object → Play σ Unit
  | .buffer r => inWorld (hold r)
  | .texture r => inWorld (hold r)
  | .sampler r => inWorld (hold r)
  | .framebuffer r => inWorld (hold r)
  | .program r => inWorld (hold r)
  | .pipeline r => inWorld (hold r)
  | _ => throw .noObject

def act [Toolchain] [ImageCodec] : Action σ → Play σ Answer
  | .step s => play s
  | .share original copy => do
      let o ← object original
      holdObject o
      assign copy o
      return .nothing

/-- Applications do not ask the device past their objects. -/
def Action.Public : Action σ → Prop
  | .step (.make _ recipe) => recipe.Named
  | .step (.ask _) => False
  | _ => True

/-- Whether an action is left to the session by a guard. -/
def Action.Allowed (g : Guard σ) (theirs : List (Name × Object)) : Action σ → Prop
  | .step s => Permits g theirs s
  | .share _ copy => free theirs copy

/-- The state is one of a session with a device, with actions of some sort, in which nothing was
    cut off. -/
inductive ReachedBy [Toolchain] [ImageCodec] (device : σ) (files : Files) (p : Action σ → Prop) :
    State σ → Prop where
  | start : ReachedBy device files p { world := .start device, objects := [], files := files }
  | act {s s' : State σ} {a : Action σ} {outcome : Except Refusal Answer} :
      ReachedBy device files p s → p a → (act a).run.run s = (outcome, s') →
      outcome ≠ .error (.halt .abort) → ReachedBy device files p s'

/-- The state is one of a session with a device in which nothing was cut off. -/
abbrev Reached [Toolchain] [ImageCodec] (device : σ) (files : Files) : State σ → Prop :=
  ReachedBy device files Action.Public

theorem ne_abort_of_isOk {outcome : Except Refusal Answer} (h : outcome.isOk) :
    outcome ≠ .error (.halt .abort) := by
  rintro rfl
  cases h

/-- Whether actions come to something that are done one after the other. -/
def allOk [Toolchain] [ImageCodec] : List (Action σ) → State σ → Bool
  | [], _ => true
  | a :: rest, s => ((act a).run.run s).1.isOk && allOk rest ((act a).run.run s).2

def actAll [Toolchain] [ImageCodec] : List (Action σ) → State σ → State σ
  | [], s => s
  | a :: rest, s => actAll rest ((act a).run.run s).2

theorem ReachedBy.of_allOk [Toolchain] [ImageCodec] {device : σ} {files : Files}
    {p : Action σ → Prop} {s : State σ}
    {as : List (Action σ)} (hs : ReachedBy device files p s) (has : ∀ a ∈ as, p a)
    (hok : allOk as s) : ReachedBy device files p (actAll as s) := by
  induction as generalizing s with
  | nil => exact hs
  | cons a rest ih =>
      obtain ⟨hfirst, hrest⟩ := Bool.and_eq_true_iff.mp hok
      exact ih (hs.act (has a List.mem_cons_self) (Prod.eta _).symm (ne_abort_of_isOk hfirst))
        (fun b hb => has b (List.mem_cons_of_mem a hb)) hrest

/-! ## Keeping the books -/

section

variable {g : Guard σ} {theirs : List (Name × Object)} {s s' : State σ}

theorem runs_holdObject {o : Object} (hs : Kept g theirs 0 s) {name : Name}
    (h : s.objects.lookup name = some o) :
    Runs (holdObject o) s (fun _ s' => s'.objects = s.objects ∧ Kept g theirs o.refs s')
      (Kept g theirs 0) := by
  have hhold : ∀ {α : Type} [Pooled α] [Traced α] [Housed α] {r : Ref α},
      o.refs = {Traced.node r} →
      Runs (inWorld (hold r)) s (fun _ s' => s'.objects = s.objects ∧ Kept g theirs o.refs s')
        (Kept g theirs 0) := by
    intro α _ _ _ r ho
    have hr := hs.owns_zero.mem_nodes
      (hs.mem h (ho ▸ Multiset.mem_singleton_self (Traced.node r)))
    refine hs.runs_make ((runs_hold hs.owns_zero hr).imp fun _ _ hb => hb.2.congr ?_)
    rw [ho, Multiset.singleton_add]
  unfold holdObject
  cases o with
  | buffer r => exact hhold rfl
  | texture r => exact hhold rfl
  | sampler r => exact hhold rfl
  | framebuffer r => exact hhold rfl
  | program r => exact hhold rfl
  | pipeline r => exact hhold rfl
  | attachment a => exact runs_noObject hs
  | layout l => exact runs_noObject hs
  | pass p => exact runs_noObject hs
  | mesh m => exact runs_noObject hs
  | material m => exact runs_noObject hs
  | context c => exact runs_noObject hs
  | commands c => exact runs_noObject hs

theorem runs_act [Toolchain] [ImageCodec] {a : Action σ} (hs : Kept g theirs 0 s)
    (ha : a.Allowed g theirs)
    (hwatched : ∀ v ∈ g.watched, ∀ r, v.node = .framebuffer r → v.node ∈ g.tokens) :
    Runs (act a) s (fun _ => Kept g theirs 0) (Kept g theirs 0) := by
  cases a with
  | step step => exact runs_play hs ha hwatched
  | share original copy =>
      refine Runs.bind_same (runs_object hs) fun o ho => ?_
      have hordered := hs.ordered_of_lookup ho
      refine Runs.bind (runs_holdObject hs ho) ?_
      rintro - s₁ ⟨-, hs₁⟩
      exact Runs.bind (runs_assign hs₁ ha hordered) fun _ _ h => Runs.pure h

omit [InstrumentedDevice σ] in
/-- What a task comes to that is not cut off. -/
theorem of_runs {t : Play σ Answer} {Q : Answer → State σ → Prop} {E : State σ → Prop}
    {outcome : Except Refusal Answer} (ht : Runs t s Q E) (hrun : t.run.run s = (outcome, s'))
    (hout : outcome ≠ .error (.halt .abort)) :
    match outcome with
    | .ok answer => Q answer s'
    | .error _ => E s' := by
  unfold Runs at ht
  rw [hrun] at ht
  rcases outcome with e | answer
  · exact ht.resolve_left fun hcut => hout (congrArg Except.error hcut)
  · exact ht

end

/-- The books of a world in which nothing has happened yet. -/
theorem owns_start {g : Guard σ} {device : σ} (htokens : g.tokens = 0) (hbase : g.base = [])
    (hwatched : g.watched = ∅) (hlaw : g.law device []) : Owns g 0 (.start device) := by
  refine ⟨⟨?_, ?_, hlaw, Calls.lawful_nil, Calls.answered_nil⟩, fun _ => ?_, fun _ v hv => ?_,
    fun _ x hx => ?_⟩
  · rw [hbase]
    exact List.nil_prefix
  · simp [World.history, World.start]
  · rw [htokens]
    exact Heap.sound_empty
  · rw [hwatched] at hv
    exact hv.elim
  · exact absurd hx (Multiset.notMem_zero x)

/-- A session keeps the books for a guard that is there from the beginning. -/
theorem kept_of_reached [Toolchain] [ImageCodec] {g : Guard σ} {device : σ} {files : Files}
    {p : Action σ → Prop}
    {s : State σ} (hstart : Owns g 0 (.start device)) (hwatched : g.watched = ∅)
    (hp : ∀ a, p a → a.Allowed g []) (hs : ReachedBy device files p s) : Kept g [] 0 s := by
  have hnobody : ∀ v ∈ g.watched, ∀ r, v.node = .framebuffer r → v.node ∈ g.tokens := by
    intro v hv
    rw [hwatched] at hv
    exact hv.elim
  induction hs with
  | start => exact ⟨hstart, by simp, List.nodup_nil, by simp⟩
  | act _ ha hrun hout ih =>
      have hafter := of_runs (runs_act ih (hp _ ha) hnobody) hrun hout
      split at hafter
      · exact hafter
      · exact hafter

/-- A guard that has nothing against anything. -/
def unguarded : Guard σ where
  tokens := 0
  base := []
  allows _ := True
  allows_resource _ := trivial
  watched := ∅
  law _ _ := True
  law_ask _ _ := trivial

theorem Action.Public.allowed {a : Action σ} (ha : a.Public) :
    a.Allowed unguarded [] := by
  rcases a with step | _
  · cases step with
    | make name recipe => exact ⟨rfl, ha⟩
    | ask r => exact ha.elim
    | adjust | message => exact ⟨fun _ _ _ => trivial, fun _ _ _ => trivial⟩
    | _ => simp [Action.Allowed, Permits, unguarded]
  · rfl

/-! ## The ledger -/

/-- Nothing is left on the device without objects. -/
theorem live_eq_zero {s : State σ} (hs : Kept unguarded [] 0 s)
    (hfresh : s.world.Fresh) (hnone : s.objects = []) : s.world.live = 0 := by
  have hsound := hs.owns_zero.sound hfresh
  have htokens : (unguarded : Guard σ).tokens + refsOf [] s.objects = 0 := by
    rw [hnone]
    rfl
  rw [htokens] at hsound
  have hcells : s.world.cells = 0 := by
    refine hsound.eq_zero fun c hc d hd hlink => ?_
    exact World.links_of_isLeaf d hd (World.isLeaf_of_mem_links c hc _ hlink)
  rw [hsound.balance, hcells]
  rfl

/-- The ledger of a session on a device that never returns a handle twice. No call names a handle
    that was deleted, none is deleted twice, a texture is not deleted before the framebuffers that
    were created from it, nor a buffer while a vertex array has it, and in the end every handle
    that was returned has been deleted. -/
theorem handles_deleted_once [Toolchain] [ImageCodec] {device : σ} {files : Files} {s : State σ}
    (hs : Reached device files s) (hnew : (Calls.issued s.world.history).Nodup) :
    (∀ before c after, s.world.history = before ++ c :: after →
      ∀ x ∈ c.request.named, x ∈ Calls.issued before ∧ x ∉ Calls.deleted before) ∧
    (Calls.deleted s.world.history).Nodup ∧
    (∀ before c after, s.world.history = before ++ c :: after →
      ∀ x ∈ c.deleted, ∀ b ∈ Calls.bonds before, b.on ≠ x) ∧
    (s.objects = [] →
      (Calls.deleted s.world.history).Perm (Calls.issued s.world.history)) := by
  have hkept := kept_of_reached (owns_start rfl rfl rfl trivial) rfl
    (fun _ ha => Action.Public.allowed ha) hs
  have hlawful : Calls.Lawful s.world.history := hkept.owns.lawful
  have hfresh : Calls.Fresh s.world.history := Calls.fresh_of_nodup hnew
  have hsum := Calls.live_add_deleted hlawful hfresh
  refine ⟨?_, ?_, ?_, ?_⟩
  · intro before c after hcalls x hx
    have hbefore : Calls.Fresh before := Calls.Stepwise.of_append (hcalls ▸ hfresh)
    have hlive := (hlawful before c after hcalls hbefore).named x hx
    refine ⟨Multiset.mem_of_le (Calls.live_le_issued before) hlive, fun hdeleted => ?_⟩
    have hsum := Calls.live_add_deleted (Calls.Stepwise.of_append (hcalls ▸ hlawful)) hbefore
    have hnodup : (Calls.issued before).Nodup := by
      rw [hcalls, Calls.issued, List.flatMap_append] at hnew
      exact hnew.of_append_left
    rw [← Multiset.coe_nodup, ← hsum, Multiset.nodup_add] at hnodup
    exact Multiset.disjoint_left.mp hnodup.2.2 hlive hdeleted
  · refine Multiset.coe_nodup.mp (Multiset.nodup_of_le ?_ (Multiset.coe_nodup.mpr hnew))
    rw [← hsum]
    exact Multiset.le_add_left _ _
  · intro before c after hcalls
    have hbefore : Calls.Fresh before := Calls.Stepwise.of_append (hcalls ▸ hfresh)
    exact (hlawful before c after hcalls hbefore).free
  · intro hnone
    have hlive : Calls.live s.world.history = 0 := live_eq_zero hkept hfresh hnone
    rw [hlive, zero_add] at hsum
    exact Multiset.coe_eq_coe.mp hsum

theorem handles_deleted_once_scripted :
    ∃ s : State ScriptedDevice,
      Reached (.new .openGL (ScriptedDevice.capabilitiesOf 64 4) .empty) Files.empty s ∧
      s.objects = [] ∧
      Calls.issued s.world.history =
        [⟨.texture, 1⟩, ⟨.framebuffer, 2⟩, ⟨.texture, 3⟩, ⟨.framebuffer, 4⟩] ∧
      (Calls.deleted s.world.history).Perm (Calls.issued s.world.history) := by
  have hstart : Reached (ScriptedDevice.new .openGL (ScriptedDevice.capabilitiesOf 64 4) .empty)
    Files.empty _ := .start
  -- a framebuffer that is resized, with two owners, and without the attachment it was made of
  let actions : List (Action ScriptedDevice) :=
    [.step (.make "a" (.attachment (.color .rgba8) [])),
     .step (.make "f" (.framebuffer 2 2 [.color "a"])), .step (.resize "f" 4 4), .share "f" "g",
     .step (.drop "f"), .step (.drop "a"), .step (.drop "g")]
  have hs : Reached _ Files.empty (actAll actions _) :=
    hstart.of_allOk (by simp [actions, Action.Public, Recipe.Named, Attachment.color])
      (by decide +kernel)
  refine ⟨_, hs, List.isEmpty_iff.mp ?_, ?_,
    (handles_deleted_once hs ?_).2.2.2 (List.isEmpty_iff.mp ?_)⟩
  all_goals decide +kernel

end RenderKit.Session
