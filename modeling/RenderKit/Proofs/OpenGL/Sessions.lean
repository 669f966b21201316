import RenderKit.Proofs.Ledger.Sessions
import RenderKit.Proofs.OpenGL.History

set_option autoImplicit false

/-! # Sessions on a conforming driver

A session that leaves the driver to its device never gets the two out of step: what is bound, the
masks, the draws and the clears are those that the history of the session tells. -/

namespace RenderKit.Session

variable {δ : Type} [RecordingDriver δ] [Conforming δ]

/-- A public action that does not put another driver in place of the one there is. -/
def Action.Genuine : Action (GlDevice δ) → Prop
  | .step (.adjust _) => False
  | a => a.Public

omit [Conforming δ] in
/-- Such actions are left to the session by guards that have nothing against any request. -/
theorem Action.Genuine.allowed {g : Guard (GlDevice δ)} (hallows : ∀ r, g.allows r)
    (hdeliver : ∀ m, g.Tolerates fun d => (GlDevice.deliver m d).2.2) {a : Action (GlDevice δ)}
    (ha : a.Genuine) : a.Allowed g [] := by
  rcases a with step | _
  · cases step with
    | make name recipe => exact ⟨rfl, ha⟩
    | message m => exact hdeliver m
    | adjust change => exact ha.elim
    | ask r => exact ha.elim
    | _ => simp [Action.Allowed, Permits, hallows]
  · rfl

/-- A guard that knows that the device agrees with its history. -/
def mirroring : Guard (GlDevice δ) where
  tokens := 0
  base := []
  allows _ := True
  allows_resource _ := trivial
  watched := ∅
  law d calls := d.Mirrored calls
  law_ask _ h := h.perform

section

variable {device : GlDevice δ} {files : Files} {s : State (GlDevice δ)}

theorem kept_mirroring [Toolchain] [ImageCodec] (hdevice : device.context.trace = .start)
    (hs : ReachedBy device files Action.Genuine s) : Kept mirroring [] 0 s := by
  have hstart : Owns (mirroring : Guard (GlDevice δ)) 0 (.start device) :=
    owns_start rfl rfl rfl fun _ _ => GlDevice.mirrors_nil hdevice
  have hdeliver : ∀ m, (mirroring : Guard (GlDevice δ)).Tolerates
      fun d => (GlDevice.deliver m d).2.2 :=
    fun m => ⟨fun _ _ h => h.deliver m, fun _ _ _ => trivial⟩
  exact kept_of_reached hstart rfl (fun _ ha => ha.allowed (fun _ => trivial) hdeliver) hs

theorem mirrors_of_reached [Toolchain] [ImageCodec] (hdevice : device.context.trace = .start)
    (hs : ReachedBy device files Action.Genuine s) :
    s.world.device.Mirrors s.world.history := by
  have howns := (kept_mirroring hdevice hs).owns
  exact howns.law howns.answered howns.lawful

end

/-! ## Looking into a session -/

def Object.commands? : Object → Option CommandBuffer
  | .commands c => some c
  | _ => none

def Object.pass? : Object → Option RenderPass
  | .pass p => some p
  | _ => none

def Object.mesh? : Object → Option Mesh
  | .mesh m => some m
  | _ => none

def Object.program? : Object → Option (Ref Program)
  | .program r => some r
  | _ => none

def Answer.truth? : Answer → Option Bool
  | .truth b => some b
  | _ => none

section

variable {α : Type} {objects : List (Name × Object)} {name : Name}

/-- An object from which something can be picked is made of that. -/
theorem lookup_of_pick {pick : Object → Option α} {a : α} (put : α → Object)
    (hput : ∀ o, pick o = some a → o = put a) (h : (objects.lookup name).bind pick = some a) :
    objects.lookup name = some (put a) := by
  obtain ⟨o, ho, ha⟩ := Option.bind_eq_some_iff.mp h
  rw [ho, hput o ha]

theorem lookup_of_commands? {c : CommandBuffer}
    (h : (objects.lookup name).bind Object.commands? = some c) :
    objects.lookup name = some (.commands c) :=
  lookup_of_pick .commands (fun o ho => by cases o <;> cases ho; rfl) h

theorem lookup_of_pass? {p : RenderPass}
    (h : (objects.lookup name).bind Object.pass? = some p) :
    objects.lookup name = some (.pass p) :=
  lookup_of_pick .pass (fun o ho => by cases o <;> cases ho; rfl) h

theorem lookup_of_mesh? {m : Mesh}
    (h : (objects.lookup name).bind Object.mesh? = some m) :
    objects.lookup name = some (.mesh m) :=
  lookup_of_pick .mesh (fun o ho => by cases o <;> cases ho; rfl) h

theorem lookup_of_program? {r : Ref Program}
    (h : (objects.lookup name).bind Object.program? = some r) :
    objects.lookup name = some (.program r) :=
  lookup_of_pick .program (fun o ho => by cases o <;> cases ho; rfl) h

end

theorem eq_of_truth? {outcome : Except Refusal Answer} {b : Bool}
    (h : outcome.toOption.bind Answer.truth? = some b) : outcome = .ok (.truth b) := by
  obtain ⟨answer, hanswer, hb⟩ := Option.bind_eq_some_iff.mp h
  rcases outcome with e | a
  · cases hanswer
  · cases hanswer
    cases answer <;> cases hb
    rfl

theorem exists_one_new {α : Type} {before new after : List α} (h : after = before ++ new)
    (hone : (after.drop before.length).length = 1) : ∃ a, new = [a] := by
  rw [h, List.drop_left] at hone
  exact List.length_eq_one_iff.mp hone

end RenderKit.Session
