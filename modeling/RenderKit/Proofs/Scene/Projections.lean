import RenderKit.Proofs.Number.Values
import RenderKit.Proofs.Scene.Matrices

set_option autoImplicit false

/-! # Installed projections

Whoever sets a projection gets it checked first, so that the projection of a camera is one that has
no fault, whatever was done to the camera. A fault is found by comparing numbers. The angle of view
has to be a number between its bounds. Of everything else only a number can be at fault: a NaN
passes, and the projection that was set need not be a proper one. -/

namespace RenderKit

namespace Projection

open Binary32 (Relates RelatesUnlessNaN)

/-- What a projection is meant to be. -/
def Proper : Projection → Prop
  | .perspective fov aspect near far =>
      (∃ a ∈ fov.value?, 0 < a ∧ a < 180) ∧ (∃ a ∈ aspect.value?, 0 < a) ∧
        (∃ n ∈ near.value?, 0 < n) ∧ Relates (· < ·) near far
  | .orthographic left right bottom top near far =>
      Relates (· ≠ ·) left right ∧ Relates (· ≠ ·) bottom top ∧ Relates (· ≠ ·) near far

/-- What a projection has to be for a camera. Only the angle has to be a number. -/
def Admitted : Projection → Prop
  | .perspective fov aspect near far =>
      (∃ a ∈ fov.value?, 0 < a ∧ a < 180) ∧ (∀ a ∈ aspect.value?, 0 < a) ∧
        (∀ n ∈ near.value?, 0 < n) ∧ RelatesUnlessNaN (· < ·) near far
  | .orthographic left right bottom top near far =>
      RelatesUnlessNaN (· ≠ ·) left right ∧ RelatesUnlessNaN (· ≠ ·) bottom top ∧
        RelatesUnlessNaN (· ≠ ·) near far

/-- Everything a projection is made of. -/
def numbers : Projection → List Binary32
  | .perspective fov aspect near far => [fov, aspect, near, far]
  | .orthographic left right bottom top near far => [left, right, bottom, top, near, far]

/-- Where everything is a number, what is admitted is proper. -/
theorem proper_iff {p : Projection} :
    p.Proper ↔ p.Admitted ∧ ∀ x ∈ p.numbers, x.isNaN = false := by
  cases p with
  | perspective fov aspect near far =>
      simp only [Proper, Admitted, numbers, Binary32.relates_iff, Binary32.exists_value_iff,
        List.forall_mem_cons]
      tauto
  | orthographic left right bottom top near far =>
      simp only [Proper, Admitted, numbers, Binary32.relates_iff, List.forall_mem_cons]
      tauto

/-! ## Faults -/

theorem value?_halfTurn : halfTurn.value? = some 180 := by
  rw [Binary32.value?_of_not_isNaN (by decide), show halfTurn.rank = 0x43340000 from by decide]
  norm_num [Binary32.atRank, Binary32.signedUnits, Binary32.units]
  rfl

/-- An angle is no fault if it is a number between the bounds. -/
theorem angle_iff {fov : Binary32} :
    (Binary32.zero.lt fov && fov.lt halfTurn) ↔ ∃ a ∈ fov.value?, 0 < a ∧ a < 180 := by
  rw [Bool.and_eq_true, Binary32.lt_iff, Binary32.lt_iff]
  simp only [Relates, Binary32.value?_zero, value?_halfTurn, Option.mem_some_iff, exists_eq_left']
  constructor
  · rintro ⟨⟨a, ha, hlow⟩, b, hb, hhigh⟩
    obtain rfl := Option.mem_unique ha hb
    exact ⟨a, ha, hlow, hhigh⟩
  · rintro ⟨a, ha, hlow, hhigh⟩
    exact ⟨⟨a, ha, hlow⟩, a, ha, hhigh⟩

theorem positive_iff {x : Binary32} : x.le .zero = false ↔ ∀ a ∈ x.value?, 0 < a := by
  simp [Binary32.le_eq_false_iff, RelatesUnlessNaN]

/-- A projection has no fault if it is admitted. -/
theorem fault?_eq_none_iff {p : Projection} : p.fault? = none ↔ p.Admitted := by
  cases p with
  | perspective fov aspect near far =>
      rw [Admitted, ← angle_iff, ← positive_iff, ← positive_iff, ← Binary32.le_eq_false_iff, fault?]
      grind
  | orthographic left right bottom top near far =>
      simp only [Admitted, ← Binary32.eqv_eq_false_iff, fault?]
      grind

theorem exists_fault_iff {p : Projection} : (∃ fault, p.fault? = some fault) ↔ ¬p.Admitted := by
  rw [← fault?_eq_none_iff, ← Option.ne_none_iff_exists']

end Projection

/-! ## Cameras -/

namespace Camera

variable {c plan : Camera} {p : Projection}

/-- The camera with another projection. -/
def installed (c : Camera) (p : Projection) : Camera :=
  { c with projection := p, keptProjection := none }

theorem setProjection_of_admitted (h : p.Admitted) : c.setProjection p = .ok (c.installed p) := by
  simp only [setProjection, Projection.fault?_eq_none_iff.mpr h, installed]

theorem setProjection_of_not_admitted (h : ¬p.Admitted) :
    ∃ fault, p.fault? = some fault ∧ c.setProjection p = .error (.projection fault) := by
  obtain ⟨fault, hfault⟩ := Projection.exists_fault_iff.mpr h
  exact ⟨fault, hfault, by simp only [setProjection, hfault]⟩

/-- A projection that was set was admitted. -/
theorem admitted_of_setProjection {changed : Camera} (h : c.setProjection p = .ok changed) :
    p.Admitted ∧ changed = c.installed p := by
  by_cases hp : p.Admitted
  · rw [setProjection_of_admitted hp] at h
    exact ⟨hp, (Except.ok.inj h).symm⟩
  · obtain ⟨fault, -, herror⟩ := setProjection_of_not_admitted (c := c) hp
    rw [herror] at h
    cases h

/-- A camera that was put together is accepted if its projection is admitted and it does not stand
    on its target. -/
theorem checked_eq_ok_iff :
    plan.checked = .ok c ↔ plan.projection.Admitted ∧ plan.position.eqv plan.target = false ∧
      c = { plan with keptView := none, keptProjection := none } := by
  rw [← Projection.fault?_eq_none_iff, checked]
  cases hfault : plan.projection.fault? with
  | some fault => simp
  | none =>
      cases hplace : plan.position.eqv plan.target with
      | true => simp
      | false => simp [eq_comm]

/-- No camera is accepted without an admitted projection. -/
theorem checked_of_not_admitted (h : ¬plan.projection.Admitted) :
    ∃ fault, plan.projection.fault? = some fault ∧ plan.checked = .error (.projection fault) := by
  obtain ⟨fault, hfault⟩ := Projection.exists_fault_iff.mpr h
  exact ⟨fault, hfault, by simp only [checked, hfault]⟩

namespace Use

variable [Geometry] {use : Use}

theorem after_of_ok {changed : Camera} (h : use.run c = .ok changed) : use.after c = changed := by
  simp only [after, h]

/-- Uses that ask for no projection leave it alone. -/
theorem projection_after_of_none (h : use.projection? c = none) :
    (use.after c).projection = c.projection := by
  cases use with
  | setPosition | setTarget | setUp | translate | look => rfl
  | setPerspective | setOrthographic | setProjection => cases h
  | setAspect aspect =>
      cases hc : c.projection with
      | perspective => simp [projection?, hc] at h
      | orthographic => simp only [after, run, Camera.setAspect, hc]
  | orbit yaw pitch =>
      show (c.orbit yaw pitch).projection = c.projection
      simp only [Camera.orbit]
      split <;> rfl
  | viewMatrix =>
      show c.viewMatrix.2.projection = c.projection
      cases hv : c.keptView <;> simp only [Camera.viewMatrix, hv]
  | projectionMatrix =>
      show c.projectionMatrix.2.projection = c.projection
      cases hp : c.keptProjection <;> simp only [Camera.projectionMatrix, hp]
  | viewProjection =>
      show c.projectionMatrix.2.viewMatrix.2.projection = c.projection
      cases hp : c.keptProjection <;> cases hv : c.keptView <;>
        simp only [Camera.projectionMatrix, Camera.viewMatrix, hp, hv]

/-- What a use leaves is admitted: it was before, or it was checked by this use. -/
theorem admitted_after (use : Use) (c : Camera) (h : c.projection.Admitted) :
    (use.after c).projection.Admitted := by
  cases hasks : use.projection? c with
  | none => rwa [projection_after_of_none hasks]
  | some p =>
      cases hrun : use.run c with
      | error e => rwa [after_of_error hrun]
      | ok changed =>
          rw [after_of_ok hrun]
          rw [run_of_projection? hasks] at hrun
          obtain ⟨hp, rfl⟩ := admitted_of_setProjection hrun
          exact hp

end Use

/-- However cameras are used and copied, each has a projection that was admitted, and a use that
    asks for another one installs it if it is admitted, and else is refused and changes nothing. The
    projection of a camera is a proper one as long as there is no NaN in it. -/
theorem projections_admitted [Geometry] (cameras : List Camera)
    (made : ∀ c ∈ cameras, ∃ plan : Camera, plan.checked = .ok c)
    (handlings : List (Handling Use)) :
    (∀ plan : Camera,
      (plan.projection.Admitted → plan.position.eqv plan.target = false →
        ∃ c, plan.checked = .ok c ∧ c.projection = plan.projection) ∧
      (¬plan.projection.Admitted →
        ∃ e, plan.checked = .error e ∧ (Cause.error e).kind = .invalidState)) ∧
    ∀ c ∈ Handling.run Use.after cameras handlings,
      c.projection.Admitted ∧
      (c.projection.Proper ↔ ∀ x ∈ c.projection.numbers, x.isNaN = false) ∧
      ∀ use : Use,
        (use.projection? c = none → (use.after c).projection = c.projection) ∧
        ∀ p, use.projection? c = some p →
          (p.Admitted → use.run c = .ok (c.installed p)) ∧
          (¬p.Admitted →
            ∃ e, use.run c = .error e ∧ (Cause.error e).kind = .invalidState ∧
              use.after c = c) := by
  refine ⟨fun plan => ⟨fun hadmitted hplace => ?_, fun hnot => ?_⟩, fun c hc => ?_⟩
  · exact ⟨_, checked_eq_ok_iff.mpr ⟨hadmitted, hplace, rfl⟩, rfl⟩
  · obtain ⟨fault, -, herror⟩ := checked_of_not_admitted hnot
    exact ⟨_, herror, Error.kind_of _ _⟩
  have hadmitted : c.projection.Admitted := by
    refine Handling.run_all Use.admitted_after handlings (fun c hc => ?_) c hc
    obtain ⟨plan, haccepted⟩ := made c hc
    obtain ⟨hplan, -, rfl⟩ := checked_eq_ok_iff.mp haccepted
    exact hplan
  refine ⟨hadmitted, ?_, fun use => ⟨Use.projection_after_of_none, fun p hasks => ?_⟩⟩
  · rw [Projection.proper_iff, and_iff_right hadmitted]
  · rw [Use.run_of_projection? hasks]
    refine ⟨setProjection_of_admitted, fun hnot => ?_⟩
    obtain ⟨fault, -, herror⟩ := setProjection_of_not_admitted (c := c) hnot
    refine ⟨_, herror, Error.kind_of _ _, Use.after_of_error (e := .projection fault) ?_⟩
    rw [Use.run_of_projection? hasks, herror]

/-! ## A camera without a ratio -/

/-- Something that is not a number. -/
def nan : Binary32 := ⟨0x7fc00000⟩

/-- The standard camera with planes at one and at infinity. -/
def endless (aspect : Binary32) : Camera :=
  { standard with projection := .perspective Projection.defaultFov aspect .one ⟨0x7f800000⟩ }

/-- An infinite ratio is installed. One of zero is refused, and the camera stays as it is. -/
theorem projections_admitted_endless :
    ∃ c d, (endless .one).checked = .ok c ∧
      Handling.run Use.after [c] [.use 0 (.setAspect ⟨0x7f800000⟩)] = [d] ∧
      d.projection = (endless ⟨0x7f800000⟩).projection ∧ d.projection.Proper ∧
      ∃ e, Use.run d (.setAspect .zero) = .error e ∧ (Cause.error e).kind = .invalidState ∧
        Use.after (.setAspect .zero) d = d := by
  refine ⟨_, _, rfl, rfl, rfl, ?_⟩
  obtain ⟨-, hcameras⟩ := projections_admitted [_]
    (fun c hc => ⟨endless .one, List.mem_singleton.mp hc ▸ rfl⟩)
    [.use 0 (.setAspect ⟨0x7f800000⟩)]
  obtain ⟨-, hproper, huses⟩ := hcameras _ (.head _)
  refine ⟨hproper.mpr (by decide), ((huses (.setAspect .zero)).2 _ rfl).2 ?_⟩
  rw [← Projection.fault?_eq_none_iff]
  decide

/-- A ratio that is not a number is installed, although it is not positive. -/
theorem nan_aspect_installed :
    ∃ c, (endless nan).checked = .ok c ∧ ¬c.projection.Proper := by
  refine ⟨_, rfl, fun h => ?_⟩
  have hnan := (Projection.proper_iff.mp h).2 nan (by decide)
  cases hnan

end Camera

end RenderKit
