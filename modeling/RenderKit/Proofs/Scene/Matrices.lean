import RenderKit.Scene.Camera
import RenderKit.Scene.Matrix
import RenderKit.Scene.Transform

set_option autoImplicit false

/-! # Kept matrices

Cameras and transforms keep the matrices that they were asked for. Every use either leaves what a
kept matrix depends on as it is or forgets the matrix, so that whoever asks gets the matrix of the
parts as they are now. Objects may be copied at any time, and a copy takes along what is kept. -/

namespace RenderKit

/-! ## Objects that are used and copied -/

/-- What is done to one of several objects, found by its place. A copy goes to the end. -/
inductive Handling (ι : Type) where
  | use (place : Nat) (how : ι)
  | copy (place : Nat)
deriving Repr

namespace Handling

variable {ι α : Type} (after : ι → α → α)

/-- The objects after one of them was handled. Where there is none nothing happens. -/
def act (objects : List α) : Handling ι → List α
  | .use place how => objects.modify place (after how)
  | .copy place => objects ++ objects[place]?.toList

/-- The objects after several of them were handled, one after the other. -/
def run (objects : List α) (handlings : List (Handling ι)) : List α :=
  handlings.foldl (act after) objects

variable {after} {P : α → Prop}

theorem act_all (kept : ∀ how x, P x → P (after how x)) (h : Handling ι) {objects : List α}
    (all : ∀ x ∈ objects, P x) : ∀ x ∈ act after objects h, P x := by
  intro x hx
  cases h with
  | use place how =>
    simp only [act, List.mem_iff_getElem?, List.getElem?_modify] at hx
    obtain ⟨i, hi⟩ := hx
    obtain ⟨y, hy, rfl⟩ := Option.map_eq_some_iff.1 hi
    have hPy : P y := all y (List.mem_of_getElem? hy)
    by_cases hplace : place = i
    · simpa only [hplace, if_true] using kept how y hPy
    · simpa only [hplace, if_false, id] using hPy
  | copy place =>
    simp only [act, List.mem_append, Option.mem_toList] at hx
    rcases hx with hx | hx
    · exact all x hx
    · exact all x (List.mem_of_getElem? hx)

/-- What each use keeps of an object holds of every object and of every copy, however they were
    handled. -/
theorem run_all (kept : ∀ how x, P x → P (after how x)) (handlings : List (Handling ι))
    {objects : List α} (all : ∀ x ∈ objects, P x) : ∀ x ∈ run after objects handlings, P x := by
  induction handlings generalizing objects with
  | nil => exact all
  | cons h rest ih => exact ih (act_all kept h all)

end Handling

/-! ## Uses of a camera -/

namespace Camera

inductive Use where
  | setPosition (v : Vec3)
  | setTarget (v : Vec3)
  | setUp (v : Vec3)
  | setPerspective (fov aspect near far : Binary32)
  | setOrthographic (left right bottom top near far : Binary32)
  | setProjection (p : Projection)
  | setAspect (aspect : Binary32)
  | translate (delta : Vec3)
  | orbit (yaw pitch : Binary32)
  | viewMatrix
  | projectionMatrix
  | viewProjection
  /-- Ask for a part, for the direction of view or for the one to its right. -/
  | look
deriving Repr

variable [Geometry]

namespace Use

/-- The camera that a use gives, unless it is refused. -/
def run (c : Camera) : Use → Except CameraError Camera
  | .setPosition v => .ok (c.setPosition v)
  | .setTarget v => .ok (c.setTarget v)
  | .setUp v => .ok (c.setUp v)
  | .setPerspective fov aspect near far => c.setProjection (.perspective fov aspect near far)
  | .setOrthographic left right bottom top near far =>
      c.setProjection (.orthographic left right bottom top near far)
  | .setProjection p => c.setProjection p
  | .setAspect aspect => c.setAspect aspect
  | .translate delta => .ok (c.translate delta)
  | .orbit yaw pitch => .ok (c.orbit yaw pitch)
  | .viewMatrix => .ok c.viewMatrix.2
  | .projectionMatrix => .ok c.projectionMatrix.2
  | .viewProjection => .ok c.viewProjection.2
  | .look => .ok c

/-- The camera after a use. One that is refused gives no camera, and the old one stays. -/
def after (use : Use) (c : Camera) : Camera :=
  match use.run c with
  | .ok changed => changed
  | .error _ => c

/-- The projection that a use asks for, if it asks for one. -/
def projection? (c : Camera) : Use → Option Projection
  | .setPerspective fov aspect near far => some (.perspective fov aspect near far)
  | .setOrthographic left right bottom top near far =>
      some (.orthographic left right bottom top near far)
  | .setProjection p => some p
  | .setAspect aspect =>
      match c.projection with
      | .perspective fov _ near far => some (.perspective fov aspect near far)
      | .orthographic _ _ _ _ _ _ => none
  | _ => none

/-- A use that asks for a projection sets it, or is refused for its fault. -/
theorem run_of_projection? {c : Camera} {use : Use} {p : Projection}
    (asks : use.projection? c = some p) : use.run c = c.setProjection p := by
  cases use with
  | setAspect aspect =>
    cases hc : c.projection with
    | perspective fov _ near far =>
      simp only [projection?, hc, Option.some.injEq] at asks
      simp only [run, Camera.setAspect, hc, asks]
    | orthographic => simp [projection?, hc] at asks
  | _ => simp_all [projection?, run]

/-- Only a projection is ever refused. -/
theorem run_of_no_projection {c : Camera} {use : Use} (asks : use.projection? c = none) :
    ∃ changed, use.run c = .ok changed := by
  cases use with
  | setAspect aspect =>
    cases hc : c.projection with
    | perspective => simp [projection?, hc] at asks
    | orthographic => exact ⟨c, by simp only [run, Camera.setAspect, hc]⟩
  | setPerspective | setOrthographic | setProjection => simp [projection?] at asks
  | _ => exact ⟨_, rfl⟩

/-- A use is refused for the first fault of the projection that it asks for, and for nothing
    else. -/
theorem run_eq_error_iff {c : Camera} {use : Use} {e : CameraError} :
    use.run c = .error e ↔
      ∃ p fault, use.projection? c = some p ∧ p.fault? = some fault ∧ e = .projection fault := by
  cases hp : use.projection? c with
  | none =>
    obtain ⟨changed, hrun⟩ := run_of_no_projection hp
    simp [hrun]
  | some p =>
    rw [run_of_projection? hp]
    cases hf : p.fault? with
    | none => simp [Camera.setProjection, hf]
    | some fault => simp [Camera.setProjection, hf, eq_comm]

theorem after_of_error {c : Camera} {use : Use} {e : CameraError} (h : use.run c = .error e) :
    use.after c = c := by
  simp only [after, h]

end Use

/-! ## What a camera keeps -/

/-- Each matrix that is kept is the one of the parts as they are. -/
structure Current (c : Camera) : Prop where
  view : ∀ m ∈ c.keptView, m = c.view
  projection : ∀ m ∈ c.keptProjection, m = c.projection.matrix

namespace Current

theorem standard : Current .standard :=
  ⟨nofun, nofun⟩

/-- A camera that was accepted keeps nothing yet. -/
theorem of_checked {plan c : Camera} (h : plan.checked = .ok c) : Current c := by
  unfold Camera.checked at h
  cases hf : plan.projection.fault? with
  | some fault => simp [hf] at h
  | none =>
    simp only [hf] at h
    split at h
    · cases h
    · cases h
      exact ⟨nofun, nofun⟩

variable {c : Camera}

theorem viewMatrix_fst (h : Current c) :
    c.viewMatrix.1 = Geometry.look c.position c.target c.up := by
  cases hv : c.keptView with
  | none => simp only [Camera.viewMatrix, hv, Camera.view]
  | some m =>
    simp only [Camera.viewMatrix, hv]
    exact h.view m hv

theorem projectionMatrix_fst (h : Current c) : c.projectionMatrix.1 = c.projection.matrix := by
  cases hp : c.keptProjection with
  | none => simp only [Camera.projectionMatrix, hp]
  | some m =>
    simp only [Camera.projectionMatrix, hp]
    exact h.projection m hp

theorem viewMatrix_snd (h : Current c) : Current c.viewMatrix.2 := by
  cases hv : c.keptView with
  | some m => simpa only [Camera.viewMatrix, hv] using h
  | none =>
    simp only [Camera.viewMatrix, hv]
    exact ⟨fun m hm => (Option.mem_some_iff.1 hm).symm, h.projection⟩

theorem projectionMatrix_snd (h : Current c) : Current c.projectionMatrix.2 := by
  cases hp : c.keptProjection with
  | some m => simpa only [Camera.projectionMatrix, hp] using h
  | none =>
    simp only [Camera.projectionMatrix, hp]
    exact ⟨h.view, fun m hm => (Option.mem_some_iff.1 hm).symm⟩

/-- Asking for the projection matrix sets nothing that the view depends on. -/
theorem view_projectionMatrix_snd (c : Camera) : c.projectionMatrix.2.view = c.view := by
  cases hp : c.keptProjection with
  | none | some m => simp only [Camera.projectionMatrix, hp, Camera.view]

theorem viewProjection_fst (h : Current c) :
    c.viewProjection.1 =
      Geometry.mul c.projection.matrix (Geometry.look c.position c.target c.up) := by
  have hview : c.projectionMatrix.2.viewMatrix.1 = c.view := by
    rw [h.projectionMatrix_snd.viewMatrix_fst, ← view_projectionMatrix_snd c]
    rfl
  simp only [Camera.viewProjection, h.projectionMatrix_fst, hview]
  rfl

/-- Who forgets the view may set anything that it depends on. -/
theorem forget_view (h : Current c) (position target up : Vec3) :
    Current { c with position := position, target := target, up := up, keptView := none } :=
  ⟨nofun, h.projection⟩

theorem setProjection (h : Current c) {p : Projection} {changed : Camera}
    (ok : c.setProjection p = .ok changed) : Current changed := by
  cases hf : p.fault? with
  | some fault => simp [Camera.setProjection, hf] at ok
  | none =>
    simp only [Camera.setProjection, hf, Except.ok.injEq] at ok
    subst ok
    exact ⟨h.view, nofun⟩

/-- On the target nothing is turned, and what is kept stays. -/
theorem orbit (h : Current c) (yaw pitch : Binary32) : Current (c.orbit yaw pitch) := by
  simp only [Camera.orbit]
  split
  · exact h
  · exact h.forget_view _ _ _

/-- Every use keeps it: each one that sets a part forgets the matrices that depend on it. -/
theorem run (h : Current c) {use : Use} {changed : Camera} (ok : use.run c = .ok changed) :
    Current changed := by
  -- all setters of the projection are one, so that only the other uses are left to look at
  cases hp : use.projection? c with
  | some p =>
    rw [Use.run_of_projection? hp] at ok
    exact h.setProjection ok
  | none =>
    cases use with
    | setPosition v => cases ok; exact h.forget_view v c.target c.up
    | setTarget v => cases ok; exact h.forget_view c.position v c.up
    | setUp v => cases ok; exact h.forget_view c.position c.target v
    | setPerspective | setOrthographic | setProjection => cases hp
    | setAspect aspect =>
      cases hc : c.projection with
      | perspective => simp [Use.projection?, hc] at hp
      | orthographic =>
        simp only [Use.run, Camera.setAspect, hc, Except.ok.injEq] at ok
        exact ok ▸ h
    | translate delta => cases ok; exact h.forget_view _ _ c.up
    | orbit yaw pitch => cases ok; exact h.orbit yaw pitch
    | viewMatrix => cases ok; exact h.viewMatrix_snd
    | projectionMatrix => cases ok; exact h.projectionMatrix_snd
    | viewProjection => cases ok; exact h.projectionMatrix_snd.viewMatrix_snd
    | look => cases ok; exact h

theorem after (use : Use) (c : Camera) (h : Current c) : Current (use.after c) := by
  unfold Use.after
  split
  · exact h.run ‹_›
  · exact h

end Current

end Camera

/-! ## Uses of a transform -/

namespace Transform

inductive Use where
  | setPosition (v : Vec3)
  | setRotation (v : Vec3)
  | setScale (v : Vec3)
  | translate (delta : Vec3)
  | rotate (delta : Vec3)
  | scaleBy (factor : Vec3)
  | matrix
  | forward
  | right
  | up
  /-- Ask for a part. -/
  | look
deriving Repr

variable [Geometry]

/-- The transform after a use; none is ever refused. -/
def Use.after (use : Use) (t : Transform) : Transform :=
  match use with
  | .setPosition v => t.setPosition v
  | .setRotation v => t.setRotation v
  | .setScale v => t.setScale v
  | .translate delta => t.translate delta
  | .rotate delta => t.rotate delta
  | .scaleBy factor => t.scaleBy factor
  | .matrix => t.matrix.2
  | .forward => t.forward.2
  | .right => t.right.2
  | .up => t.up.2
  | .look => t

/-- A matrix that is kept is the one of the parts as they are. -/
def Current (t : Transform) : Prop := ∀ m ∈ t.kept, m = t.computed

namespace Current

theorem new (position rotation scale : Vec3) : Current (.new position rotation scale) :=
  nofun

variable {t : Transform}

theorem matrix_fst (h : Current t) : t.matrix.1 = Geometry.ofParts t.scale t.turn t.position := by
  cases hk : t.kept with
  | none => simp only [Transform.matrix, hk, Transform.computed]
  | some m =>
    simp only [Transform.matrix, hk]
    exact h m hk

theorem matrix_snd (h : Current t) : Current t.matrix.2 := by
  cases hk : t.kept with
  | some m => simpa only [Transform.matrix, hk] using h
  | none =>
    simp only [Transform.matrix, hk]
    exact fun m hm => (Option.mem_some_iff.1 hm).symm

/-- Every use keeps it: the directions are read off the matrix, and each setter forgets it. -/
theorem after (use : Use) (t : Transform) (h : Current t) : Current (use.after t) := by
  cases use with
  | matrix | forward | right | up => exact h.matrix_snd
  | look => exact h
  | setPosition | setRotation | setScale | translate | rotate | scaleBy =>
    exact nofun

end Current

end Transform

/-! ## The matrices that are read -/

/-- However cameras and transforms are used and copied, the matrices they give are those of their
    parts as they are. A use of a camera is refused for the first fault of the projection that it
    asks for and for nothing else, and then all parts and both matrices stay. -/
theorem matrices_current [Geometry] (cameras : List Camera) (transforms : List Transform)
    (made : ∀ c ∈ cameras, c = .standard ∨ ∃ plan : Camera, plan.checked = .ok c)
    (new : ∀ t ∈ transforms, ∃ position rotation scale, t = .new position rotation scale)
    (views : List (Handling Camera.Use)) (moves : List (Handling Transform.Use)) :
    (∀ c ∈ Handling.run Camera.Use.after cameras views,
      c.viewMatrix.1 = Geometry.look c.position c.target c.up ∧
      c.projectionMatrix.1 = c.projection.matrix ∧
      c.viewProjection.1 =
        Geometry.mul c.projection.matrix (Geometry.look c.position c.target c.up) ∧
      ∀ (use : Camera.Use) (e : CameraError),
        (use.run c = .error e ↔
          ∃ p fault, use.projection? c = some p ∧ p.fault? = some fault ∧ e = .projection fault) ∧
        (use.run c = .error e →
          (use.after c).position = c.position ∧ (use.after c).target = c.target ∧
          (use.after c).up = c.up ∧ (use.after c).projection = c.projection ∧
          (use.after c).viewMatrix.1 = c.viewMatrix.1 ∧
          (use.after c).projectionMatrix.1 = c.projectionMatrix.1)) ∧
    ∀ t ∈ Handling.run Transform.Use.after transforms moves,
      t.matrix.1 = Geometry.ofParts t.scale t.turn t.position := by
  have seen : ∀ c ∈ Handling.run Camera.Use.after cameras views, c.Current := by
    apply Handling.run_all Camera.Current.after views
    intro c hc
    rcases made c hc with rfl | ⟨plan, accepted⟩
    · exact .standard
    · exact .of_checked accepted
  have placed : ∀ t ∈ Handling.run Transform.Use.after transforms moves, t.Current := by
    apply Handling.run_all Transform.Current.after moves
    intro t ht
    obtain ⟨position, rotation, scale, rfl⟩ := new t ht
    exact .new position rotation scale
  constructor
  · intro c hc
    have current := seen c hc
    refine ⟨current.viewMatrix_fst, current.projectionMatrix_fst, current.viewProjection_fst, ?_⟩
    intro use e
    constructor
    · exact Camera.Use.run_eq_error_iff
    · intro refused
      simp only [Camera.Use.after_of_error refused, and_self]
  · intro t ht
    exact (placed t ht).matrix_fst

/-- The standard camera is asked for its matrices, copied, moved and refused an aspect of zero; a
    transform is asked for its matrix, copied and turned. -/
theorem matrices_current_copies :
    ∃ c d : Camera, ∃ t : Transform,
      Handling.run Camera.Use.after [.standard]
        [.use 0 .viewProjection, .copy 0, .use 1 (.setPosition .unitY), .use 1 (.setAspect .zero)]
          = [c, d] ∧
      Handling.run Transform.Use.after [.new .zero .zero .ones]
        [.use 0 .matrix, .use 0 (.rotate .unitY), .use 0 .forward] = [t] ∧
      d.keptView = none ∧ d.keptProjection.isSome ∧
      d.viewMatrix.1 = Geometry.look .unitY .zero .unitY ∧
      d.viewProjection.1 = Geometry.mul d.projection.matrix (Geometry.look .unitY .zero .unitY) ∧
      t.matrix.1 = Geometry.ofParts .ones t.turn .zero := by
  obtain ⟨views, moves⟩ := matrices_current [.standard] [.new .zero .zero .ones]
    (by intro c hc; exact .inl (List.mem_singleton.1 hc))
    (by intro t ht; exact ⟨_, _, _, List.mem_singleton.1 ht⟩)
    [.use 0 .viewProjection, .copy 0, .use 1 (.setPosition .unitY), .use 1 (.setAspect .zero)]
    [.use 0 .matrix, .use 0 (.rotate .unitY), .use 0 .forward]
  obtain ⟨view, _, both, _⟩ := views _ (.tail _ (.head _))
  exact ⟨_, _, _, rfl, rfl, rfl, rfl, view, both, moves _ (.head _)⟩

end RenderKit
