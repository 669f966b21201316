import RenderKit.Context
import RenderKit.Device.Scripted
import RenderKit.Proofs.Task

set_option autoImplicit false

/-! # The one context

An application has one slot for a render context. Creating a context takes the slot, releasing it gives
the slot back, and nothing else does either: a request for a context that is refused, for whatever
reason, leaves the slot and the context in it alone. So whoever creates and releases contexts, in
whatever order and with whatever devices, has at most one at a time. -/

namespace RenderKit

/-! ## Creating and releasing -/

section Creating

variable {σ : Type} [GraphicsDevice σ]

namespace ContextConfig

/-- Nothing keeps a context from being created exactly if OpenGL is asked for and there, the number
    of samples is one that can be had, and the slot is free. -/
theorem fault?_eq_none_iff (c : ContextConfig) (device : Api) (active : Bool) :
    c.fault? device active = none ↔
      c.api = .openGL ∧ device = .openGL ∧ c.samples ∈ sampleCounts ∧ active = false := by
  by_cases hapi : c.api = .openGL
  · by_cases hdevice : device = .openGL
    · by_cases hsamples : c.samples ∈ sampleCounts
      · cases active <;> simp [fault?, hapi, hdevice, hsamples]
      · simp [fault?, hapi, hdevice, hsamples]
    · simp [fault?, hapi, hdevice]
  · simp [fault?, hapi]

end ContextConfig

namespace RenderContext

theorem run_create_of_fault {config : ContextConfig} {w : World σ} {cause : ContextError}
    (h : config.fault? (GraphicsDevice.api w.device) w.contextActive = some cause) :
    (create config).run.run w =
      (.error (.error (Cause.error cause)),
        HasJournal.note ⟨.error, Cause.source cause, Cause.message cause⟩ w) := by
  have hget : (get : Render σ (World σ)).run.run w = (.ok w, w) := rfl
  unfold create
  rw [run_bind, hget]
  simp only [h]
  rfl

theorem run_create_of_no_fault {config : ContextConfig} {w : World σ}
    (h : config.fault? (GraphicsDevice.api w.device) w.contextActive = none) :
    ∃ entry, (create config).run.run w =
      (.ok ⟨config⟩, HasJournal.note entry { w with contextActive := true }) := by
  have hget : (get : Render σ (World σ)).run.run w = (.ok w, w) := rfl
  unfold create
  rw [run_bind, hget]
  simp only [h]
  exact ⟨_, rfl⟩

end RenderContext

end Creating

/-! ## The application -/

/-- The slot of an application, and the contexts that were created and not released yet. -/
structure Application where
  active : Bool
  contexts : List RenderContext
deriving DecidableEq, Repr

namespace Application

/-- No context was created yet. -/
def start : Application := ⟨false, []⟩

section Steps

variable {σ : Type}

/-- A world in which the slot is the one of the application. -/
def inside (a : Application) (w : World σ) : World σ := { w with contextActive := a.active }

/-- Ask for a context in some world. The application has it if it was created. -/
def create [GraphicsDevice σ] (a : Application) (w : World σ) (config : ContextConfig) :
    Except Halt RenderContext × Application :=
  match (RenderContext.create config).run.run (a.inside w) with
  | (.ok c, w') => (.ok c, ⟨w'.contextActive, a.contexts ++ [c]⟩)
  | (.error e, w') => (.error e, ⟨w'.contextActive, a.contexts⟩)

/-- Release one of the contexts in some world. -/
def discard (a : Application) (w : World σ) (c : RenderContext) : Application :=
  ⟨((RenderContext.discard c).run.run (a.inside w)).2.contextActive, a.contexts.erase c⟩

end Steps

/-- What an application comes to by creating contexts, or failing to, and releasing those it has.
    Each step may be in a world of its own, with a device of its own. -/
inductive Reached : Application → Prop where
  | start : Reached .start
  | create {a : Application} {σ : Type} [GraphicsDevice σ] (w : World σ) (config : ContextConfig) :
      Reached a → Reached (a.create w config).2
  | discard {a : Application} {σ : Type} (w : World σ) {c : RenderContext} :
      Reached a → c ∈ a.contexts → Reached (a.discard w c)

/-- The slot is free and there is no context, or it is taken by the only one. -/
inductive Exclusive : Application → Prop where
  | free : Exclusive ⟨false, []⟩
  | taken (c : RenderContext) : Exclusive ⟨true, [c]⟩

section Creating

variable {σ : Type} [GraphicsDevice σ] {a : Application} {w : World σ} {config : ContextConfig}

/-- Nothing keeps the application from creating a context. -/
abbrev Grants (a : Application) (w : World σ) (config : ContextConfig) : Prop :=
  config.fault? (GraphicsDevice.api w.device) a.active = none

theorem create_of_grants (h : a.Grants w config) :
    a.create w config = (.ok ⟨config⟩, ⟨true, a.contexts ++ [⟨config⟩]⟩) := by
  have hrun : ∃ entry, (RenderContext.create config).run.run (a.inside w) =
      (.ok ⟨config⟩, HasJournal.note entry { a.inside w with contextActive := true }) :=
    RenderContext.run_create_of_no_fault h
  obtain ⟨entry, hrun⟩ := hrun
  simp only [create, hrun]
  rfl

/-- A request that is not granted fails for an invalid state, and the application stays as it is. -/
theorem create_of_not_grants (h : ¬a.Grants w config) :
    ∃ e : Error, e.kind = .invalidState ∧ a.create w config = (.error (.error e), a) := by
  obtain ⟨cause, hcause⟩ := Option.ne_none_iff_exists'.1 h
  have hrun : (RenderContext.create config).run.run (a.inside w) = _ :=
    RenderContext.run_create_of_fault hcause
  refine ⟨Cause.error cause, Error.kind_of _ _, ?_⟩
  simp only [create, hrun]
  rfl

theorem exists_create_eq_ok_iff : (∃ c, (a.create w config).1 = .ok c) ↔ a.Grants w config := by
  constructor
  · intro ⟨c, hok⟩
    apply Decidable.byContradiction
    intro h
    obtain ⟨e, _, hcreate⟩ := create_of_not_grants h
    simp [hcreate] at hok
  · intro h
    exact ⟨⟨config⟩, by rw [create_of_grants h]⟩

end Creating

namespace Exclusive

variable {σ : Type} {a : Application}

theorem length_le (h : Exclusive a) : a.contexts.length ≤ 1 := by
  cases h <;> simp

theorem active_iff (h : Exclusive a) : a.active = true ↔ ∃ c, a.contexts = [c] := by
  cases h <;> simp

theorem inactive_iff (h : Exclusive a) : a.active = false ↔ a.contexts = [] := by
  cases h <;> simp

theorem create [GraphicsDevice σ] (h : Exclusive a) (w : World σ) (config : ContextConfig) :
    Exclusive (a.create w config).2 := by
  by_cases granted : a.Grants w config
  · rw [create_of_grants granted]
    cases h with
    | free => exact .taken ⟨config⟩
    | taken c =>
      -- nothing is granted while the slot is taken
      have impossible := ((config.fault?_eq_none_iff _ _).1 granted).2.2.2
      cases impossible
  · obtain ⟨e, _, hcreate⟩ := create_of_not_grants granted
    rwa [hcreate]

/-- The context that is released is the only one. -/
theorem discard_eq (h : Exclusive a) {c : RenderContext} (mem : c ∈ a.contexts) (w : World σ) :
    a.discard w c = .start := by
  cases h with
  | free => cases mem
  | taken d =>
    obtain rfl := List.mem_singleton.1 mem
    simp only [Application.discard, List.erase_cons_head]
    rfl

end Exclusive

theorem Reached.exclusive {a : Application} (h : Reached a) : Exclusive a := by
  induction h with
  | start => exact .free
  | create w config _ ih => exact ih.create w config
  | discard w _ mem ih =>
    rw [ih.discard_eq mem w]
    exact .free

/-! ## At most one -/

/-- At every moment there is at most one context, and the slot is taken exactly if there is one. A
    context is created exactly if OpenGL is asked for and there, the number of samples is one that
    can be had, and there is no context. A failure changes nothing, and a release gives back the
    start. -/
theorem one_context {a : Application} (h : Reached a) :
    a.contexts.length ≤ 1 ∧ (a.active = true ↔ ∃ c, a.contexts = [c]) ∧
    (∀ {σ : Type} [GraphicsDevice σ] (w : World σ) (config : ContextConfig),
      ((∃ c, (a.create w config).1 = .ok c) ↔
        config.api = .openGL ∧ GraphicsDevice.api w.device = .openGL ∧
          config.samples ∈ [0, 1, 2, 4, 8, 16] ∧ a.contexts = []) ∧
      (∀ c, (a.create w config).1 = .ok c →
        c = ⟨config⟩ ∧ (a.create w config).2 = ⟨true, [c]⟩) ∧
      ∀ e, (a.create w config).1 = .error e →
        (∃ error : Error, e = .error error ∧ error.kind = .invalidState) ∧
          (a.create w config).2 = a) ∧
    ∀ {σ : Type} (w : World σ), ∀ c ∈ a.contexts, a.discard w c = .start := by
  have exclusive := h.exclusive
  refine ⟨exclusive.length_le, exclusive.active_iff, ?_, ?_⟩
  · intro σ _ w config
    have granted_iff : a.Grants w config ↔ config.api = .openGL ∧
        GraphicsDevice.api w.device = .openGL ∧ config.samples ∈ ContextConfig.sampleCounts ∧
          a.contexts = [] := by
      rw [Grants, config.fault?_eq_none_iff, exclusive.inactive_iff]
    refine ⟨exists_create_eq_ok_iff.trans granted_iff, ?_, ?_⟩
    · intro c hok
      have granted := exists_create_eq_ok_iff.1 ⟨c, hok⟩
      have empty := (granted_iff.1 granted).2.2.2
      rw [create_of_grants granted] at hok ⊢
      cases hok
      exact ⟨rfl, by rw [empty]; rfl⟩
    · intro e herror
      by_cases granted : a.Grants w config
      · rw [create_of_grants granted] at herror
        cases herror
      · obtain ⟨error, invalid, hcreate⟩ := create_of_not_grants granted
        rw [hcreate] at herror ⊢
        cases herror
        exact ⟨⟨error, rfl, invalid⟩, rfl⟩
  · intro σ w c mem
    exact exclusive.discard_eq mem w

/-- A device for one interface. -/
def scriptedWorld (api : Api) : World ScriptedDevice :=
  .start (.new api (ScriptedDevice.capabilitiesOf 1024 4) .empty)

/-- There is no context for a device of another interface; then there is one, and while it is there
    no other one is created; when it is released the slot is free. -/
theorem one_context_refused :
    ∃ c, ((start.create (scriptedWorld .vulkan) (.new .openGL)).2.create
        (scriptedWorld .openGL) (.new .openGL)).2 = ⟨true, [c]⟩ ∧
      Reached ⟨true, [c]⟩ ∧
      (∀ config, ¬∃ d, (Application.create ⟨true, [c]⟩ (scriptedWorld .openGL) config).1 = .ok d) ∧
      Application.discard ⟨true, [c]⟩ (scriptedWorld .vulkan) c = start := by
  have reached := (Reached.start.create (scriptedWorld .vulkan) (.new .openGL)).create
    (scriptedWorld .openGL) (.new .openGL)
  obtain ⟨_, _, created, released⟩ := one_context reached
  refine ⟨⟨.new .openGL⟩, rfl, reached, ?_, released (scriptedWorld .vulkan) _ (.head _)⟩
  intro config ⟨d, hok⟩
  obtain ⟨_, _, _, empty⟩ := (created (scriptedWorld .openGL) config).1.1 ⟨d, hok⟩
  cases empty

end Application

end RenderKit
