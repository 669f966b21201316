import RenderKit.Session.Play

set_option autoImplicit false

/-! # What tasks come to

A task that starts in a state ends with a value, fails, or is cut off, and it leaves a state
behind. `Runs t s Q E` says that `Q` holds of the value and the state if there is a value, and `E`
of the state if the task fails. Nothing is said about tasks that are cut off. There is one rule
for each of the pieces that tasks are built from. -/

namespace RenderKit

/-- Reasons to stop, of which some mean that the task was cut off. -/
class Severs (ε : Type) where
  cut : ε → Prop

instance : Severs Halt := ⟨fun h => h = .abort⟩

instance : Severs Session.Refusal := ⟨fun r => r = .halt .abort⟩

/-! ## Running -/

section Run

variable {ε S α β : Type}

theorem run_bind (t : ExceptT ε (StateM S) α) (f : α → ExceptT ε (StateM S) β) (s : S) :
    (t >>= f).run.run s =
      match t.run.run s with
      | (.ok a, s') => (f a).run.run s'
      | (.error e, s') => (.error e, s') := by
  show (ExceptT.bindCont f (t.run.run s).1).run (t.run.run s).2 = _
  rcases t.run.run s with ⟨_ | _, s'⟩ <;> rfl

theorem run_tryCatch (t : ExceptT ε (StateM S) α) (f : ε → ExceptT ε (StateM S) α) (s : S) :
    (tryCatch t f).run.run s =
      match t.run.run s with
      | (.ok a, s') => (.ok a, s')
      | (.error e, s') => (f e).run.run s' := by
  show StateT.run (match (t.run.run s).1 with | .ok a => _ | .error e => _) (t.run.run s).2 = _
  rcases t.run.run s with ⟨_ | _, s'⟩ <;> rfl

end Run

section Runs

variable {ε S α β : Type} [Severs ε] {s : S} {P Q : α → S → Prop} {R : β → S → Prop}
  {D E : S → Prop}

/-- What a task comes to that starts in a state. -/
def Runs (t : ExceptT ε (StateM S) α) (s : S) (Q : α → S → Prop) (E : S → Prop) : Prop :=
  match t.run.run s with
  | (.ok a, s') => Q a s'
  | (.error e, s') => Severs.cut e ∨ E s'

namespace Runs

theorem pure {a : α} (h : Q a s) : Runs (Pure.pure a : ExceptT ε (StateM S) α) s Q E := h

theorem throw {e : ε} (h : Severs.cut e ∨ E s) :
    Runs (MonadExcept.throw e : ExceptT ε (StateM S) α) s Q E := h

theorem mono {t : ExceptT ε (StateM S) α} (ht : Runs t s P D) (hQ : ∀ a s', P a s' → Q a s')
    (hE : ∀ s', D s' → E s') : Runs t s Q E := by
  unfold Runs at ht ⊢
  split at ht
  · exact hQ _ _ ht
  · exact ht.imp_right (hE _)

theorem imp {t : ExceptT ε (StateM S) α} (ht : Runs t s P E) (hQ : ∀ a s', P a s' → Q a s') :
    Runs t s Q E :=
  ht.mono hQ fun _ h => h

theorem bind {t : ExceptT ε (StateM S) α} {f : α → ExceptT ε (StateM S) β} (ht : Runs t s P E)
    (hf : ∀ a s', P a s' → Runs (f a) s' R E) : Runs (t >>= f) s R E := by
  unfold Runs at ht ⊢
  rw [run_bind]
  split at ht
  · exact hf _ _ ht
  · exact ht

/-- A first part that leaves the state as it is. -/
theorem bind_same {t : ExceptT ε (StateM S) α} {f : α → ExceptT ε (StateM S) β}
    (ht : Runs t s (fun a s' => s' = s ∧ P a s') E) (hf : ∀ a, P a s → Runs (f a) s R E) :
    Runs (t >>= f) s R E := by
  refine bind ht ?_
  rintro a s ⟨rfl, ha⟩
  exact hf a ha

theorem of_ok {t : ExceptT ε (StateM S) α} {a : α} {s' : S} (ht : Runs t s Q E)
    (hrun : t.run.run s = (.ok a, s')) : Q a s' := by
  unfold Runs at ht
  rwa [hrun] at ht

theorem of_error {t : ExceptT ε (StateM S) α} {e : ε} {s' : S} (ht : Runs t s Q E)
    (hrun : t.run.run s = (.error e, s')) (he : ¬Severs.cut e) : E s' := by
  unfold Runs at ht
  rw [hrun] at ht
  exact ht.resolve_left he

theorem both {t : ExceptT ε (StateM S) α} (ht : Runs t s P D) (ht' : Runs t s Q E) :
    Runs t s (fun a s' => P a s' ∧ Q a s') fun s' => D s' ∧ E s' := by
  unfold Runs at ht ht' ⊢
  split at ht
  · exact ⟨ht, by simpa [*] using ht'⟩
  · exact or_and_left.mpr ⟨ht, by simpa [*] using ht'⟩

theorem and {t : ExceptT ε (StateM S) α} (ht : Runs t s P D) (ht' : Runs t s Q E) :
    Runs t s (fun a s' => P a s' ∧ Q a s') E :=
  (ht.both ht').mono (fun _ _ h => h) fun _ h => h.2

/-- A first part that never fails, or fails with more being known. -/
theorem andThen {t : ExceptT ε (StateM S) α} {f : α → ExceptT ε (StateM S) β}
    (ht : Runs t s P D) (hE : ∀ s', D s' → E s')
    (hf : ∀ a s', P a s' → Runs (f a) s' R E) : Runs (t >>= f) s R E :=
  bind (ht.mono (fun _ _ h => h) hE) hf

theorem map {t : ExceptT ε (StateM S) α} {f : α → β} (ht : Runs t s (fun a s' => R (f a) s') E) :
    Runs (f <$> t) s R E := by
  rw [← bind_pure_comp]
  exact bind ht fun _ _ h => h

theorem bind_pure {a : α} {f : α → ExceptT ε (StateM S) β} (h : Runs (f a) s R E) :
    Runs (Pure.pure a >>= f) s R E := h

theorem bind_get {f : S → ExceptT ε (StateM S) β} (h : Runs (f s) s R E) :
    Runs (get >>= f) s R E := h

theorem bind_set {s' : S} {f : PUnit → ExceptT ε (StateM S) β} (h : Runs (f ⟨⟩) s' R E) :
    Runs (set s' >>= f) s R E := h

theorem bind_modify {m : S → S} {f : PUnit → ExceptT ε (StateM S) β}
    (h : Runs (f ⟨⟩) (m s) R E) : Runs (modify m >>= f) s R E := h

theorem modify {m : S → S} {Q : PUnit → S → Prop} (h : Q ⟨⟩ (m s)) :
    Runs (modify m : ExceptT ε (StateM S) PUnit) s Q E := h

end Runs

/-- What holds whatever a task does. -/
theorem runs_anyhow {t : ExceptT ε (StateM S) α} (h : ∀ a s', Q a s') :
    Runs t s Q (fun _ => True) := by
  unfold Runs
  split
  · exact h _ _
  · exact .inr trivial

/-- A first part of which nothing has to be known. -/
theorem Runs.bind_anyhow {t : ExceptT ε (StateM S) α} {f : α → ExceptT ε (StateM S) β}
    (hf : ∀ a s', Runs (f a) s' R (fun _ => True)) : Runs (t >>= f) s R (fun _ => True) :=
  Runs.bind (runs_anyhow fun _ _ => trivial) fun a s' (_ : True) => hf a s'

end Runs

section Tasks

variable {S α β : Type} {s : S} {P : α → S → Prop} {R : β → S → Prop} {D E : S → Prop}

theorem runs_raise {e : Error} {Q : α → S → Prop} (h : E s) :
    Runs (raise e : TaskOn S α) s Q E := .inr h

theorem runs_abort {Q : α → S → Prop} : Runs (abort : TaskOn S α) s Q E := .inl rfl

theorem Runs.bind_raise {e : Error} {f : α → TaskOn S β} (h : E s) :
    Runs (raise e >>= f) s R E := .inr h

/-- An outcome that is given back ends the task only if it is an error. -/
theorem Runs.bind_settle {r : Except Error α} {f : α → TaskOn S β}
    (hok : ∀ a, r = .ok a → Runs (f a) s R E) (herror : ∀ e, r = .error e → E s) :
    Runs (settle r >>= f) s R E := by
  rcases r with e | a
  · exact bind_raise (herror e rfl)
  · exact hok a rfl

/-- What follows a failure goes on where the failed task stopped. -/
theorem runs_attempt {t : TaskOn S α} (ht : Runs t s P D) :
    Runs (attempt t) s
      (fun outcome s' =>
        match outcome with
        | .ok a => P a s'
        | .error _ => D s') E := by
  unfold Runs at ht ⊢
  unfold attempt
  rw [run_tryCatch, run_bind]
  revert ht
  rcases t.run.run s with ⟨(_ | _) | _, s'⟩ <;> intro ht
  · exact ht.resolve_left (by intro h; cases h)
  · exact .inl rfl
  · exact ht

theorem run_attempt {t : TaskOn S α} {s' : S} {a : α} (h : t.run.run s = (.ok a, s')) :
    (attempt t).run.run s = (.ok (.ok a), s') := by
  unfold attempt
  rw [run_tryCatch, run_bind, h]
  rfl

theorem run_attempt_error {t : TaskOn S α} {s' : S} {e : Error}
    (h : t.run.run s = (.error (.error e), s')) :
    (attempt t).run.run s = (.ok (.error e), s') := by
  unfold attempt
  rw [run_tryCatch, run_bind, h]
  rfl

theorem run_unwinding (t : TaskOn S α) (change : S → S) (s : S) :
    (unwinding t change).run.run s =
      match (t.run.run s).1 with
      | .error .abort => (.error .abort, change (t.run.run s).2)
      | outcome => (outcome, (t.run.run s).2) := by
  unfold unwinding
  rw [run_tryCatch]
  rcases t.run.run s with ⟨(_ | _) | _, s'⟩ <;> rfl

/-- The change on the way out is only made where nothing is said of the task. -/
theorem Runs.unwinding {t : TaskOn S α} {change : S → S} (ht : Runs t s P E) :
    Runs (unwinding t change) s P E := by
  unfold Runs at ht ⊢
  rw [run_unwinding]
  revert ht
  rcases t.run.run s with ⟨(_ | _) | _, s'⟩ <;> intro ht
  · exact ht
  · exact .inl rfl
  · exact ht

variable [HasJournal S]

theorem Runs.bind_note {severity : Severity} {source message : String} {f : Unit → TaskOn S β}
    (h : Runs (f ()) (HasJournal.note ⟨severity, source, message⟩ s) R E) :
    Runs (note severity source message >>= f) s R E := h

theorem runs_note {severity : Severity} {source message : String} {Q : Unit → S → Prop}
    (h : Q () (HasJournal.note ⟨severity, source, message⟩ s)) :
    Runs (note severity source message : TaskOn S Unit) s Q E := h

variable {c : Type} [Cause c] {cause : c}

theorem runs_reject {Q : α → S → Prop}
    (h : E (HasJournal.note ⟨.error, Cause.source cause, Cause.message cause⟩ s)) :
    Runs (reject cause : TaskOn S α) s Q E := .inr h

theorem Runs.bind_reject {f : α → TaskOn S β}
    (h : E (HasJournal.note ⟨.error, Cause.source cause, Cause.message cause⟩ s)) :
    Runs (reject cause >>= f) s R E := .inr h

/-- A task that goes on unless something is wrong. -/
theorem Runs.reject_if {wrong : Prop} [Decidable wrong] {f : α → TaskOn S β} {t : TaskOn S β}
    (h : E (HasJournal.note ⟨.error, Cause.source cause, Cause.message cause⟩ s))
    (ht : ¬wrong → Runs t s R E) :
    Runs (if wrong then reject cause >>= f else t) s R E := by
  split
  · exact bind_reject h
  · exact ht ‹_›

theorem runs_accept {outcome : Except c α} :
    Runs (accept outcome : TaskOn S α) s (fun a s' => outcome = .ok a ∧ s' = s)
      (fun _ => True) := by
  cases outcome with
  | error cause => exact runs_reject trivial
  | ok a => exact Runs.pure ⟨rfl, rfl⟩

end Tasks

end RenderKit
