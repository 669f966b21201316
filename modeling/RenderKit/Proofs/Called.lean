import RenderKit.Proofs.Foretold
import RenderKit.Proofs.Ledger.Books

set_option autoImplicit false

/-! # Nothing but calls

Some tasks change nothing about a world but its device and its journal. What they did is in the calls
they made. -/

namespace RenderKit

variable {σ : Type} {w w' w'' : World σ} {calls more : List Call}

/-- A world is what another one comes to by some calls and by entries of the journal. -/
structure World.Called (w : World σ) (calls : List Call) (w' : World σ) : Prop where
  history : w'.history = w.history ++ calls
  others : { w' with device := w.device, calls := w.calls, journal := w.journal } = w

namespace World.Called

theorem refl (w : World σ) : w.Called [] w := ⟨(List.append_nil _).symm, rfl⟩

theorem trans (h : w.Called calls w') (h' : w'.Called more w'') :
    w.Called (calls ++ more) w'' := by
  refine ⟨?_, ?_⟩
  · rw [h'.history, h.history, List.append_assoc]
  · have hothers := congrArg (fun v : World σ =>
      { v with device := w.device, calls := w.calls, journal := w.journal }) h'.others
    exact hothers.trans h.others

theorem noted (h : w.Called calls w') (e : Entry) : w.Called calls (HasJournal.note e w') :=
  ⟨h.history, h.others⟩

theorem pipelines (h : w.Called calls w') : w'.pipelines = w.pipelines := by
  have hothers := congrArg World.pipelines h.others
  exact hothers

theorem programs (h : w.Called calls w') : w'.programs = w.programs := by
  have hothers := congrArg World.programs h.others
  exact hothers

theorem asked [GraphicsDevice σ] {r : Request} {reply : r.Reply}
    (hreply : (GraphicsDevice.perform r w.device).reply = some reply) :
    w.Called [⟨r, some reply⟩] (w.asked r) :=
  ⟨history_asked hreply, rfl⟩

end World.Called

section Tasks

variable {E : World σ → Prop}

theorem World.Called.runs_ask [GraphicsDevice σ] {r : Request} (h : w.Called calls w') :
    Runs (ask r) w' (fun reply w'' => w.Called (calls ++ [⟨r, some reply⟩]) w'') E := by
  refine RenderKit.runs_ask.imp ?_
  rintro reply _ ⟨rfl, hreply⟩
  exact h.trans (.asked hreply)

/-- Foretold tasks make no calls. -/
theorem Foretold.called {α : Type} {t : Render σ α} {outcome : Option α} (ht : Foretold t outcome)
    (h : w.Called calls w') :
    Runs t w' (fun a w'' => outcome = some a ∧ w.Called calls w'')
      (fun w'' => outcome = none ∧ w.Called calls w'') :=
  ht (w.Called calls) (fun e _ h => h.noted e) w' h

end Tasks

end RenderKit
