import RenderKit.Proofs.Foretold

set_option autoImplicit false

/-! # Quiet tasks

A task is quiet if it changes nothing but the journal. Everything that is read, compiled or checked
before the device hears of it is quiet. -/

namespace RenderKit

/-- What entries of the journal do not touch is not touched by the task. -/
def Quiet {S α : Type} [HasJournal S] (t : TaskOn S α) : Prop :=
  ∀ P : S → Prop, (∀ e s, P s → P (HasJournal.note e s)) → ∀ s, P s → Runs t s (fun _ => P) P

section Rules

variable {S α β c : Type} [HasJournal S] [Cause c]

theorem quiet_pure (a : α) : Quiet (pure a : TaskOn S α) := fun _ _ _ hs => Runs.pure hs

theorem quiet_raise (e : Error) : Quiet (raise e : TaskOn S α) := fun _ _ _ hs => runs_raise hs

theorem quiet_abort : Quiet (abort : TaskOn S α) := fun _ _ _ _ => runs_abort

theorem quiet_note (severity : Severity) (source message : String) :
    Quiet (note severity source message : TaskOn S Unit) :=
  fun _ hP _ hs => runs_note (hP _ _ hs)

theorem quiet_reject (cause : c) : Quiet (reject cause : TaskOn S α) :=
  fun _ hP _ hs => runs_reject (hP _ _ hs)

theorem quiet_accept (r : Except c α) : Quiet (accept r : TaskOn S α) := by
  rcases r with cause | a
  · exact quiet_reject cause
  · exact quiet_pure a

theorem Quiet.bind {t : TaskOn S α} {f : α → TaskOn S β} (ht : Quiet t) (hf : ∀ a, Quiet (f a)) :
    Quiet (t >>= f) :=
  fun P hP s hs => Runs.bind (ht P hP s hs) fun a s' hs' => hf a P hP s' hs'

theorem Quiet.map {t : TaskOn S α} {f : α → β} (ht : Quiet t) : Quiet (f <$> t) := by
  rw [← bind_pure_comp]
  exact ht.bind fun a => quiet_pure (f a)

end Rules

/-- What is foretold is quiet. -/
theorem Foretold.quiet {S α : Type} [HasJournal S] {t : TaskOn S α} {outcome : Option α}
    (ht : Foretold t outcome) : Quiet t :=
  fun P hP s hs => (ht P hP s hs).mono (fun _ _ h => h.2) fun _ h => h.2

section Shaders

variable {S : Type} [HasJournal S]

theorem quiet_compile [Toolchain] (source : String) (stage : Stage) (o : CompileOptions) :
    Quiet (compile source stage o : TaskOn S (List UInt32)) :=
  (foretold_compile source stage o).quiet

theorem quiet_transpile [Toolchain] (words : List UInt32) (stage : Stage) :
    Quiet (transpile words stage : TaskOn S NativeShader) :=
  (foretold_transpile words stage).quiet

theorem quiet_reflect [Toolchain] (words : List UInt32) (stage : Stage) :
    Quiet (reflect words stage : TaskOn S Reflection) :=
  (foretold_reflect words stage).quiet

theorem VertexLayout.quiet_make (attributes : List VertexAttribute) (stride? : Option UInt32) :
    Quiet (VertexLayout.make attributes stride? : TaskOn S VertexLayout) := by
  unfold VertexLayout.make
  split
  · exact quiet_reject _
  · split
    · dsimp only
      split
      · exact quiet_pure _
      · split
        · exact quiet_reject _
        · exact quiet_pure _
    · exact quiet_abort

theorem Program.quiet_expand {σ : Type} (files : Files) (inputs : List StageInput) :
    Quiet (Program.expand files inputs : Render σ (List (Stage × StageSource))) :=
  (foretold_expand files inputs).quiet

theorem quiet_loadImage [ImageCodec] {σ : Type} (files : Files) (path : String) :
    Quiet (loadImage files path : Render σ (UInt32 × UInt32 × TextureFormat × List UInt8)) := by
  unfold loadImage
  split
  · exact (quiet_note _ _ _).bind fun _ => quiet_raise _
  · split
    · exact quiet_reject _
    · split
      · exact quiet_reject _
      · exact quiet_pure _

end Shaders

end RenderKit
