import RenderKit.Proofs.Task
import RenderKit.Shader.Program

set_option autoImplicit false

/-! # Foretold tasks

What comes of a text, a file or some bytecode does not depend on the world. A task is foretold by an
outcome if that is what it comes to in every state, and if it changes nothing but the journal. -/

namespace RenderKit

/-- A task comes to what is foretold, and fails if nothing is. What entries of the journal do not
    touch is not touched by the task. -/
def Foretold {S α : Type} [HasJournal S] (t : TaskOn S α) (outcome : Option α) : Prop :=
  ∀ P : S → Prop, (∀ e s, P s → P (HasJournal.note e s)) → ∀ s, P s →
    Runs t s (fun a s' => outcome = some a ∧ P s') (fun s' => outcome = none ∧ P s')

section Outcomes

variable {ε α β : Type} {x : Except ε α}

theorem toOption_eq_some_iff {a : α} : x.toOption = some a ↔ x = .ok a := by
  rcases x with e | b
  · simp [Except.toOption]
  · simp [Except.toOption]

theorem exists_ok_of_isSome_toOption (h : x.toOption.isSome) : ∃ a, x = .ok a := by
  obtain ⟨a, ha⟩ := Option.isSome_iff_exists.mp h
  exact ⟨a, toOption_eq_some_iff.mp ha⟩

theorem exists_ok_of_map_toOption {f : α → β} {b : β} (h : x.toOption.map f = some b) :
    ∃ a, x = .ok a ∧ f a = b := by
  obtain ⟨a, ha, hb⟩ := Option.map_eq_some_iff.mp h
  exact ⟨a, toOption_eq_some_iff.mp ha, hb⟩

end Outcomes

section Rules

variable {S α β c : Type} [HasJournal S] [Cause c]

theorem foretold_pure (a : α) : Foretold (pure a : TaskOn S α) (some a) :=
  fun _ _ _ hs => Runs.pure ⟨rfl, hs⟩

theorem foretold_raise (e : Error) : Foretold (raise e : TaskOn S α) none :=
  fun _ _ _ hs => runs_raise ⟨rfl, hs⟩

theorem foretold_reject (cause : c) : Foretold (reject cause : TaskOn S α) none :=
  fun _ hP _ hs => runs_reject ⟨rfl, hP _ _ hs⟩

theorem Foretold.bind_reject {cause : c} {f : α → TaskOn S β} :
    Foretold (RenderKit.reject cause >>= f) none :=
  fun _ hP _ hs => Runs.bind_reject ⟨rfl, hP _ _ hs⟩

theorem foretold_accept (r : Except c α) : Foretold (accept r : TaskOn S α) r.toOption := by
  rcases r with cause | a
  · exact foretold_reject cause
  · exact foretold_pure a

theorem Foretold.note {severity : Severity} {source message : String} {t : TaskOn S α}
    {outcome : Option α} (ht : Foretold t outcome) :
    Foretold (RenderKit.note severity source message >>= fun _ => t) outcome :=
  fun P hP _ hs => Runs.bind_note (ht P hP _ (hP _ _ hs))

theorem Foretold.bind {t : TaskOn S α} {f : α → TaskOn S β} {outcome : Option α}
    {g : α → Option β} (ht : Foretold t outcome)
    (hf : ∀ a, outcome = some a → Foretold (f a) (g a)) : Foretold (t >>= f) (outcome.bind g) := by
  intro P hP s hs
  refine Runs.andThen (ht P hP s hs) ?_ ?_
  · rintro s' ⟨rfl, hs'⟩
    exact ⟨rfl, hs'⟩
  · rintro a s' ⟨rfl, hs'⟩
    exact hf a rfl P hP s' hs'

theorem Foretold.map {t : TaskOn S α} {f : α → β} {outcome : Option α} (ht : Foretold t outcome) :
    Foretold (f <$> t) (outcome.map f) := by
  rw [← bind_pure_comp, Option.map_eq_bind]
  exact ht.bind fun a _ => foretold_pure (f a)

end Rules

/-! ## What is foretold -/

/-- The bytecode that a source text is compiled to. -/
def bytecodeOf? [Toolchain] (source : String) (stage : Stage) (o : CompileOptions) : Option
    (List UInt32) := do
  let c ← (checkSource source stage o).toOption
  if !c.unused.isEmpty && o.warningsAsErrors then none
  else (c.bytecode source stage o).toOption

/-- The stages that an input stands for. -/
def StageInput.stages? (files : Files) : StageInput → Option (List (Stage × StageSource))
  | .source stage text => some [(stage, .text text)]
  | .bytecode stage words => some [(stage, .words words)]
  | .file stage path => do return [(stage, .text (← (files.readText path).toOption))]
  | .sections text => do
      let sections ← (Section.read text.toList none).toOption.map Section.Reading.sections
      return sections.map fun s => (s.stage, .text s.source)

/-- The stages that some inputs stand for, in their order. -/
def expansion? (files : Files) : List StageInput → Option (List (Stage × StageSource))
  | [] => some []
  | input :: rest => do return (← input.stages? files) ++ (← expansion? files rest)

/-- The bytecode of a stage. -/
def StageSource.words? [Toolchain] (options : CompileOptions) (stage : Stage) :
    StageSource → Option (List UInt32)
  | .text source => bytecodeOf? source stage options
  | .words bytecode => some bytecode

section Shaders

variable {S : Type} [HasJournal S]

theorem foretold_readShaderSource (files : Files) (path : String) :
    Foretold (readShaderSource files path : TaskOn S String) (files.readText path).toOption := by
  unfold readShaderSource
  split
  · rename_i text htext
    rw [htext]
    exact foretold_pure text
  · rename_i fault hfault
    rw [hfault]
    exact (foretold_raise _).note

theorem Section.foretold_parse (text : String) (name : Option String) :
    Foretold (Section.parse text name : TaskOn S (List Section))
      ((Section.read text.toList name).toOption.map Reading.sections) := by
  rw [Option.map_eq_bind]
  exact (foretold_accept _).bind fun r _ => (foretold_pure r.sections).note

theorem foretold_compile [Toolchain] (source : String) (stage : Stage) (o : CompileOptions) :
    Foretold (compile source stage o : TaskOn S (List UInt32)) (bytecodeOf? source stage o) := by
  refine (foretold_accept _).bind fun c _ => ?_
  cases hunused : c.unused.isEmpty
  · cases hstrict : o.warningsAsErrors
    · exact (foretold_accept _).note
    · exact .bind_reject
  · exact foretold_accept _

theorem foretold_transpile [Toolchain] (words : List UInt32) (stage : Stage) :
    Foretold (transpile words stage : TaskOn S NativeShader)
      (nativeShader words stage).toOption := foretold_accept _

theorem foretold_reflect [Toolchain] (words : List UInt32) (stage : Stage) :
    Foretold (reflect words stage : TaskOn S Reflection)
      (inspectBytecode words stage).toOption := by
  rw [← Option.bind_fun_some (inspectBytecode words stage).toOption]
  exact (foretold_accept _).bind fun r _ => (foretold_pure r).note

theorem Program.foretold_expand {σ : Type} (files : Files) (inputs : List StageInput) :
    Foretold (Program.expand files inputs : Render σ (List (Stage × StageSource)))
      (expansion? files inputs) := by
  induction inputs with
  | nil => exact foretold_pure []
  | cons input rest ih =>
      have hrest : ∀ first : List (Stage × StageSource), Foretold
          (do return first ++ (← Program.expand files rest) :
            Render σ (List (Stage × StageSource)))
          (do return first ++ (← expansion? files rest)) :=
        fun first => ih.bind fun _ _ => foretold_pure _
      unfold Program.expand expansion?
      cases input with
      | source stage text => exact hrest _
      | bytecode stage words => exact hrest _
      | file stage path =>
          show Foretold _ (((files.readText path).toOption.bind _).bind _)
          rw [Option.bind_assoc]
          exact (foretold_readShaderSource files path).bind fun text _ => hrest _
      | sections text =>
          show Foretold _ ((((Section.read text.toList none).toOption.map _).bind _).bind _)
          rw [Option.bind_assoc]
          exact (Section.foretold_parse text none).bind fun sections _ => hrest _

end Shaders

end RenderKit
