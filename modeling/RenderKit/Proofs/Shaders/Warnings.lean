import Mathlib.Data.List.Forall2
import Mathlib.Data.List.Sort
import RenderKit.Proofs.Task
import RenderKit.Shader.Compile

set_option autoImplicit false

/-! # Warnings as errors

What a compilation comes to, and what it adds to the journal, does not depend on the state it
starts in. If warnings are errors, only one thing about it is different: where it would report
unused resources and go on, it ends with an error about the same resources. -/

namespace RenderKit

variable [Toolchain]

/-! ## Unused resources -/

namespace CheckedSource

variable {c : CheckedSource} {names : List String}

/-- A global is a resource that the entry point never goes to. -/
def Unused (c : CheckedSource) (place : Nat) (g : Global) : Prop :=
  (Toolchain.view c.shader).globals[place]? = some g ∧ g.space ≠ .hidden ∧ g.space ≠ .workGroup ∧
    Toolchain.uses c.analysis c.entry place = false

/-- The names of all unused resources, in the order of their declaration. A resource without a name
    goes by its place. -/
def NamesUnused (c : CheckedSource) (names : List String) : Prop :=
  ∃ places : List Nat, places.Pairwise (· < ·) ∧
    (∀ place, place ∈ places ↔ ∃ g, c.Unused place g) ∧
    List.Forall₂ (fun place name =>
      ∃ g, c.Unused place g ∧ name = g.name.getD ("global" ++ toString place)) places names

theorem namesUnused_unused (c : CheckedSource) : c.NamesUnused c.unused := by
  let unused := (Toolchain.view c.shader).globals.zipIdx.filter fun g =>
    g.1.space.isResource && !Toolchain.uses c.analysis c.entry g.2
  have hmem : ∀ g place, (g, place) ∈ unused ↔ c.Unused place g := by
    intro g place
    simp [unused, Unused, Space.isResource, List.mem_zipIdx_iff_getElem?, and_assoc]
  refine ⟨unused.map (·.2), ?_, fun place => ?_, ?_⟩
  · have hsorted : ((Toolchain.view c.shader).globals.zipIdx.map (·.2)).Pairwise (· < ·) := by
      rw [List.zipIdx_map_snd]
      exact List.pairwise_lt_range'
    exact hsorted.sublist (List.filter_sublist.map _)
  · simp [hmem]
  · rw [CheckedSource.unused, List.forall₂_map_left_iff, List.forall₂_map_right_iff,
      List.forall₂_same]
    rintro ⟨g, place⟩ hg
    exact ⟨g, (hmem g place).mp hg, rfl⟩

theorem NamesUnused.unique {names' : List String} (h : c.NamesUnused names)
    (h' : c.NamesUnused names') : names = names' := by
  obtain ⟨places, hsorted, hplaces, hnames⟩ := h
  obtain ⟨places', hsorted', hplaces', hnames'⟩ := h'
  obtain rfl : places = places' :=
    hsorted.eq_of_mem_iff hsorted' fun place => (hplaces place).trans (hplaces' place).symm
  clear hsorted hsorted' hplaces hplaces'
  induction hnames generalizing names' with
  | nil => cases hnames'; rfl
  | cons hname _ ih =>
    cases hnames' with
    | cons hname' hrest' =>
      obtain ⟨g, ⟨hg, -⟩, rfl⟩ := hname
      obtain ⟨g', ⟨hg', -⟩, rfl⟩ := hname'
      obtain rfl : g = g' := by simpa [hg] using hg'
      rw [ih hrest']

end CheckedSource

/-! ## Compilations -/

/-- An outcome, and the entries that are added to the journal on the way to it. -/
structure Compilation where
  outcome : Except Halt (List UInt32)
  entries : List Entry

/-- The warning about some unused resources. -/
def unusedWarning (stage : Stage) (names : List String) : Entry :=
  ⟨.warn, shaderSource, CompileError.unusedText stage names⟩

namespace Compilation

variable {S : Type} [HasJournal S] {t : TaskOn S (List UInt32)} {c : Compilation} {entry : Entry}

/-- In every state a task comes to this outcome and adds these entries. -/
def Describes (c : Compilation) (t : TaskOn S (List UInt32)) : Prop :=
  ∀ s, t.run.run s = (c.outcome, c.entries.foldl (fun s entry => HasJournal.note entry s) s)

/-- A failure is noted first. -/
def failed (e : CompileError) : Compilation :=
  ⟨.error (.error (Cause.error e)), [⟨.error, shaderSource, e.message⟩]⟩

def ended : Except CompileError (List UInt32) → Compilation
  | .ok words => ⟨.ok words, []⟩
  | .error e => failed e

/-- A compilation in front of which there is one more entry. -/
def after (entry : Entry) (c : Compilation) : Compilation := ⟨c.outcome, entry :: c.entries⟩

omit [Toolchain] in
theorem describes_reject (e : CompileError) :
    (failed e).Describes (reject e : TaskOn S (List UInt32)) := fun _ => rfl

omit [Toolchain] in
theorem describes_accept (r : Except CompileError (List UInt32)) :
    (ended r).Describes (accept r : TaskOn S (List UInt32)) := by
  cases r with
  | error e => exact describes_reject e
  | ok words => exact fun _ => rfl

omit [Toolchain] in
theorem Describes.note (h : c.Describes t) (severity : Severity) (source message : String) :
    (c.after ⟨severity, source, message⟩).Describes
      (RenderKit.note severity source message >>= fun _ => t) := fun _ => h _

omit [Toolchain] in
/-- Unless a compilation warns, all its entries are about its failure. -/
theorem severity_of_mem_ended {r : Except CompileError (List UInt32)}
    (h : entry ∈ (ended r).entries) : entry.severity = .error := by
  cases r with
  | error e => rw [List.mem_singleton.mp h]
  | ok words => cases h

omit [Toolchain] in
/-- A warning about a list of names has the same words as the failure about it. -/
theorem failed_unusedResources {stage : Stage} {names names' : List String}
    (h : unusedWarning stage names = unusedWarning stage names') :
    failed (.unusedResources stage names) = failed (.unusedResources stage names') := by
  have htext : CompileError.unusedText stage names = CompileError.unusedText stage names' :=
    congrArg Entry.message h
  unfold failed Cause.error
  rw [show Cause.message (CompileError.unusedResources stage names) = _ from htext,
    show (CompileError.unusedResources stage names).message = _ from htext]
  rfl

end Compilation

/-! ## Sources -/

/-- What the compilation of a source comes to. -/
def foreseen (source : String) (stage : Stage) (o : CompileOptions) : Compilation :=
  match checkSource source stage o with
  | .error e => .failed e
  | .ok c =>
      if c.unused = [] then .ended (c.bytecode source stage o)
      else if o.warningsAsErrors then .failed (.unusedResources stage c.unused)
      else (Compilation.ended (c.bytecode source stage o)).after (unusedWarning stage c.unused)

section Foreseen

variable {source : String} {stage : Stage} {o : CompileOptions} {c : CheckedSource}

theorem foreseen_of_error {e : CompileError} (h : checkSource source stage o = .error e) :
    foreseen source stage o = .failed e := by
  unfold foreseen
  rw [h]

theorem foreseen_of_used (h : checkSource source stage o = .ok c) (hunused : c.unused = []) :
    foreseen source stage o = .ended (c.bytecode source stage o) := by
  unfold foreseen
  rw [h]
  exact if_pos hunused

theorem foreseen_of_strict (h : checkSource source stage o = .ok c) (hunused : c.unused ≠ [])
    (hstrict : o.warningsAsErrors = true) :
    foreseen source stage o = .failed (.unusedResources stage c.unused) := by
  unfold foreseen
  rw [h]
  exact (if_neg hunused).trans (if_pos hstrict)

theorem foreseen_of_lenient (h : checkSource source stage o = .ok c) (hunused : c.unused ≠ [])
    (hlenient : o.warningsAsErrors = false) :
    foreseen source stage o =
      (Compilation.ended (c.bytecode source stage o)).after (unusedWarning stage c.unused) := by
  unfold foreseen
  rw [h]
  exact (if_neg hunused).trans (if_neg (by simp [hlenient]))

end Foreseen

/-- The journal and the rest of the state have no part in a compilation. -/
theorem describes_compile {S : Type} [HasJournal S] (source : String) (stage : Stage)
    (o : CompileOptions) :
    (foreseen source stage o).Describes (compile source stage o : TaskOn S (List UInt32)) := by
  rcases hchecked : checkSource source stage o with e | c
  · unfold compile
    rw [foreseen_of_error hchecked, hchecked]
    exact Compilation.describes_reject e
  unfold compile
  rw [hchecked]
  show Compilation.Describes _ (do
    if !c.unused.isEmpty then
      if o.warningsAsErrors then reject (CompileError.unusedResources stage c.unused)
      note .warn shaderSource (CompileError.unusedText stage c.unused)
    accept (c.bytecode source stage o))
  by_cases hunused : c.unused = []
  · rw [foreseen_of_used hchecked hunused, if_neg (by simp [hunused])]
    exact Compilation.describes_accept _
  rw [if_pos (by simpa using hunused)]
  cases hstrict : o.warningsAsErrors with
  | true =>
    rw [foreseen_of_strict hchecked hunused hstrict, if_pos rfl]
    exact Compilation.describes_reject _
  | false =>
    rw [foreseen_of_lenient hchecked hunused hstrict, if_neg Bool.false_ne_true]
    exact (Compilation.describes_accept _).note _ _ _

/-! ## Lenient and strict -/

/-- The options under which warnings are only noted. -/
def CompileOptions.lenient (o : CompileOptions) : CompileOptions :=
  { o with warningsAsErrors := false }

/-- The options under which warnings are errors. -/
def CompileOptions.strict (o : CompileOptions) : CompileOptions :=
  { o with warningsAsErrors := true }

/-- Wherever a source is compiled, it comes to this. -/
def Compilation.Of (c : Compilation) (source : String) (stage : Stage) (o : CompileOptions) : Prop
    :=
  ∀ (S : Type) [HasJournal S], c.Describes (compile source stage o : TaskOn S (List UInt32))

section Runs

variable {source : String} {stage : Stage} {o : CompileOptions}

/-- Without unused resources there is nothing to be strict about. -/
theorem foreseen_strict_eq_lenient
    (h : ∀ c, checkSource source stage o = .ok c → c.unused = []) :
    foreseen source stage o.strict = foreseen source stage o.lenient := by
  rcases hchecked : checkSource source stage o with e | c
  · exact (foreseen_of_error (o := o.strict) hchecked).trans
      (foreseen_of_error (o := o.lenient) hchecked).symm
  · exact (foreseen_of_used (o := o.strict) hchecked (h c hchecked)).trans
      (foreseen_of_used (o := o.lenient) hchecked (h c hchecked)).symm

theorem warning_mem_iff {entry : Entry} :
    entry ∈ (foreseen source stage o.lenient).entries ∧ entry.severity = .warn ↔
      ∃ c, checkSource source stage o = .ok c ∧ c.unused ≠ [] ∧
        entry = unusedWarning stage c.unused := by
  constructor
  · rintro ⟨hmem, hwarn⟩
    rcases hchecked : checkSource source stage o with e | c
    · rw [foreseen_of_error (o := o.lenient) hchecked] at hmem
      rw [List.mem_singleton.mp hmem] at hwarn
      cases hwarn
    by_cases hunused : c.unused = []
    · rw [foreseen_of_used (o := o.lenient) hchecked hunused] at hmem
      rw [Compilation.severity_of_mem_ended hmem] at hwarn
      cases hwarn
    · rw [foreseen_of_lenient (o := o.lenient) hchecked hunused rfl] at hmem
      rcases List.mem_cons.mp hmem with rfl | hmem
      · exact ⟨c, rfl, hunused, rfl⟩
      · rw [Compilation.severity_of_mem_ended hmem] at hwarn
        cases hwarn
  · rintro ⟨c, hchecked, hunused, rfl⟩
    rw [foreseen_of_lenient (o := o.lenient) hchecked hunused rfl]
    exact ⟨List.mem_cons_self, rfl⟩

theorem foreseen_strict_of_warning {names : List String}
    (h : unusedWarning stage names ∈ (foreseen source stage o.lenient).entries) :
    foreseen source stage o.strict = .failed (.unusedResources stage names) := by
  obtain ⟨c, hchecked, hunused, hentry⟩ := warning_mem_iff.mp ⟨h, rfl⟩
  rw [foreseen_of_strict (o := o.strict) hchecked hunused rfl]
  exact (Compilation.failed_unusedResources hentry).symm

/-- As long as there is no warning, both runs come to the same. -/
theorem foreseen_strict_of_unwarned
    (h : ∀ names, unusedWarning stage names ∉ (foreseen source stage o.lenient).entries) :
    foreseen source stage o.strict = foreseen source stage o.lenient := by
  refine foreseen_strict_eq_lenient fun c hchecked => ?_
  by_contra hunused
  exact h c.unused (warning_mem_iff.mpr ⟨c, hchecked, hunused, rfl⟩).1

theorem foreseen_strict_eq_ok_iff {words : List UInt32} :
    (foreseen source stage o.strict).outcome = .ok words ↔
      (foreseen source stage o.lenient).outcome = .ok words ∧
        ∀ names, unusedWarning stage names ∉ (foreseen source stage o.lenient).entries := by
  constructor
  · intro hwords
    have hnone : ∀ names, unusedWarning stage names ∉
        (foreseen source stage o.lenient).entries := by
      intro names hwarned
      rw [foreseen_strict_of_warning hwarned] at hwords
      cases hwords
    exact ⟨foreseen_strict_of_unwarned hnone ▸ hwords, hnone⟩
  · rintro ⟨hwords, hnone⟩
    rw [foreseen_strict_of_unwarned hnone]
    exact hwords

end Runs

/-- If warnings are errors, the compilation of a source gives words exactly if it gives the same
    words, and no warning, when they are not. The only warning there is is about unused resources:
    it is given exactly if the source is in order up to there and such resources exist, and it names
    all of them in the order of their declaration. Then the strict compilation fails, and names the
    same. A source that is not in order up to there fails alike in both, and whatever else becomes of
    a source, it is the same in both as long as there is no warning. -/
theorem warnings_become_errors (source : String) (stage : Stage) (o : CompileOptions) :
    ∃ (lenient strict : Compilation) (report : List String → String),
      lenient.Of source stage o.lenient ∧ strict.Of source stage o.strict ∧
      (∀ names, report names =
        stage.name ++ " shader declares unused resources: " ++ ", ".intercalate names) ∧
      (∀ words, strict.outcome = .ok words ↔
        lenient.outcome = .ok words ∧
          ∀ names, ⟨.warn, "cbox::shader", report names⟩ ∉ lenient.entries) ∧
      (∀ entry, entry ∈ lenient.entries ∧ entry.severity = .warn ↔
        ∃ c names, checkSource source stage o = .ok c ∧ c.NamesUnused names ∧ names ≠ [] ∧
          entry = ⟨.warn, "cbox::shader", report names⟩) ∧
      (∀ names, ⟨.warn, "cbox::shader", report names⟩ ∈ lenient.entries →
        strict.outcome = .error (.error ⟨.invalidFormat, report names⟩)) ∧
      (∀ e, checkSource source stage o = .error e →
        lenient.outcome = .error (.error (Cause.error e)) ∧ strict = lenient) ∧
      ((∀ names, ⟨.warn, "cbox::shader", report names⟩ ∉ lenient.entries) → strict = lenient) := by
  refine ⟨foreseen source stage o.lenient, foreseen source stage o.strict,
    CompileError.unusedText stage, fun S _ => describes_compile source stage o.lenient,
    fun S _ => describes_compile source stage o.strict, fun names => rfl,
    fun words => foreseen_strict_eq_ok_iff, fun entry => ?_, fun names h => ?_,
    fun e hchecked => ?_, foreseen_strict_of_unwarned⟩
  · rw [warning_mem_iff]
    constructor
    · rintro ⟨c, hchecked, hunused, hentry⟩
      exact ⟨c, c.unused, hchecked, c.namesUnused_unused, hunused, hentry⟩
    · rintro ⟨c, names, hchecked, hnames, hunused, hentry⟩
      obtain rfl := hnames.unique c.namesUnused_unused
      exact ⟨c, hchecked, hunused, hentry⟩
  · rw [foreseen_strict_of_warning h]
    rfl
  · rw [foreseen_of_error (o := o.lenient) hchecked, foreseen_of_error (o := o.strict) hchecked]
    exact ⟨rfl, rfl⟩

end RenderKit
