import RenderKit.Proofs.Called
import RenderKit.Shader.Program

set_option autoImplicit false

/-! # Building programs

Whatever goes wrong while a program is built, and also if nothing does, the shaders that were
compiled on the way are deleted again in the order in which they were compiled. They are linked at
most once, all of them, after the last one was compiled. Inputs that cannot be read or do not fit
together are found out before the device hears of any. -/

namespace RenderKit

/-! ## Calls about shaders -/

namespace Call

/-- The shader that came of a call, with its stage. -/
def compiled? (c : Call) : Option (Stage × ShaderHandle) :=
  match c with
  | ⟨.compileShader stage _, some reply⟩ =>
      (reply : Except Error ShaderHandle).toOption.map fun h => (stage, h)
  | _ => none

def deletedShader? (c : Call) : Option ShaderHandle :=
  match c with
  | ⟨.deleteShader h, _⟩ => some h
  | _ => none

def isLink (c : Call) : Bool :=
  match c with
  | ⟨.linkProgram _, _⟩ => true
  | _ => false

end Call

namespace Calls

/-- The shaders that were compiled, with their stages. -/
def compiled (calls : List Call) : List (Stage × ShaderHandle) := calls.filterMap Call.compiled?

def deletedShaders (calls : List Call) : List ShaderHandle := calls.filterMap Call.deletedShader?

/-- All shaders that were compiled are deleted, in the same order. -/
def Tidy (calls : List Call) : Prop := deletedShaders calls = (compiled calls).map Prod.snd

/-- Nothing was linked. -/
def Unlinked (calls : List Call) : Prop := ∀ c ∈ calls, c.isLink = false

/-- There was one link, which came out in some way. All stages were compiled before it, and it was
    about their shaders, none of which was gone. -/
def LinkedOnce (stages : List Stage) (calls : List Call) (reply : Except Error ProgramHandle) :
    Prop :=
  ∃ before after,
    calls = before ++ ⟨.linkProgram ((compiled before).map Prod.snd), some reply⟩ :: after ∧
      Unlinked before ∧ Unlinked after ∧
      (compiled before).map Prod.fst = stages ∧ deletedShaders before = [] ∧ compiled after = []

variable {calls more : List Call}

@[simp] theorem compiled_append : compiled (calls ++ more) = compiled calls ++ compiled more :=
  List.filterMap_append

@[simp] theorem deletedShaders_append :
    deletedShaders (calls ++ more) = deletedShaders calls ++ deletedShaders more :=
  List.filterMap_append

/-- The shaders that come and go in calls without a link. -/
structure Turnover (calls : List Call) (made : List (Stage × ShaderHandle))
    (gone : List ShaderHandle) : Prop where
  compiled : compiled calls = made
  deleted : deletedShaders calls = gone
  unlinked : Unlinked calls

theorem Turnover.tidy {made : List (Stage × ShaderHandle)} {gone : List ShaderHandle}
    (h : Turnover calls made gone) (hgone : gone = made.map Prod.snd) : Tidy calls := by
  rw [Tidy, h.deleted, h.compiled, hgone]

theorem turnover_nil : Turnover [] [] [] := ⟨rfl, rfl, by simp [Unlinked]⟩

theorem Turnover.append {made made' : List (Stage × ShaderHandle)} {gone gone' : List ShaderHandle}
    (h : Turnover calls made gone) (h' : Turnover more made' gone') :
    Turnover (calls ++ more) (made ++ made') (gone ++ gone') where
  compiled := by rw [compiled_append, h.compiled, h'.compiled]
  deleted := by rw [deletedShaders_append, h.deleted, h'.deleted]
  unlinked c hc := (List.mem_append.mp hc).elim (h.unlinked c) (h'.unlinked c)

end Calls

namespace Program

def compileCall (stage : Stage) (text : String) (reply : Except Error ShaderHandle) : Call :=
  ⟨.compileShader stage text, some reply⟩

def linkCall (shaders : List ShaderHandle) (reply : Except Error ProgramHandle) : Call :=
  ⟨.linkProgram shaders, some reply⟩

def deleteCalls (shaders : List ShaderHandle) : List Call :=
  shaders.map fun h => ⟨.deleteShader h, some ()⟩

theorem turnover_compileCall {stage : Stage} {text : String} {handle : ShaderHandle} :
    Calls.Turnover [compileCall stage text (.ok handle)] [(stage, handle)] [] :=
  ⟨rfl, rfl, by simp [Calls.Unlinked, compileCall, Call.isLink]⟩

theorem turnover_refusal {stage : Stage} {text : String} {e : Error} :
    Calls.Turnover [compileCall stage text (.error e)] [] [] :=
  ⟨rfl, rfl, by simp [Calls.Unlinked, compileCall, Call.isLink]⟩

theorem turnover_deleteCalls (shaders : List ShaderHandle) :
    Calls.Turnover (deleteCalls shaders) [] shaders := by
  induction shaders with
  | nil => exact Calls.turnover_nil
  | cons h rest ih =>
      have hone : Calls.Turnover [⟨.deleteShader h, some ()⟩] [] [h] :=
        ⟨rfl, rfl, by simp [Calls.Unlinked, Call.isLink]⟩
      exact hone.append ih

/-! ## What is compiled -/

/-- The text of a stage for the device, and what was found in the stage if it is looked into. -/
def prepared? [Toolchain] (options : CompileOptions) (reflected : Bool) (stage : Stage)
    (source : StageSource) : Option (String × Option Reflection) := do
  let words ← source.words? options stage
  let native ← (nativeShader words stage).toOption
  let reflection ← if reflected then (inspectBytecode words stage).toOption.map some else some none
  return (native.text, reflection)

/-- The part of compiling a stage that the device has nothing to do with. -/
def prepare [Toolchain] {S : Type} [HasJournal S] (options : CompileOptions) (reflected : Bool)
    (stage : Stage) (source : StageSource) : TaskOn S (String × Option Reflection) := do
  let words ← match source with
    | .text text => compile text stage options
    | .words words => pure words
  let native ← transpile words stage
  let reflection ← if reflected then some <$> reflect words stage else pure none
  return (native.text, reflection)

theorem foretold_prepare [Toolchain] {S : Type} [HasJournal S] (options : CompileOptions)
    (reflected : Bool) (stage : Stage) (source : StageSource) :
    Foretold (prepare options reflected stage source : TaskOn S (String × Option Reflection))
      (prepared? options reflected stage source) := by
  have hwords : ∀ words, Foretold
      (do
        let native ← transpile words stage
        let reflection ← if reflected then some <$> reflect words stage else pure none
        return (native.text, reflection) : TaskOn S (String × Option Reflection))
      (do
        let native ← (nativeShader words stage).toOption
        let reflection ←
          if reflected then (inspectBytecode words stage).toOption.map some else some none
        return (native.text, reflection)) := by
    intro words
    refine (foretold_transpile words stage).bind fun native _ => ?_
    cases reflected with
    | true =>
        exact (foretold_reflect words stage).map.bind fun reflection _ =>
          foretold_pure (native.text, reflection)
    | false => exact foretold_pure (native.text, none)
  cases source with
  | text text => exact (foretold_compile text stage options).bind fun words _ => hwords words
  | words words => exact hwords words

theorem compileStage_eq [Toolchain] {σ : Type} [GraphicsDevice σ] (options : CompileOptions)
    (reflected : Bool) (stage : Stage) (source : StageSource) :
    (compileStage options reflected stage source : Render σ Compiled) = do
      let (text, reflection) ← prepare options reflected stage source
      let handle ← settle (← ask (.compileShader stage text))
      return ⟨stage, handle, reflection⟩ := by
  cases source
  all_goals
    cases reflected
    all_goals simp [compileStage, prepare]

/-- Stages become shaders, one by one. -/
inductive CompilesAll [Toolchain] (options : CompileOptions) (reflected : Bool) :
    List (Stage × StageSource) → List Compiled → List Call → Prop
  | nil : CompilesAll options reflected [] [] []
  | cons {stage : Stage} {source : StageSource} {text : String} {handle : ShaderHandle}
      {reflection : Option Reflection} {rest : List (Stage × StageSource)} {all : List Compiled}
      {calls : List Call}
      (hprepared : prepared? options reflected stage source = some (text, reflection))
      (hrest : CompilesAll options reflected rest all calls) :
      CompilesAll options reflected ((stage, source) :: rest) (⟨stage, handle, reflection⟩ :: all)
        (compileCall stage text (.ok handle) :: calls)

/-- What is called for a stage that does not become a shader. -/
inductive Fails [Toolchain] (options : CompileOptions) (reflected : Bool) (stage : Stage)
    (source : StageSource) : List Call → Prop
  | unprepared (hprepared : prepared? options reflected stage source = none) :
      Fails options reflected stage source []
  | refused {text : String} {reflection : Option Reflection} {e : Error}
      (hprepared : prepared? options reflected stage source = some (text, reflection)) :
      Fails options reflected stage source [compileCall stage text (.error e)]

section Calls

variable {options : CompileOptions} {reflected : Bool} {sources : List (Stage × StageSource)}
  {stage : Stage} {source : StageSource} {all : List Compiled} {calls failed : List Call}

theorem Fails.turnover [Toolchain] (h : Fails options reflected stage source failed) :
    Calls.Turnover failed [] [] := by
  cases h with
  | unprepared => exact Calls.turnover_nil
  | refused => exact turnover_refusal

namespace CompilesAll

theorem turnover [Toolchain] (h : CompilesAll options reflected sources all calls) :
    Calls.Turnover calls (all.map fun c => (c.stage, c.handle)) [] := by
  induction h with
  | nil => exact Calls.turnover_nil
  | cons hprepared hrest ih => exact turnover_compileCall.append ih

theorem stages [Toolchain] (h : CompilesAll options reflected sources all calls) :
    all.map Compiled.stage = sources.map Prod.fst := by
  induction h with
  | nil => rfl
  | cons hprepared hrest ih => exact congrArg (List.cons _) ih

theorem prepared [Toolchain] (h : CompilesAll options reflected sources all calls)
    (hsource : (stage, source) ∈ sources) :
    ∃ c ∈ all, c.stage = stage ∧
      ∃ text, prepared? options reflected stage source = some (text, c.reflection) := by
  induction h with
  | nil => cases hsource
  | cons hprepared hrest ih =>
      rcases List.mem_cons.mp hsource with heq | hrest
      · cases heq
        exact ⟨_, List.mem_cons_self, rfl, _, hprepared⟩
      · obtain ⟨c, hc, hstage⟩ := ih hrest
        exact ⟨c, List.mem_cons_of_mem _ hc, hstage⟩

end CompilesAll

end Calls

/-! ## What programs keep -/

theorem repeatedStage?_eq_none_iff {seen stages : List Stage} :
    repeatedStage? seen stages = none ↔ stages.Nodup ∧ ∀ s ∈ stages, s ∉ seen := by
  induction stages generalizing seen with
  | nil => simp [repeatedStage?]
  | cons first rest ih =>
      by_cases hseen : first ∈ seen
      · simp [repeatedStage?, hseen]
      · simp only [repeatedStage?, List.contains_iff_mem, hseen, if_false, ih, List.nodup_cons,
          List.mem_cons, not_or, forall_eq_or_imp, not_false_eq_true, true_and]
        constructor
        · rintro ⟨hnodup, hrest⟩
          exact ⟨⟨fun hmem => (hrest first hmem).1 rfl, hnodup⟩, fun s hs => (hrest s hs).2⟩
        · rintro ⟨⟨hfirst, hnodup⟩, hrest⟩
          exact ⟨hnodup, fun s hs => ⟨fun heq => hfirst (heq ▸ hs), hrest s hs⟩⟩

theorem prepared?_reflected [Toolchain] {options : CompileOptions} {stage : Stage}
    {source : StageSource} {text : String} {reflection : Option Reflection}
    (h : prepared? options true stage source = some (text, reflection)) :
    ∃ words r, source.words? options stage = some words ∧
      inspectBytecode words stage = .ok r ∧ reflection = some r := by
  obtain ⟨words, hwords, h⟩ := Option.bind_eq_some_iff.mp h
  obtain ⟨native, -, h⟩ := Option.bind_eq_some_iff.mp h
  obtain ⟨found, hfound, h⟩ := Option.bind_eq_some_iff.mp h
  obtain ⟨r, hr, rfl⟩ := Option.map_eq_some_iff.mp hfound
  cases h
  exact ⟨words, r, hwords, toOption_eq_some_iff.mp hr, rfl⟩

theorem prepared?_unreflected [Toolchain] {options : CompileOptions} {stage : Stage}
    {source : StageSource} {text : String} {reflection : Option Reflection}
    (h : prepared? options false stage source = some (text, reflection)) : reflection = none := by
  obtain ⟨words, -, h⟩ := Option.bind_eq_some_iff.mp h
  obtain ⟨native, -, h⟩ := Option.bind_eq_some_iff.mp h
  cases h
  rfl

/-- What was found in the stages, as far as they were looked into. -/
def foundIn (all : List Compiled) : List (Stage × Reflection) :=
  all.filterMap fun c => c.reflection.map fun r => (c.stage, r)

theorem lookup_foundIn_of_not_mem {all : List Compiled} {stage : Stage}
    (h : stage ∉ all.map Compiled.stage) : (foundIn all).lookup stage = none := by
  induction all with
  | nil => rfl
  | cons c rest ih =>
      rw [List.map_cons, List.mem_cons, not_or] at h
      rcases hreflection : c.reflection with _ | r
      · simpa [foundIn, hreflection] using ih h.2
      · simpa [foundIn, hreflection, h.1] using ih h.2

theorem lookup_foundIn {all : List Compiled} (hnodup : (all.map Compiled.stage).Nodup)
    {c : Compiled} (hc : c ∈ all) : (foundIn all).lookup c.stage = c.reflection := by
  induction all with
  | nil => cases hc
  | cons first rest ih =>
      obtain ⟨hfirst, hrest⟩ := List.nodup_cons.mp hnodup
      rcases List.mem_cons.mp hc with rfl | hc
      · rcases hreflection : c.reflection with _ | r
        · simpa [foundIn, hreflection] using lookup_foundIn_of_not_mem hfirst
        · simp [foundIn, hreflection]
      · have hne : (c.stage == first.stage) = false :=
          beq_false_of_ne fun h => hfirst (h ▸ List.mem_map_of_mem hc)
        rcases hreflection : first.reflection with _ | r
        · simpa [foundIn, hreflection] using ih hrest hc
        · simpa [foundIn, hreflection, List.lookup_cons, hne] using ih hrest hc

theorem reflection_of_mem [Toolchain] {options : CompileOptions}
    {sources : List (Stage × StageSource)}
    {all : List Compiled} {calls : List Call} {stage : Stage} {source : StageSource}
    (hall : CompilesAll options true sources all calls) (hnodup : (all.map Compiled.stage).Nodup)
    (hsource : (stage, source) ∈ sources) :
    ∃ words, source.words? options stage = some words ∧
      inspectBytecode words stage = .ok (((foundIn all).lookup stage).getD .empty) := by
  obtain ⟨c, hc, rfl, text, hprepared⟩ := hall.prepared hsource
  obtain ⟨words, r, hwords, hinspect, hfound⟩ := prepared?_reflected hprepared
  refine ⟨words, hwords, ?_⟩
  rw [lookup_foundIn hnodup hc, hfound]
  exact hinspect

theorem reflection_eq_empty [Toolchain] {options : CompileOptions} {reflected : Bool}
    {sources : List (Stage × StageSource)} {all : List Compiled} {calls : List Call} {stage : Stage}
    (hall : CompilesAll options reflected sources all calls)
    (hnodup : (all.map Compiled.stage).Nodup)
    (hstage : ¬(reflected ∧ stage ∈ all.map Compiled.stage)) :
    ((foundIn all).lookup stage).getD .empty = .empty := by
  by_cases hmem : stage ∈ all.map Compiled.stage
  · -- the stage is there, which means that it was not looked into
    obtain rfl : reflected = false := by
      cases reflected with
      | true => exact absurd ⟨rfl, hmem⟩ hstage
      | false => rfl
    obtain ⟨⟨_, source⟩, hsource, rfl⟩ := List.mem_map.mp (hall.stages ▸ hmem)
    obtain ⟨c, hc, hcstage, text, hprepared⟩ := hall.prepared hsource
    rw [← hcstage, lookup_foundIn hnodup hc, prepared?_unreflected hprepared]
    rfl
  · rw [lookup_foundIn_of_not_mem hmem]
    rfl

/-! ## Runs -/

section Runs

variable {σ : Type} [GraphicsDevice σ] {w w' : World σ} {calls : List Call}
  {options : CompileOptions} {reflected : Bool} {E : World σ → Prop}

theorem calls_compileStage [Toolchain] {stage : Stage} {source : StageSource}
    (h : w.Called calls w') :
    Runs (compileStage options reflected stage source) w'
      (fun c w'' => ∃ text, prepared? options reflected stage source = some (text, c.reflection) ∧
        c.stage = stage ∧ w.Called (calls ++ [compileCall stage text (.ok c.handle)]) w'')
      (fun w'' => ∃ failed, Fails options reflected stage source failed ∧
        w.Called (calls ++ failed) w'') := by
  rw [compileStage_eq]
  refine Runs.andThen ((foretold_prepare options reflected stage source).called h) ?_ ?_
  · rintro w₁ ⟨hprepared, h₁⟩
    exact ⟨[], .unprepared hprepared, by rwa [List.append_nil]⟩
  · rintro ⟨text, reflection⟩ w₁ ⟨hprepared, h₁⟩
    refine Runs.bind h₁.runs_ask fun reply w₂ h₂ => Runs.bind_settle ?_ ?_
    · rintro handle rfl
      exact Runs.pure ⟨text, hprepared, rfl, h₂⟩
    · rintro e rfl
      exact ⟨_, .refused hprepared, h₂⟩

theorem calls_deleteShaders {shaders : List ShaderHandle} (h : w.Called calls w') :
    Runs (deleteShaders shaders) w'
      (fun _ w'' => w.Called (calls ++ deleteCalls shaders) w'') E := by
  induction shaders generalizing calls w' with
  | nil => exact Runs.pure (by rwa [deleteCalls, List.map_nil, List.append_nil])
  | cons shader rest ih =>
      refine Runs.bind h.runs_ask fun _ w₁ h₁ => ?_
      exact (ih h₁).imp fun _ w₂ h₂ => by simpa [deleteCalls] using h₂

theorem calls_compileStages [Toolchain] {done : List Compiled}
    {sources : List (Stage × StageSource)} (h : w.Called calls w') :
    Runs (compileStages options reflected done sources) w'
      (fun all w'' => ∃ fresh more, all = done ++ fresh ∧
        CompilesAll options reflected sources fresh more ∧ w.Called (calls ++ more) w'')
      (fun w'' => ∃ front stage source back fresh more failed,
        sources = front ++ (stage, source) :: back ∧
        CompilesAll options reflected front fresh more ∧
        Fails options reflected stage source failed ∧
        w.Called (calls ++ (more ++ (failed ++
          deleteCalls ((done ++ fresh).map Compiled.handle)))) w'') := by
  -- by the stages that are left; those before them are done, with their calls
  induction sources generalizing done calls w' with
  | nil => exact Runs.pure ⟨[], [], by simp, .nil, by rwa [List.append_nil]⟩
  | cons first rest ih =>
      obtain ⟨stage, source⟩ := first
      refine Runs.bind (runs_attempt (calls_compileStage h)) ?_
      rintro (e | c) w₁ h₁
      · -- this stage is where it ends, and only the shaders of those before it are there
        obtain ⟨failed, hfails, h₁⟩ := h₁
        refine Runs.bind (calls_deleteShaders h₁) fun _ w₂ h₂ => ?_
        refine Runs.bind_note (runs_raise ?_)
        exact ⟨[], stage, source, rest, [], [], failed, rfl, .nil, hfails, by
          simpa using h₂.noted _⟩
      · obtain ⟨text, hprepared, rfl, h₁⟩ := h₁
        refine (ih h₁).mono ?_ ?_
        · rintro _ w₂ ⟨fresh, more, rfl, hall, h₂⟩
          exact ⟨c :: fresh, _, by simp, .cons hprepared hall, by simpa using h₂⟩
        · rintro w₂ ⟨front, stage', source', back, fresh, more, failed, rfl, hall, hfails, h₂⟩
          exact ⟨(c.stage, source) :: front, stage', source', back, c :: fresh, _, failed, rfl,
            .cons hprepared hall, hfails, by simpa using h₂⟩

theorem calls_link {shaders : List ShaderHandle} (h : w.Called calls w') :
    Runs (do settle (← ask (.linkProgram shaders)) : Render σ ProgramHandle) w'
      (fun handle w'' => w.Called (calls ++ [linkCall shaders (.ok handle)]) w'')
      (fun w'' => ∃ e, w.Called (calls ++ [linkCall shaders (.error e)]) w'') := by
  refine Runs.bind h.runs_ask ?_
  rintro (e | handle) w'' h'
  · exact runs_raise ⟨e, h'⟩
  · exact Runs.pure h'

/-- All that is called for a program whose stages were all compiled. -/
theorem linkedOnce_build [Toolchain] {sources : List (Stage × StageSource)} {all : List Compiled}
    {made : List Call} (hall : CompilesAll options reflected sources all made)
    (reply : Except Error ProgramHandle) {new : List Call}
    (hnew : new = made ++ [linkCall (all.map Compiled.handle) reply] ++
      deleteCalls (all.map Compiled.handle)) :
    Calls.Tidy new ∧ Calls.LinkedOnce (sources.map Prod.fst) new reply := by
  have hmade := hall.turnover
  have hgone := turnover_deleteCalls (all.map Compiled.handle)
  have hshaders : (Calls.compiled made).map Prod.snd = all.map Compiled.handle := by
    rw [hmade.compiled, List.map_map]
    rfl
  have hcompiled : Calls.compiled [linkCall (all.map Compiled.handle) reply] = [] := rfl
  have hdeleted : Calls.deletedShaders [linkCall (all.map Compiled.handle) reply] = [] := rfl
  subst hnew
  refine ⟨?_, made, _, by rw [hshaders, List.append_assoc]; rfl, hmade.unlinked, hgone.unlinked,
    ?_, hmade.deleted, hgone.compiled⟩
  · simp only [Calls.Tidy, Calls.deletedShaders_append, Calls.compiled_append, hmade.deleted,
      hdeleted, hgone.deleted, hgone.compiled, hcompiled, List.nil_append, List.append_nil, hshaders]
  · rw [hmade.compiled, List.map_map]
    exact hall.stages

/-- Stages that a program can be built from. -/
structure Proper (sources : List (Stage × StageSource)) : Prop where
  nonempty : sources ≠ []
  nodup : (sources.map Prod.fst).Nodup

/-- What a build leaves behind that comes to a program. -/
structure Built [Toolchain] (files : Files) (options : CompileOptions) (reflected : Bool)
    (inputs : List StageInput) (w : World σ) (new : List Call)
    (sources : List (Stage × StageSource)) (p : Program) (r : Ref Program) (w' : World σ) :
    Prop where
  expanded : expansion? files inputs = some sources
  proper : Proper sources
  world : ∃ w₁, w.Called new w₁ ∧ w' = w₁.shared p
  program : w'.programs.get? r = some p
  tidy : Calls.Tidy new
  linked : Calls.LinkedOnce (sources.map Prod.fst) new (.ok p.handle)
  stages : p.stages = sources.map Prod.fst
  /-- Every stage that is looked into shows what is in its bytecode. -/
  reflection : reflected → ∀ stage source, (stage, source) ∈ sources →
    ∃ words, source.words? options stage = some words ∧
      inspectBytecode words stage = .ok (p.reflection stage)
  empty : ∀ stage, ¬(reflected ∧ stage ∈ p.stages) → p.reflection stage = .empty

/-- What a build leaves behind that fails. If a program was linked at all, none came of it. -/
structure GaveUp (files : Files) (inputs : List StageInput) (w : World σ) (new : List Call)
    (w' : World σ) : Prop where
  called : w.Called new w'
  tidy : Calls.Tidy new
  linked : Calls.Unlinked new ∨ ∃ sources e, expansion? files inputs = some sources ∧
    Calls.LinkedOnce (sources.map Prod.fst) new (.error e)
  /-- Without proper stages the device hears of nothing. -/
  silent : (∀ sources, expansion? files inputs = some sources → ¬Proper sources) → new = []

/-- Building a program is atomic, whatever it is built from and however the device replies. -/
theorem create_atomic [Toolchain] (files : Files) (options : CompileOptions) (reflected : Bool)
    (inputs : List StageInput) (w : World σ) :
    Runs (create files options reflected inputs) w
      (fun r w' => ∃ new sources p, Built files options reflected inputs w new sources p r w')
      (fun w' => ∃ new, GaveUp files inputs w new w') := by
  unfold create
  have hnothing : ∀ w', w.Called [] w' → ∃ new, GaveUp files inputs w new w' :=
    fun w' h => ⟨[], h, rfl, .inl Calls.turnover_nil.unlinked, fun _ => rfl⟩
  -- nothing is called before the stages are known and fit together
  refine Runs.andThen ((foretold_expand files inputs).called (.refl w))
    (fun w₁ h₁ => hnothing w₁ h₁.2) ?_
  rintro sources w₁ ⟨hsources, h₁⟩
  extract_lets link check
  refine Runs.reject_if (hnothing _ (h₁.noted _)) fun hsome => ?_
  unfold check
  split
  · exact Runs.bind_reject (hnothing _ (h₁.noted _))
  rename_i hrepeated
  have hproper : Proper sources :=
    ⟨fun h => hsome (by simp [h]), (repeatedStage?_eq_none_iff.mp hrepeated).1⟩
  have hsilent : ∀ new : List Call, (∀ sources', expansion? files inputs = some sources' →
      ¬Proper sources') → new = [] := fun new h => absurd hproper (h sources hsources)
  refine Runs.andThen (calls_compileStages h₁) ?_ ?_
  · rintro w₂ ⟨front, stage, source, back, all, made, failed, -, hall, hfails, h₂⟩
    rw [List.nil_append, List.nil_append] at h₂
    have hturnover := hall.turnover.append (hfails.turnover.append
      (turnover_deleteCalls (all.map Compiled.handle)))
    exact ⟨_, h₂, hturnover.tidy (by simp), .inl hturnover.unlinked, hsilent _⟩
  rintro all w₂ ⟨_, made, rfl, hall, h₂⟩
  rw [List.nil_append] at h₂
  -- the shaders are deleted before the outcome of the link is looked at
  refine Runs.bind (runs_attempt (calls_link h₂)) ?_
  rintro (e | handle) w₃ h₃
  · obtain ⟨e', h₃⟩ := h₃
    refine Runs.bind (calls_deleteShaders h₃) fun _ w₄ h₄ => Runs.bind_note (runs_raise ?_)
    obtain ⟨htidy, hlinked⟩ := linkedOnce_build hall (.error e') rfl
    exact ⟨_, h₄.noted _, htidy, .inr ⟨sources, e', hsources, hlinked⟩, hsilent _⟩
  · refine Runs.bind (calls_deleteShaders h₃) fun _ w₄ h₄ => Runs.bind_note ?_
    obtain ⟨htidy, hlinked⟩ := linkedOnce_build hall (.ok handle) rfl
    refine Runs.bind_get (Runs.bind_set (Runs.pure ?_))
    have hstages : (all.map Compiled.stage).Nodup := hall.stages ▸ hproper.nodup
    refine ⟨_, sources, _, hsources, hproper, ⟨_, h₄.noted _, rfl⟩, Pool.get?_add _ _, htidy,
      hlinked, hall.stages, ?_, fun stage => ?_⟩
    · rintro rfl stage source hsource
      exact reflection_of_mem hall hstages hsource
    · exact reflection_eq_empty hall hstages

end Runs

end Program

end RenderKit
