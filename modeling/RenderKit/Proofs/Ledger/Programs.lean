import RenderKit.Proofs.Ledger.Resources
import RenderKit.Proofs.Uniforms.Locating

set_option autoImplicit false

/-! # Books of programs

The shaders of a program are in the air until it is linked. Whatever goes wrong on the way, they
are deleted. -/

namespace RenderKit.Program

variable {σ : Type} [GraphicsDevice σ] {g : Guard σ} {ext : Multiset Node} {w : World σ}
  {E : World σ → Prop}

instance : Interred Program where
  runs_discard hb := by
    refine (runs_ask_bury ?_ rfl rfl (Guard.allows_resource _ rfl)).imp fun _ _ h => h.2
    simpa [Traced.body, Traced.others] using hb

/-- What some shaders stand for. -/
def shaderNatives (shaders : List ShaderHandle) : Multiset Native := ↑(shaders.map Handle.native)

theorem runs_compileStage [Toolchain] {natives : Multiset Native} {options : CompileOptions}
    {reflected : Bool} {stage : Stage} {source : StageSource}
    (hb : Bears g ext ⟨natives, 0⟩ w) :
    Runs (compileStage options reflected stage source) w
      (fun c => Bears g ext ⟨c.handle.native ::ₘ natives, 0⟩) (Bears g ext ⟨natives, 0⟩) := by
  have hask : ∀ text reflection w', Bears g ext ⟨natives, 0⟩ w' →
      Runs (do
        let handle ← settle (← ask (.compileShader stage text))
        return (⟨stage, handle, reflection⟩ : Compiled) : Render σ Compiled) w'
      (fun c => Bears g ext ⟨c.handle.native ::ₘ natives, 0⟩) (Bears g ext ⟨natives, 0⟩) := by
    intro text reflection w' hb'
    refine Runs.bind (runs_ask_making hb' (Request.making_of_creates rfl)
      (g.allows_resource rfl) (by simp [Request.named]) (.inr rfl)) ?_
    rintro reply w'' ⟨-, hb''⟩
    refine Runs.bind_settle ?_ ?_
    · rintro h rfl
      exact Runs.pure hb''
    · rintro e rfl
      simpa [Request.issued, Bears] using hb''
  have hwords : ∀ words w', Bears g ext ⟨natives, 0⟩ w' →
      Runs (do
        let native ← transpile words stage
        let reflection ← if reflected then some <$> reflect words stage else pure none
        let handle ← settle (← ask (.compileShader stage native.text))
        return (⟨stage, handle, reflection⟩ : Compiled) : Render σ Compiled) w'
      (fun c => Bears g ext ⟨c.handle.native ::ₘ natives, 0⟩) (Bears g ext ⟨natives, 0⟩) := by
    intro words w' hb'
    refine Runs.bind ((quiet_transpile words stage).books hb') fun native w' hb' => ?_
    cases reflected with
    | true => exact Runs.bind ((quiet_reflect words stage).map.books hb') fun _ => hask _ _
    | false => exact hask _ _ _ hb'
  cases source with
  | text text => exact Runs.bind ((quiet_compile text stage options).books hb) hwords
  | words words => exact hwords words w hb

theorem runs_deleteShaders {shaders : List ShaderHandle} (natives : Multiset Native)
    (hb : Bears g ext ⟨shaderNatives shaders + natives, 0⟩ w) :
    Runs (deleteShaders shaders) w (fun _ => Bears g ext ⟨natives, 0⟩) E := by
  induction shaders generalizing w with
  | nil => exact Runs.pure (by simpa [shaderNatives] using hb)
  | cons h rest ih =>
      have hb' : Books g ext ⟨h.native ::ₘ (shaderNatives rest + natives), 0⟩ 0 w := by
        simpa [shaderNatives, Bears, ← Multiset.cons_coe] using hb
      refine Runs.bind (runs_ask_delete hb' rfl rfl (g.allows_resource rfl)) ?_
      rintro - w' ⟨-, hb''⟩
      exact ih (by simpa [Bears] using hb'')

/-- The shaders of the stages that are done are in the air. -/
theorem runs_compileStages [Toolchain] {options : CompileOptions} {reflected : Bool}
    {done : List Compiled} {sources : List (Stage × StageSource)}
    (hb : Bears g ext ⟨shaderNatives (done.map Compiled.handle), 0⟩ w) :
    Runs (compileStages options reflected done sources) w
      (fun all => Bears g ext ⟨shaderNatives (all.map Compiled.handle), 0⟩) (Owns g ext) := by
  induction sources generalizing done w with
  | nil => exact Runs.pure hb
  | cons source rest ih =>
      refine Runs.bind (runs_attempt (runs_compileStage hb)) ?_
      rintro (e | c) w' hb'
      · have hdone : Bears g ext ⟨shaderNatives (done.map Compiled.handle) + 0, 0⟩ w' := by
          simpa using hb'
        refine Runs.bind (runs_deleteShaders 0 hdone) fun _ w'' hb'' => ?_
        exact Runs.bind_note (runs_raise (Books.noted hb'' _))
      · refine ih ?_
        have hnatives : shaderNatives ((done ++ [c]).map Compiled.handle) =
            c.handle.native ::ₘ shaderNatives (done.map Compiled.handle) := by
          simp [shaderNatives, ← Multiset.coe_add, add_comm]
        rw [hnatives]
        exact hb'

/-- Link shaders that are in the air. -/
theorem runs_link {shaders : List ShaderHandle} (hb : Bears g ext ⟨shaderNatives shaders, 0⟩ w) :
    Runs (do settle (← ask (.linkProgram shaders)) : Render σ ProgramHandle) w
      (fun h => Bears g ext ⟨h.native ::ₘ shaderNatives shaders, 0⟩)
      (Bears g ext ⟨shaderNatives shaders, 0⟩) := by
  have hnamed : w.Fresh → ∀ x ∈ (Request.linkProgram shaders).named, x ∈ w.live := by
    intro hfresh x hx
    rw [(Books.sound hb hfresh).balance]
    exact Multiset.mem_add.mpr (.inr hx)
  refine Runs.bind (runs_ask_making hb (Request.making_of_creates rfl) (g.allows_resource rfl)
    hnamed (.inr rfl)) ?_
  rintro (e | h) w' ⟨-, hb'⟩
  · refine runs_raise ?_
    simpa [Request.issued, Bears] using hb'
  · exact Runs.pure hb'

theorem runs_create [Toolchain] {files : Files} {options : CompileOptions} {reflected : Bool}
    {inputs : List StageInput} (hb : Owns g ext w) :
    Runs (create files options reflected inputs) w (fun r => Owns g (.program r ::ₘ ext))
      (Owns g ext) := by
  unfold create
  refine Runs.bind ((quiet_expand files inputs).books hb) fun sources w' hb' => ?_
  extract_lets link check
  have hlink : Runs (link ()) w' (fun r => Owns g (.program r ::ₘ ext)) (Owns g ext) := by
    refine Runs.bind (runs_compileStages hb') fun compiled w₁ hb₁ => ?_
    refine Runs.bind (runs_attempt (runs_link hb₁)) ?_
    rintro (e | h) w₂ hb₂
    · have hb₂ : Bears g ext ⟨shaderNatives (compiled.map Compiled.handle) + 0, 0⟩ w₂ := by
        simpa using hb₂
      refine Runs.bind (runs_deleteShaders 0 hb₂) fun _ w₃ hb₃ => ?_
      exact Runs.bind_note (runs_raise (Books.noted hb₃ _))
    · have hb₂ : Bears g ext ⟨shaderNatives (compiled.map Compiled.handle) + {h.native}, 0⟩ w₂ := by
        simpa [add_comm] using hb₂
      refine Runs.bind (runs_deleteShaders _ hb₂) fun _ w₃ hb₃ => ?_
      refine Runs.bind_note ((runs_share ext (Books.noted hb₃ _) ?_ rfl).imp fun _ _ h => h.2.2)
      simp [Traced.body, Traced.others]
  have hcheck : Runs (check ()) w' (fun r => Owns g (.program r ::ₘ ext)) (Owns g ext) := by
    unfold check
    split
    · exact Runs.bind_reject (Books.noted hb' _)
    · exact hlink
  exact Runs.reject_if (Books.noted hb' _) fun _ => hcheck

/-! ## Using -/

theorem runs_bind {r : Ref Program} (hb : Owns g ext w) (hallows : ∀ r, g.allows r) :
    Runs (bind r) w
      (fun _ w' =>
        (∃ p, w.programs.get? r = some p ∧ w' = w.asked (.useProgram (some p.handle))) ∧
          Owns g ext w') E := by
  refine Runs.bind_same runs_view fun p hget => ?_
  refine (runs_ask_plain hb rfl (hallows _) ?_).imp fun _ _ h => ⟨⟨p, hget, h.1⟩, h.2⟩
  exact hb.names_single hget rfl

theorem runs_unbind (hb : Owns g ext w) (hallows : ∀ r, g.allows r) :
    Runs unbind w (fun _ => Owns g ext) E :=
  (runs_ask_plain hb rfl (hallows _) (by simp [Request.named])).imp fun _ _ h => h.2

omit [GraphicsDevice σ] in
theorem recalls_keep {p : Program} {c : UniformCache} (h : c.program = some p.handle) :
    Traced.recalls (p.keep c) = c.locations.map fun e => ⟨p.handle, e.1, e.2⟩ := by
  show (p.keep c).locations.map _ = _
  rw [locations_keep h]
  rfl

theorem runs_uniformLocation {r : Ref Program} {name : String} (hb : Owns g ext w) :
    Runs (uniformLocation r name) w (fun _ => Owns g ext) E := by
  refine runs_locating (fun p location hget _ => ?_) fun p location hget _ hreply => ?_
  · refine hb.altered hget rfl rfl fun _ x hx => .inl ?_
    rwa [recalls_keep p.program_remembered] at hx
  · have hlive := hb.names_single hget rfl
    have hrun := run_ask (.uniformLocation p.handle name) w
    rw [hreply] at hrun
    have hb₁ : Owns g ext (w.asked (.uniformLocation p.handle name)) :=
      ((runs_ask_plain (r := .uniformLocation p.handle name) (E := E) hb rfl
        (g.allows_resource rfl) hlive).of_ok hrun).2
    have hb₂ : Owns g ext (noted location name p.handle
        (w.asked (.uniformLocation p.handle name))) := by
      unfold noted
      split
      · exact Books.noted hb₁ _
      · exact hb₁
    obtain ⟨journal, hnoted⟩ := exists_noted location name p.handle
      (w.asked (.uniformLocation p.handle name))
    rw [hnoted] at hb₂ ⊢
    refine hb₂.altered hget rfl rfl fun hfresh x hx => ?_
    rw [recalls_keep (c := p.remembered.put name location) p.program_remembered,
      UniformCache.put, List.map_append] at hx
    refine (List.mem_append.mp hx).imp_right fun hx => ?_
    rw [List.mem_singleton.mp hx]
    exact g.believes_reply hb.law hb.answered hb.lawful
      (hlive (fresh_asked hreply hfresh).1 _ (List.mem_singleton_self _)) hreply

theorem runs_setUniform {r : Ref Program} {name : String} {value : UniformValue}
    (hb : Owns g ext w) (hallows : ∀ location, g.allows (.setUniform location value)) :
    Runs (setUniform r name value) w (fun _ => Owns g ext) E := by
  refine Runs.bind (runs_uniformLocation hb) fun location w₁ hb₁ => ?_
  split
  · exact Runs.pure hb₁
  · refine Runs.bind (runs_ask_plain hb₁ rfl (hallows _) (by simp [Request.named])) ?_
    rintro - w₂ ⟨-, hb₂⟩
    exact Runs.pure hb₂

theorem runs_attributeLocation {r : Ref Program} {name : String} (hb : Owns g ext w) :
    Runs (attributeLocation r name) w (fun _ => Owns g ext) E := by
  refine Runs.bind_same runs_view fun p hget => ?_
  refine Runs.bind (runs_ask_plain hb rfl (g.allows_resource rfl) (hb.names_single hget rfl)) ?_
  rintro location w₁ ⟨-, hb₁⟩
  split
  · exact Runs.pure hb₁
  · split
    · exact Runs.pure hb₁
    · exact Runs.pure hb₁

end RenderKit.Program
