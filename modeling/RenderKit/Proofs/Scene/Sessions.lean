import RenderKit.Proofs.Commands.Sessions
import RenderKit.Proofs.OpenGL.Reference
import RenderKit.Proofs.OpenGL.Sessions
import RenderKit.Proofs.Scene.Materials

set_option autoImplicit false

/-! # Materials of a session

The settings that a session makes a material from, and those that change it later, give it one part
each. So what is applied is told from all of them together. -/

namespace RenderKit.Session

open MaterialPart

/-! ## Settings -/

def Object.texture? : Object → Option (Ref Texture)
  | .texture r => some r
  | _ => none

def Object.sampler? : Object → Option (Ref Sampler)
  | .sampler r => some r
  | _ => none

/-- The part that a setting stands for, as long as its name stands for something of that kind. -/
def MaterialSetting.part? (objects : List (Name × Object)) : MaterialSetting → Option MaterialPart
  | .program name => ((objects.lookup name).bind Object.program?).map .program
  | .uniform key value => some (.uniform key value)
  | .texture slot name => ((objects.lookup name).bind Object.texture?).map (.texture slot)
  | .sampler slot name => ((objects.lookup name).bind Object.sampler?).map (.sampler slot)
  | .removeTexture slot => some (.noTexture slot)

/-- Settings stand for some parts, one each. -/
def StandFor (objects : List (Name × Object)) (settings : List MaterialSetting)
    (parts : List MaterialPart) : Prop :=
  settings.map (MaterialSetting.part? objects) = parts.map some

section Lookups

variable {objects : List (Name × Object)} {name : Name} {m : Material}

theorem StandFor.cons {setting : MaterialSetting} {part : MaterialPart}
    {settings : List MaterialSetting} {parts : List MaterialPart}
    (hpart : setting.part? objects = some part) (h : StandFor objects settings parts) :
    StandFor objects (setting :: settings) (part :: parts) :=
  congrArg₂ List.cons hpart h

theorem bind_lookup_put {α : Type} (pick : Object → Option α)
    (hpick : ∀ m : Material, pick (.material m) = none)
    (hm : objects.lookup name = some (.material m)) (m' : Material) (other : Name) :
    ((put objects name (.material m')).lookup other).bind pick =
      (objects.lookup other).bind pick := by
  by_cases h : other = name
  · subst h
    rw [lookup_put_self, hm, Option.bind_some, Option.bind_some, hpick, hpick]
  · rw [lookup_put_of_ne h]

/-- A material is no part of another one, so what settings stand for does not change with it. -/
theorem part?_put (hm : objects.lookup name = some (.material m)) (m' : Material) :
    MaterialSetting.part? (put objects name (.material m')) = MaterialSetting.part? objects := by
  funext setting
  cases setting with
  | program part =>
      exact congrArg (Option.map MaterialPart.program)
        (bind_lookup_put Object.program? (fun _ => rfl) hm m' part)
  | texture slot part =>
      exact congrArg (Option.map (MaterialPart.texture slot))
        (bind_lookup_put Object.texture? (fun _ => rfl) hm m' part)
  | sampler slot part =>
      exact congrArg (Option.map (MaterialPart.sampler slot))
        (bind_lookup_put Object.sampler? (fun _ => rfl) hm m' part)
  | _ => rfl

theorem part?_program {r : Ref Program} (h : objects.lookup name = some (.program r)) :
    (MaterialSetting.program name).part? objects = some (.program r) := by
  simp [MaterialSetting.part?, h, Object.program?]

theorem part?_texture {r : Ref Texture} (slot : UInt32)
    (h : objects.lookup name = some (.texture r)) :
    (MaterialSetting.texture slot name).part? objects = some (.texture slot r) := by
  simp [MaterialSetting.part?, h, Object.texture?]

theorem part?_sampler {r : Ref Sampler} (slot : UInt32)
    (h : objects.lookup name = some (.sampler r)) :
    (MaterialSetting.sampler slot name).part? objects = some (.sampler slot r) := by
  simp [MaterialSetting.part?, h, Object.sampler?]

end Lookups

/-! ## Making -/

section

variable {σ : Type} {s : State σ} {name : Name} {m : Material}

theorem collects_next {plan : MaterialPlan} {setting : MaterialSetting} {part : MaterialPart}
    {rest : List MaterialSetting} (hpart : setting.part? s.objects = some part)
    (hrest : Runs (materialPlan (part.add plan) rest) s (fun plan' s' => s' = s ∧ ∃ parts,
      StandFor s.objects rest parts ∧ plan' = parts.foldl add (part.add plan)) fun _ => True) :
    Runs (materialPlan (part.add plan) rest) s (fun plan' s' => s' = s ∧ ∃ parts,
      StandFor s.objects (setting :: rest) parts ∧ plan' = parts.foldl add plan)
      (fun _ => True) := by
  refine hrest.imp ?_
  rintro plan' s' ⟨rfl, parts, hparts, rfl⟩
  exact ⟨rfl, part :: parts, hparts.cons hpart, rfl⟩

/-- Settings are collected one after the other. -/
theorem collects_materialPlan (plan : MaterialPlan) (settings : List MaterialSetting) :
    Runs (materialPlan plan settings) s (fun plan' s' => s' = s ∧ ∃ parts,
      StandFor s.objects settings parts ∧ plan' = parts.foldl add plan) (fun _ => True) := by
  induction settings generalizing plan with
  | nil => exact Runs.pure ⟨rfl, [], rfl, rfl⟩
  | cons setting rest ih =>
      cases setting with
      | program name =>
          refine Runs.bind_same (runs_programNamed trivial) fun r hr => ?_
          exact collects_next (part?_program hr) (ih _)
      | uniform key value =>
          have hpart : (MaterialSetting.uniform key value).part? s.objects =
            some (.uniform key value) := rfl
          exact collects_next hpart (ih _)
      | texture slot name =>
          refine Runs.bind_same (runs_textureNamed trivial) fun r hr => ?_
          exact collects_next (part?_texture slot hr) (ih _)
      | sampler slot name =>
          refine Runs.bind_same (runs_samplerNamed trivial) fun r hr => ?_
          exact collects_next (part?_sampler slot hr) (ih _)
      | removeTexture slot =>
          have hpart : (MaterialSetting.removeTexture slot).part? s.objects =
            some (.noTexture slot) := rfl
          exact collects_next hpart (ih _)

theorem makes_create [GraphicsDevice σ] {w : World σ} (plan : MaterialPlan) :
    Runs (Material.create plan) w (fun m _ => ∃ r, plan.program = some r ∧ m = plan.made r)
      (fun _ => True) := by
  unfold Material.create
  split
  · exact runs_reject trivial
  · rename_i r hr
    refine Runs.bind_anyhow fun _ w₁ => ?_
    refine Runs.bind_anyhow fun _ w₂ => ?_
    refine Runs.bind_anyhow fun _ w₃ => ?_
    exact Runs.pure ⟨r, hr, by rw [MaterialPlan.made, hr]; rfl⟩

end

section

variable {σ : Type} [InstrumentedDevice σ] {s : State σ} {name : Name} {m : Material}

omit [InstrumentedDevice σ] in
/-- What is done in the world leaves the names alone. -/
theorem runs_inWorld_objects {α : Type} {t : Render σ α} {P : α → Prop}
    (ht : Runs t s.world (fun a _ => P a) (fun _ => True)) :
    Runs (inWorld t) s (fun a s' => s'.objects = s.objects ∧ P a) (fun _ => True) := by
  refine (runs_inWorld ht).mono ?_ fun _ _ => trivial
  rintro a s' ⟨hs', hP⟩
  exact ⟨by rw [hs'], hP⟩

omit [InstrumentedDevice σ] in
theorem objects_inWorld {α : Type} {t : Render σ α} :
    Runs (inWorld t) s (fun _ s' => s'.objects = s.objects) (fun _ => True) :=
  (runs_inWorld_objects (P := fun _ => True) (runs_anyhow fun _ _ => trivial)).imp
    fun _ _ h => h.1

theorem assigns (name : Name) (o : Object) :
    Runs (assign name o) s (fun _ s' => s'.objects.lookup name = some o) (fun _ => True) := by
  refine Runs.bind_get (Runs.bind_modify ?_)
  split
  · refine objects_inWorld.imp fun _ s' hs' => ?_
    rw [hs']
    exact lookup_put_self
  · exact Runs.pure lookup_put_self

theorem makes_material [Toolchain] [ImageCodec] {settings : List MaterialSetting} :
    Runs (play (.make name (.material settings))) s (fun _ s' => ∃ parts m,
      StandFor s.objects settings parts ∧ m.Holds parts ∧
        s'.objects.lookup name = some (.material m)) (fun _ => True) := by
  have hmake : Runs (make (.material settings)) s (fun o _ => ∃ parts m,
      StandFor s.objects settings parts ∧ m.Holds parts ∧ o = .material m) (fun _ => True) := by
    refine Runs.bind_same (collects_materialPlan {} settings) ?_
    rintro plan ⟨parts, hparts, rfl⟩
    refine Runs.bind (runs_inWorld_objects (makes_create _)) ?_
    rintro m s' ⟨-, r, hr, rfl⟩
    exact Runs.pure ⟨parts, _, hparts, holds_made hr, rfl⟩
  refine Runs.bind hmake ?_
  rintro o s₁ ⟨parts, m, hparts, hm, rfl⟩
  refine Runs.bind (assigns name _) fun _ s₂ hs₂ => ?_
  refine Runs.bind objects_inWorld fun _ s₃ hs₃ => ?_
  exact Runs.pure ⟨parts, m, hparts, hm, hs₃ ▸ hs₂⟩

/-! ## Changing -/

omit [InstrumentedDevice σ] in
/-- A material takes the place of an old one once owners are changed. -/
theorem exchanges_material {t u : Render σ Unit} {m' : Material} {answer : Answer} :
    Runs (do
      update name (.material (← inWorld (do
        t
        u
        return m')))
      return answer : Play σ Answer) s
      (fun _ s' => s'.objects = put s.objects name (.material m')) (fun _ => True) := by
  have hexchange : ∀ w, Runs (do
      t
      u
      return m' : Render σ Material) w (fun m _ => m = m') (fun _ => True) :=
    fun w => Runs.bind_anyhow fun _ w₁ => Runs.bind_anyhow fun _ w₂ => Runs.pure rfl
  refine Runs.bind (runs_inWorld_objects (hexchange _)) ?_
  rintro _ s' ⟨hs', rfl⟩
  exact Runs.bind_modify (Runs.pure (by rw [hs']))

theorem changes_material [Toolchain] [ImageCodec] {setting : MaterialSetting}
    (hm : s.objects.lookup name = some (.material m)) :
    Runs (play (.setMaterial name setting)) s (fun _ s' => ∃ part,
      setting.part? s.objects = some part ∧
        s'.objects = put s.objects name (.material (part.change m))) (fun _ => True) := by
  have hmaterial : Runs (materialNamed name) s (fun m' s' => s' = s ∧ m' = m)
      (fun _ => True) := by
    refine (runs_materialNamed trivial).imp ?_
    rintro m' s' ⟨rfl, hm'⟩
    rw [hm] at hm'
    cases hm'
    exact ⟨rfl, rfl⟩
  cases setting with
  | program part =>
      refine Runs.bind_same (runs_programNamed trivial) fun r hr => ?_
      refine Runs.bind hmaterial ?_
      rintro _ s ⟨rfl, rfl⟩
      exact exchanges_material.imp fun _ _ hs' => ⟨_, part?_program hr, hs'⟩
  | uniform key value =>
      refine Runs.bind hmaterial ?_
      rintro _ s ⟨rfl, rfl⟩
      exact Runs.bind_modify (Runs.pure ⟨_, rfl, rfl⟩)
  | texture slot part =>
      refine Runs.bind_same (runs_textureNamed trivial) fun r hr => ?_
      refine Runs.bind hmaterial ?_
      rintro _ s ⟨rfl, rfl⟩
      exact exchanges_material.imp fun _ _ hs' => ⟨_, part?_texture slot hr, hs'⟩
  | sampler slot part =>
      refine Runs.bind_same (runs_samplerNamed trivial) fun r hr => ?_
      refine Runs.bind hmaterial ?_
      rintro _ s ⟨rfl, rfl⟩
      exact exchanges_material.imp fun _ _ hs' => ⟨_, part?_sampler slot hr, hs'⟩
  | removeTexture slot =>
      refine Runs.bind hmaterial ?_
      rintro m s ⟨rfl, rfl⟩
      refine Runs.bind_modify ?_
      split
      · exact Runs.pure ⟨_, rfl, rfl⟩
      · refine Runs.bind objects_inWorld fun t s₁ hs₁ => ?_
        refine Runs.bind objects_inWorld fun _ s₂ hs₂ => ?_
        exact Runs.pure ⟨_, rfl, hs₂.trans hs₁⟩

/-- All settings that change a material. -/
def changing (name : Name) (settings : List MaterialSetting) : List (Action σ) :=
  settings.map fun setting => .step (.setMaterial name setting)

theorem changes_all [Toolchain] [ImageCodec] {settings : List MaterialSetting}
    (hm : s.objects.lookup name = some (.material m)) (hok : allOk (changing name settings) s) :
    ∃ parts, StandFor s.objects settings parts ∧
      (actAll (changing name settings) s).objects.lookup name =
        some (.material (parts.foldl change m)) := by
  induction settings generalizing s m with
  | nil => exact ⟨[], rfl, hm⟩
  | cons setting rest ih =>
      obtain ⟨hfirst, hrest⟩ := Bool.and_eq_true_iff.mp hok
      have hafter : (actAll (changing name (setting :: rest)) s) =
          actAll (changing name rest) ((play (.setMaterial name setting)).run.run s).2 := rfl
      rcases hrun : (play (.setMaterial name setting)).run.run s with ⟨e | answer, s₁⟩
      · have herror : ((play (.setMaterial name setting)).run.run s).1.isOk := hfirst
        rw [hrun] at herror
        cases herror
      obtain ⟨part, hpart, hs₁⟩ := (changes_material hm).of_ok hrun
      have hrest : allOk (changing name rest)
          ((play (.setMaterial name setting)).run.run s).2 := hrest
      rw [hrun] at hrest hafter
      have hm₁ : s₁.objects.lookup name = some (.material (part.change m)) := by
        rw [hs₁, lookup_put_self]
      obtain ⟨parts, hparts, hlookup⟩ := ih hm₁ hrest
      rw [hs₁, StandFor, part?_put hm] at hparts
      exact ⟨part :: parts, StandFor.cons hpart hparts, hafter ▸ hlookup⟩

/-! ## Applying -/

omit [InstrumentedDevice σ] in
theorem run_materialNamed (hm : s.objects.lookup name = some (.material m)) :
    (materialNamed name).run.run s = (.ok m, s) := by
  unfold materialNamed
  rw [run_bind, run_object hm]
  rfl

theorem applies_material [Toolchain] [ImageCodec] {sound : Prop} {parts : List MaterialPart}
    {s' : State σ}
    {outcome : Except Refusal Answer} (hm : s.objects.lookup name = some (.material m))
    (hparts : m.Holds parts) (hlive : sound → m.Live s.world)
    (hrun : (play (.apply name)).run.run s = (outcome, s')) :
    (outcome = .ok .nothing ∧ ∃ p calls textures samplers,
        Applied parts s.world s'.world p calls textures samplers) ∨
      (outcome = .error (.halt .abort) ∧ (sound → ¬Calls.Answered s'.world.history)) := by
  have hplay : (play (.apply name)).run.run s =
      (((m.apply.run.run s.world).1.mapError .halt).map fun _ => .nothing,
        { s with world := (m.apply.run.run s.world).2 }) := by
    refine (run_bind (materialNamed name) _ s).trans ?_
    rw [run_materialNamed hm]
    refine (run_bind (inWorld m.apply) _ s).trans ?_
    rw [run_inWorld]
    rcases m.apply.run.run s.world with ⟨_ | _, w⟩ <;> rfl
  rw [hplay] at hrun
  obtain ⟨rfl, rfl⟩ := Prod.mk.inj hrun
  rcases (Material.finishes_apply hparts hlive).outcome with ⟨_, hok, happlied⟩ | ⟨hcut, hopen⟩
  · rw [hok]
    exact .inl ⟨rfl, happlied⟩
  · rw [hcut]
    exact .inr ⟨rfl, hopen⟩

/-- Everything in the materials of a session is there. -/
theorem live_of_reached [Toolchain] [ImageCodec] {device : σ} {files : Files}
    (hs : Reached device files s)
    (hfresh : s.world.Fresh) (hm : s.objects.lookup name = some (.material m)) :
    m.Live s.world := by
  have hkept : Kept unguarded [] 0 s :=
    kept_of_reached (owns_start rfl rfl rfl trivial) rfl (fun _ ha => Action.Public.allowed ha) hs
  have hthere : ∀ {α : Type} [Pooled α] [Traced α] [Housed α] (r : Ref α),
      Traced.node r ∈ m.refs → ((Pooled.pool s.world).get? r).isSome := by
    intro α _ _ _ r hr
    obtain ⟨slot, hslot⟩ :=
      exists_slot_of_node_mem (hkept.owns_zero.mem_nodes (hkept.mem hm hr) hfresh)
    rw [Pool.get?_of_slot? hslot]
    rfl
  have hslots : ∀ {α : Type} [Traced α] {entries : List (UInt32 × Ref α)} {e : UInt32 × Ref α},
      e ∈ entries → Traced.node e.2 ∈ slotNodes entries := fun he =>
    Multiset.mem_coe.mpr (List.mem_map_of_mem he)
  refine ⟨hthere m.program (Multiset.mem_cons_self _ _), fun e he => hthere e.2 ?_,
    fun e he => hthere e.2 ?_⟩
  · exact Multiset.mem_cons_of_mem (Multiset.mem_add.mpr (.inl (hslots he)))
  · exact Multiset.mem_cons_of_mem (Multiset.mem_add.mpr (.inr (hslots he)))

/-- A material that was built and changed has the last of everything it was given. Each name has its
    last value, and there are as many values as names. To apply the material is to use its last
    program, to write the last value under each name, in the order in which the names first came, if
    that program has a location for it, and to bind the last texture and then the last sampler in
    each slot that has one, in ascending order. Nothing else is asked for but locations of uniforms.
    Only a device that leaves a request without an answer keeps this from being done. -/
theorem last_parts_applied [Toolchain] [ImageCodec] {built changes : List MaterialSetting}
    {answer : Answer} {s₁ : State σ}
    (hbuilt : (play (.make name (.material built))).run.run s = (.ok answer, s₁))
    (hchanges : allOk (changing name changes) s₁) :
    ∃ given later m, StandFor s.objects built given ∧ StandFor s₁.objects changes later ∧
      (actAll (changing name changes) s₁).objects.lookup name = some (.material m) ∧
      m.Holds (given ++ later) ∧ m.uniforms.entries.length = (names (given ++ later)).length ∧
      ∀ outcome s₂, (play (.apply name)).run.run (actAll (changing name changes) s₁) =
          (outcome, s₂) →
        (outcome = .ok .nothing ∧ ∃ p calls textures samplers,
          Applied (given ++ later) (actAll (changing name changes) s₁).world s₂.world p calls
            textures samplers) ∨
        (outcome = .error (.halt .abort) ∧ ∀ device files,
          Reached device files (actAll (changing name changes) s₁) →
          (actAll (changing name changes) s₁).world.Fresh →
            ¬Calls.Answered s₂.world.history) := by
  obtain ⟨given, m, hgiven, hholds, hm⟩ := makes_material.of_ok hbuilt
  obtain ⟨later, hlater, hm'⟩ := changes_all hm hchanges
  have hholds := hholds.changes later
  refine ⟨given, later, _, hgiven, hlater, hm', hholds, hholds.count, fun outcome s₂ hrun => ?_⟩
  have hlive : (∃ device files, Reached device files (actAll (changing name changes) s₁) ∧
      (actAll (changing name changes) s₁).world.Fresh) →
      (later.foldl change m).Live (actAll (changing name changes) s₁).world := by
    rintro ⟨device, files, hs, hfresh⟩
    exact live_of_reached hs hfresh hm'
  refine (applies_material hm' hholds hlive hrun).imp_right ?_
  rintro ⟨hcut, hopen⟩
  exact ⟨hcut, fun device files hs hfresh => hopen ⟨device, files, hs, hfresh⟩⟩

end

/-! ## A material that is painted over -/

/-- Two programs, two textures and a sampler. -/
def palette : State (GlDevice GlReference) :=
  actAll
    [.step (.make "p" (.program none none false [.input emptyStage])),
     .step (.make "q" (.program none none false [.input emptyStage])),
     .step (.make "a" (.texture ⟨4, 4, .rgba8, false, false⟩ none)),
     .step (.make "b" (.texture ⟨4, 4, .rgba8, false, false⟩ none)),
     .step (.make "x" (.sampler .standard))]
    { world := .start .reference, objects := [], files := .empty }

def firstCoat : List MaterialSetting :=
  [.uniform "u" (.float .one), .program "p", .texture 3 "a", .uniform "w" (.int 7),
   .uniform "u" (.int 2), .sampler 0 "x"]

def secondCoat : List MaterialSetting :=
  [.program "q", .uniform "u" (.int 3), .texture 1 "b", .texture 0 "a", .removeTexture 3]

/-- The material is made. -/
def painted : Except Refusal Answer × State (GlDevice GlReference) :=
  (play (.make "m" (.material firstCoat))).run.run palette

/-- The material is changed. -/
def repainted : State (GlDevice GlReference) := actAll (changing "m" secondCoat) painted.2

/-- What the material was given. -/
def coats : List MaterialPart :=
  [.uniform "u" (.float .one), .program ⟨0⟩, .texture 3 ⟨0⟩, .uniform "w" (.int 7),
   .uniform "u" (.int 2), .sampler 0 ⟨0⟩, .program ⟨1⟩, .uniform "u" (.int 3), .texture 1 ⟨1⟩,
   .texture 0 ⟨0⟩, .noTexture 3]

/-- The material is applied. -/
def paintUsed : Except Refusal Answer × State (GlDevice GlReference) :=
  (play (.apply "m")).run.run repainted

set_option maxRecDepth 2000 in
/-- One of the uniforms has no location in the second program. -/
theorem last_parts_applied_repainted :
    ∃ m, repainted.objects.lookup "m" = some (.material m) ∧ m.uniform? "u" = some (.int 3) ∧
      m.uniform? "w" = some (.int 7) ∧ m.uniforms.entries.length = 2 ∧ m.texture? 3 = none ∧
      paintUsed.1 = .ok .nothing ∧ ∃ p calls textures samplers,
        Applied coats repainted.world paintUsed.2.world p calls textures samplers ∧
        Calls.besidesLookUps calls =
          [.useProgram (some ⟨4, by decide⟩), .setUniform 0 (.int 3),
           .bindTexture 0 (some ⟨5, by decide⟩), .bindTexture 1 (some ⟨6, by decide⟩),
           .bindSampler 0 (some ⟨7, by decide⟩)] := by
  have hbuilt : painted.1.isOk := by decide +kernel
  have hchanges : allOk (changing "m" secondCoat) painted.2 := by decide +kernel
  have hcoats : firstCoat.map (MaterialSetting.part? palette.objects) ++
      secondCoat.map (MaterialSetting.part? painted.2.objects) = coats.map some := by
    decide +kernel
  have hok : paintUsed.1.isOk := by decide +kernel
  have hasked : Calls.besidesLookUps
      (paintUsed.2.world.history.drop repainted.world.history.length) =
        [.useProgram (some ⟨4, by decide⟩), .setUniform 0 (.int 3),
         .bindTexture 0 (some ⟨5, by decide⟩), .bindTexture 1 (some ⟨6, by decide⟩),
         .bindSampler 0 (some ⟨7, by decide⟩)] := by decide +kernel
  rcases hpainted : painted.1 with e | answer
  · rw [hpainted] at hbuilt
    cases hbuilt
  obtain ⟨given, later, m, hgiven, hlater, hm, hholds, hcount, happly⟩ :=
    last_parts_applied (Prod.ext hpainted rfl : painted = (.ok answer, painted.2)) hchanges
  have hparts : given ++ later = coats := by
    refine List.map_injective_iff.mpr (Option.some_injective _) ?_
    rw [List.map_append, ← hgiven, ← hlater, hcoats]
  rw [hparts] at hholds hcount happly
  refine ⟨m, hm, hholds.value "u", hholds.value "w", hcount, hholds.texture 3, ?_⟩
  rcases happly paintUsed.1 paintUsed.2 rfl with
    ⟨hnothing, p, calls, textures, samplers, h⟩ | ⟨hcut, -⟩
  · refine ⟨hnothing, p, calls, textures, samplers, h, ?_⟩
    have hhistory : paintUsed.2.world.history = repainted.world.history ++ calls := h.history
    rwa [hhistory, List.drop_left] at hasked
  · rw [hcut] at hok
    cases hok

end RenderKit.Session
