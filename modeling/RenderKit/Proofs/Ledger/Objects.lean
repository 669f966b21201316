import RenderKit.Proofs.Keys
import RenderKit.Proofs.Ledger.Commands

set_option autoImplicit false

/-! # Books of a session

The named objects of a session own what they refer to. Some objects are given away with their
names: what they refer to belongs to the guard, and the session only looks at them. -/

namespace RenderKit.Session

open Pipeline (bufferNodes)

/-- The references that an object owns. -/
def Object.refs : Object → Multiset Node
  | .buffer r => {.buffer r}
  | .texture r => {.texture r}
  | .sampler r => {.sampler r}
  | .attachment a => ↑(a.owned.map Node.texture)
  | .framebuffer r => {.framebuffer r}
  | .layout _ => 0
  | .program r => {.program r}
  | .pipeline r => {.pipeline r}
  | .pass p => p.refs
  | .mesh m => m.refs
  | .material m => m.refs
  | .context _ => 0
  | .commands c => c.refs

def Object.Ordered : Object → Prop
  | .material m => m.Ordered
  | _ => True

theorem runs_discard {σ : Type} [InstrumentedDevice σ] {g : Guard σ} {ext : Multiset Node}
    {w : World σ} {E : World σ → Prop} {o : Object} (hb : Owns g (o.refs + ext) w) :
    Runs (discard o) w (fun _ => Owns g ext) E := by
  cases o with
  | buffer r => exact runs_release (hb.congr (Multiset.singleton_add _ _))
  | texture r => exact runs_release (hb.congr (Multiset.singleton_add _ _))
  | sampler r => exact runs_release (hb.congr (Multiset.singleton_add _ _))
  | attachment a => exact Attachment.runs_discard hb
  | framebuffer r => exact runs_release (hb.congr (Multiset.singleton_add _ _))
  | layout l => exact Runs.pure (hb.congr (zero_add ext))
  | program r => exact runs_release (hb.congr (Multiset.singleton_add _ _))
  | pipeline r => exact runs_release (hb.congr (Multiset.singleton_add _ _))
  | pass p => exact RenderPass.runs_discard hb
  | mesh m => exact Mesh.runs_discard hb
  | material m => exact Material.runs_discard hb
  | context c => exact RenderContext.runs_discard (c := c) (hb.congr (zero_add ext))
  | commands c => exact CommandBuffer.runs_discard hb

/-! ## Names -/

section Names

variable {theirs objects : List (Name × Object)} {name other : Name} {o old : Object}
  {e : Name × Object}

/-- Whether a name is not given away. -/
def free (theirs : List (Name × Object)) (name : Name) : Bool := (theirs.lookup name).isNone

@[simp] theorem free_nil : free [] name = true := rfl

/-- What objects own that are not given away. -/
def refsOf (theirs : List (Name × Object)) : List (Name × Object) → Multiset Node
  | [] => 0
  | e :: rest => (if free theirs e.1 then e.2.refs else 0) + refsOf theirs rest

theorem mem_of_lookup (h : objects.lookup name = some o) : (name, o) ∈ objects := by
  obtain ⟨front, back, rfl, -⟩ := List.lookup_eq_some_iff.mp h
  simp

theorem mem_of_mem_put (h : e ∈ put objects name o) : e = (name, o) ∨ e ∈ objects := by
  induction objects with
  | nil => exact .inl (List.mem_singleton.mp h)
  | cons first rest ih =>
      unfold put at h
      split at h
      · exact (List.mem_cons.mp h).imp_right (List.mem_cons_of_mem _)
      · rcases List.mem_cons.mp h with rfl | h
        · exact .inr List.mem_cons_self
        · exact (ih h).imp_right (List.mem_cons_of_mem _)

theorem nodup_put (h : (objects.map Prod.fst).Nodup) :
    ((put objects name o).map Prod.fst).Nodup := by
  induction objects with
  | nil => exact List.nodup_singleton _
  | cons first rest ih =>
      obtain ⟨hfirst, hrest⟩ := List.nodup_cons.mp h
      unfold put
      split
      · rename_i heq
        exact List.nodup_cons.mpr ⟨heq ▸ hfirst, hrest⟩
      · rename_i hne
        refine List.nodup_cons.mpr ⟨fun hmem => ?_, ih hrest⟩
        obtain ⟨e, he, heq⟩ := List.mem_map.mp hmem
        rcases mem_of_mem_put he with rfl | he
        · exact hne heq.symm
        · exact hfirst (heq ▸ List.mem_map_of_mem he)

theorem lookup_put_self : (put objects name o).lookup name = some o := by
  induction objects with
  | nil => exact List.lookup_cons_self
  | cons first rest ih =>
      unfold put
      split
      · exact List.lookup_cons_self
      · rename_i hfirst
        rwa [lookup_cons_eq, if_neg (Ne.symm hfirst)]

theorem lookup_put_of_ne (hne : other ≠ name) :
    (put objects name o).lookup other = objects.lookup other := by
  induction objects with
  | nil => exact lookup_cons_of_ne hne
  | cons first rest ih =>
      unfold put
      split
      · rename_i hfirst
        rw [lookup_cons_of_ne hne, lookup_cons_eq, if_neg (hfirst ▸ hne)]
      · rw [lookup_cons_eq, lookup_cons_eq, ih]

/-- A name that is not given away is none of the others. -/
theorem ne_of_free (hname : free theirs name) (h : theirs.lookup other = some o) :
    other ≠ name := by
  rintro rfl
  simp [free, h] at hname

/-- A reference of an object is one of the session. -/
theorem mem_refsOf (hname : free theirs name) (h : (name, o) ∈ objects) {n : Node}
    (hn : n ∈ o.refs) : n ∈ refsOf theirs objects := by
  induction objects with
  | nil => cases h
  | cons first rest ih =>
      rw [refsOf, Multiset.mem_add]
      rcases List.mem_cons.mp h with rfl | h
      · rw [if_pos hname]
        exact .inl hn
      · exact .inr (ih h)

/-- An object under a name takes the place of the one that was there. -/
theorem refsOf_put (hname : free theirs name) :
    (objects.lookup name).elim 0 Object.refs + refsOf theirs (put objects name o) =
      o.refs + refsOf theirs objects := by
  induction objects with
  | nil => simp [put, refsOf, hname]
  | cons first rest ih =>
      obtain ⟨key, value⟩ := first
      by_cases heq : key = name
      · subst heq
        simp only [put, refsOf, hname, if_true, List.lookup_cons_self, Option.elim_some]
        ac_rfl
      · rw [lookup_cons_of_ne (Ne.symm heq)]
        simp only [put, refsOf, heq, if_false] at ih ⊢
        rw [add_left_comm, ih]
        ac_rfl

/-- An object takes the place of one with other references. -/
theorem refsOf_put_of_lookup (hname : free theirs name) (h : objects.lookup name = some old)
    {ext : Multiset Node} (hext : refsOf theirs objects = old.refs + ext) :
    refsOf theirs (put objects name o) = o.refs + ext := by
  have hput : _ + refsOf theirs (put objects name o) = _ := refsOf_put hname
  rw [h, hext, add_left_comm] at hput
  exact Multiset.add_right_inj.mp hput

/-- An object under another name does not count any more. -/
theorem refsOf_filter (hname : free theirs name) (hnodup : (objects.map Prod.fst).Nodup)
    (h : objects.lookup name = some o) :
    o.refs + refsOf theirs (objects.filter fun e => e.1 ≠ name) = refsOf theirs objects := by
  induction objects with
  | nil => cases h
  | cons first rest ih =>
      obtain ⟨key, value⟩ := first
      obtain ⟨hfirst, hrest⟩ := List.nodup_cons.mp hnodup
      by_cases heq : key = name
      · subst heq
        rw [List.lookup_cons_self] at h
        cases h
        have hall : rest.filter (fun e => e.1 ≠ key) = rest := by
          refine List.filter_eq_self.mpr fun e he => ?_
          have hne : e.1 ≠ key := by
            rintro heq
            exact hfirst (List.mem_map.mpr ⟨e, he, heq⟩)
          simpa using hne
        rw [List.filter_cons_of_neg (by simp), hall, refsOf, if_pos hname]
      · rw [lookup_cons_of_ne (Ne.symm heq)] at h
        rw [List.filter_cons_of_pos (by simpa using heq), refsOf, refsOf, add_left_comm, ih hrest h]

end Names

/-! ## Keeping the books of a session -/

variable {σ : Type} [InstrumentedDevice σ] {g : Guard σ} {theirs : List (Name × Object)}
  {extra : Multiset Node} {s : State σ} {E : State σ → Prop}

/-- The books of a session that is about to do something with references that no name has. -/
structure Kept (g : Guard σ) (theirs : List (Name × Object)) (extra : Multiset Node)
    (s : State σ) : Prop where
  owns : Owns g (extra + refsOf theirs s.objects) s.world
  ordered : ∀ e ∈ s.objects, e.2.Ordered
  names : (s.objects.map Prod.fst).Nodup
  /-- Who was given away still stands for the same object. -/
  theirs : ∀ name o, theirs.lookup name = some o →
    s.objects.lookup name = some o ∧ ∀ n ∈ o.refs, n ∈ g.tokens

/-- The references of a named object have owners. -/
theorem Kept.mem (hs : Kept g theirs extra s) {name : Name} {o : Object}
    (h : s.objects.lookup name = some o) {n : Node} (hn : n ∈ o.refs) :
    n ∈ g.tokens + refsOf theirs s.objects := by
  rw [Multiset.mem_add]
  rcases hother : theirs.lookup name with _ | other
  · exact .inr (mem_refsOf (by simp [free, hother]) (mem_of_lookup h) hn)
  · obtain ⟨hlookup, htokens⟩ := hs.theirs name other hother
    rw [h] at hlookup
    cases hlookup
    exact .inl (htokens n hn)

theorem Kept.ordered_of_lookup (hs : Kept g theirs extra s) {name : Name} {o : Object}
    (h : s.objects.lookup name = some o) : o.Ordered :=
  hs.ordered _ (mem_of_lookup h)

omit [InstrumentedDevice σ] in
/-- What the session does in its world. -/
theorem runs_inWorld {α : Type} {t : Render σ α} {P : α → World σ → Prop} {D : World σ → Prop}
    (ht : Runs t s.world P D) :
    Runs (inWorld t) s (fun a s' => s' = { s with world := s'.world } ∧ P a s'.world)
      (fun s' => s' = { s with world := s'.world } ∧ D s'.world) := by
  refine Runs.bind_get ?_
  unfold Runs at ht
  rcases hout : t.run.run s.world with ⟨h | a, w⟩
  all_goals
    rw [hout] at ht
    refine Runs.bind_set ?_
  · exact ht.imp (congrArg Refusal.halt) fun hD => ⟨rfl, hD⟩
  · exact Runs.pure ⟨rfl, ht⟩

/-- The session goes on with a world in which its books are kept. -/
theorem Kept.of_world (hs : Kept g theirs extra s) {extra' : Multiset Node} {s' : State σ}
    (hs' : s' = { s with world := s'.world })
    (howns : Owns g (extra' + refsOf theirs s.objects) s'.world) : Kept g theirs extra' s' := by
  have hobjects : s'.objects = s.objects := by rw [hs']
  refine ⟨?_, ?_, ?_, ?_⟩
  all_goals rw [hobjects]
  · exact howns
  · exact hs.ordered
  · exact hs.names
  · exact hs.theirs

/-- A task in the world that makes something or fails. -/
theorem Kept.runs_make {α : Type} {t : Render σ α} {after : α → Multiset Node}
    (hs : Kept g theirs extra s)
    (ht : Runs t s.world (fun a => Owns g (after a + refsOf theirs s.objects))
      (Owns g (refsOf theirs s.objects))) :
    Runs (inWorld t) s (fun a s' => s'.objects = s.objects ∧ Kept g theirs (after a) s')
      (Kept g theirs 0) := by
  refine (runs_inWorld ht).mono ?_ ?_
  · rintro a s' ⟨hs', howns⟩
    exact ⟨by rw [hs'], hs.of_world hs' howns⟩
  · rintro s' ⟨hs', howns⟩
    exact hs.of_world hs' (by simpa using howns)

/-- A task in the world that leaves the books as they are. -/
theorem Kept.runs_use {α : Type} {t : Render σ α} (hs : Kept g theirs extra s)
    (ht : Runs t s.world (fun _ => Owns g (refsOf theirs s.objects))
      (Owns g (refsOf theirs s.objects))) :
    Runs (inWorld t) s (fun _ => Kept g theirs 0) (Kept g theirs 0) :=
  (hs.runs_make (ht.imp fun _ _ h => h.congr (zero_add _).symm)).imp fun _ _ h => h.2

omit [InstrumentedDevice σ] in
/-- A task in the world that changes nothing and does not fail. -/
theorem runs_look {α : Type} {t : Render σ α} {P : α → World σ → Prop}
    (ht : Runs t s.world (fun a w => w = s.world ∧ P a w) (fun _ => False)) :
    Runs (inWorld t) s (fun a s' => s' = s ∧ P a s.world) E := by
  refine (runs_inWorld ht).mono ?_ fun s' h => h.2.elim
  rintro a s' ⟨hs', hworld, hP⟩
  rw [hworld] at hs' hP
  exact ⟨hs', hP⟩

/-- The books of a session in its world. -/
theorem Kept.owns_zero (hs : Kept g theirs 0 s) : Owns g (refsOf theirs s.objects) s.world := by
  simpa using hs.owns

/-! ## Looking objects up -/

omit [InstrumentedDevice σ] in
theorem runs_noObject {α : Type} {Q : α → State σ → Prop} (hE : E s) :
    Runs (throw .noObject : Play σ α) s Q E := .inr hE

omit [InstrumentedDevice σ] in
theorem runs_object {name : Name} (hE : E s) :
    Runs (object name) s (fun o s' => s' = s ∧ s.objects.lookup name = some o) E := by
  unfold object
  refine Runs.bind_get ?_
  split
  · rename_i o ho
    exact Runs.pure ⟨rfl, ho⟩
  · exact runs_noObject hE

omit [InstrumentedDevice σ] in
/-- Look up an object of one kind. -/
theorem runs_pick {α : Type} {pick : Object → Play σ α} {kind : α → Object} {name : Name}
    (hE : E s) (hpick : ∀ o, (∃ a, o = kind a ∧ pick o = pure a) ∨ pick o = throw .noObject) :
    Runs (object name >>= pick) s
      (fun a s' => s' = s ∧ s.objects.lookup name = some (kind a)) E := by
  refine Runs.bind_same (runs_object hE) fun o ho => ?_
  rcases hpick o with ⟨a, rfl, ha⟩ | ha
  all_goals rw [ha]
  · exact Runs.pure ⟨rfl, ho⟩
  · exact runs_noObject hE

section Kinds

omit [InstrumentedDevice σ]

variable {name : Name} (hE : E s)

include hE

theorem runs_bufferNamed : Runs (bufferNamed name) s
    (fun r s' => s' = s ∧ s.objects.lookup name = some (.buffer r)) E :=
  runs_pick hE fun o => by cases o <;> first | exact .inl ⟨_, rfl, rfl⟩ | exact .inr rfl

theorem runs_textureNamed : Runs (textureNamed name) s
    (fun r s' => s' = s ∧ s.objects.lookup name = some (.texture r)) E :=
  runs_pick hE fun o => by cases o <;> first | exact .inl ⟨_, rfl, rfl⟩ | exact .inr rfl

theorem runs_samplerNamed : Runs (samplerNamed name) s
    (fun r s' => s' = s ∧ s.objects.lookup name = some (.sampler r)) E :=
  runs_pick hE fun o => by cases o <;> first | exact .inl ⟨_, rfl, rfl⟩ | exact .inr rfl

theorem runs_attachmentNamed : Runs (attachmentNamed name) s
    (fun a s' => s' = s ∧ s.objects.lookup name = some (.attachment a)) E :=
  runs_pick hE fun o => by cases o <;> first | exact .inl ⟨_, rfl, rfl⟩ | exact .inr rfl

theorem runs_framebufferNamed : Runs (framebufferNamed name) s
    (fun r s' => s' = s ∧ s.objects.lookup name = some (.framebuffer r)) E :=
  runs_pick hE fun o => by cases o <;> first | exact .inl ⟨_, rfl, rfl⟩ | exact .inr rfl

theorem runs_layoutNamed : Runs (layoutNamed name) s
    (fun l s' => s' = s ∧ s.objects.lookup name = some (.layout l)) E :=
  runs_pick hE fun o => by cases o <;> first | exact .inl ⟨_, rfl, rfl⟩ | exact .inr rfl

theorem runs_programNamed : Runs (programNamed name) s
    (fun r s' => s' = s ∧ s.objects.lookup name = some (.program r)) E :=
  runs_pick hE fun o => by cases o <;> first | exact .inl ⟨_, rfl, rfl⟩ | exact .inr rfl

theorem runs_pipelineNamed : Runs (pipelineNamed name) s
    (fun r s' => s' = s ∧ s.objects.lookup name = some (.pipeline r)) E :=
  runs_pick hE fun o => by cases o <;> first | exact .inl ⟨_, rfl, rfl⟩ | exact .inr rfl

theorem runs_passNamed : Runs (passNamed name) s
    (fun p s' => s' = s ∧ s.objects.lookup name = some (.pass p)) E :=
  runs_pick hE fun o => by cases o <;> first | exact .inl ⟨_, rfl, rfl⟩ | exact .inr rfl

theorem runs_meshNamed : Runs (meshNamed name) s
    (fun m s' => s' = s ∧ s.objects.lookup name = some (.mesh m)) E :=
  runs_pick hE fun o => by cases o <;> first | exact .inl ⟨_, rfl, rfl⟩ | exact .inr rfl

theorem runs_materialNamed : Runs (materialNamed name) s
    (fun m s' => s' = s ∧ s.objects.lookup name = some (.material m)) E :=
  runs_pick hE fun o => by cases o <;> first | exact .inl ⟨_, rfl, rfl⟩ | exact .inr rfl

theorem runs_contextNamed : Runs (contextNamed name) s
    (fun c s' => s' = s ∧ s.objects.lookup name = some (.context c)) E :=
  runs_pick hE fun o => by cases o <;> first | exact .inl ⟨_, rfl, rfl⟩ | exact .inr rfl

theorem runs_commandsNamed : Runs (commandsNamed name) s
    (fun c s' => s' = s ∧ s.objects.lookup name = some (.commands c)) E :=
  runs_pick hE fun o => by cases o <;> first | exact .inl ⟨_, rfl, rfl⟩ | exact .inr rfl

end Kinds

/-- A command of a command buffer that is known, and what it comes to in the world. -/
theorem runs_playCommand [Toolchain] [ImageCodec] {name : Name} {k : Command} {c : CommandBuffer}
    {Q : World σ → Prop} {E : State σ → Prop} (hE : E s)
    (hc : s.objects.lookup name = some (.commands c))
    (hk : Runs (command k) s
      (fun i s' => s' = s ∧ Runs (i.perform c) s.world (fun _ => Q)
        (fun w => E { s with world := w })) E) :
    Runs (play (.command name k)) s (fun _ s' => Q s'.world) E := by
  refine Runs.bind_same hk fun i hi => ?_
  refine Runs.bind_same (runs_commandsNamed hE) fun c' hc' => ?_
  rw [hc] at hc'
  cases hc'
  refine Runs.bind ((runs_inWorld hi).mono (fun _ _ h => h.2) ?_) fun _ _ h =>
    Runs.bind_modify (Runs.pure h)
  rintro s' ⟨hs', h⟩
  rw [hs']
  exact h

end RenderKit.Session
