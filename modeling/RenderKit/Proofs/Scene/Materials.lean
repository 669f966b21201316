import RenderKit.Proofs.Scene.Parts
import RenderKit.Proofs.Targets.Completion
import RenderKit.Proofs.Uniforms.Cache

set_option autoImplicit false

/-! # How materials are applied

To apply a material is to use its program, to write each of its uniforms that has a location there,
and to bind what is in its slots. Besides that, only locations are asked for. The material has the
last parts it was given, so these are what is written and bound: values in the order in which their
names first came, textures and samplers in the order of their slots. -/

namespace RenderKit

open MaterialPart

/-! ## Tasks that come to something -/

section Finishing

variable {σ α β : Type} {sound : Prop} {w w' : World σ} {P Q : α → World σ → Prop}
  {R : β → World σ → Prop}

/-- A task comes to something, of which this is known, unless it is cut off. That happens only if
    the device leaves a request without an answer, as long as references are sound. -/
structure Finishes (sound : Prop) (t : Render σ α) (w : World σ) (Q : α → World σ → Prop) :
    Prop where
  runs : Runs t w Q (fun _ => False)
  completes : sound → Completes t w

namespace Finishes

theorem mono {t : Render σ α} (ht : Finishes sound t w P) (hPQ : ∀ a w', P a w' → Q a w') :
    Finishes sound t w Q := ⟨ht.runs.imp hPQ, ht.completes⟩

theorem pure {a : α} (h : Q a w) : Finishes sound (Pure.pure a) w Q := ⟨.pure h, fun _ => .pure⟩

theorem bind {t : Render σ α} {f : α → Render σ β} (ht : Finishes sound t w P)
    (hf : ∀ a w', P a w' → Finishes sound (f a) w' R) : Finishes sound (t >>= f) w R :=
  ⟨.bind ht.runs fun a w' h => (hf a w' h).runs,
    fun hs => (ht.completes hs).bind ht.runs fun a w' h => (hf a w' h).completes hs⟩

theorem view [Pooled α] {r : Ref α} (h : sound → ((Pooled.pool w).get? r).isSome) :
    Finishes sound (RenderKit.view r) w
      fun a w' => w' = w ∧ (Pooled.pool w).get? r = some a := by
  refine ⟨runs_view, fun hs => ?_⟩
  obtain ⟨a, ha⟩ := Option.isSome_iff_exists.mp (h hs)
  exact .view ha

theorem ask [GraphicsDevice σ] {q : Request} :
    Finishes sound (RenderKit.ask q) w fun reply w' =>
      w' = w.asked q ∧ (GraphicsDevice.perform q w.device).reply = some reply :=
  ⟨runs_ask, fun _ => .ask⟩

theorem bind_note {severity : Severity} {source message : String} {f : Unit → Render σ β}
    (h : Finishes sound (f ()) (HasJournal.note ⟨severity, source, message⟩ w) R) :
    Finishes sound (note severity source message >>= f) w R := ⟨h.runs, h.completes⟩

theorem bind_modify {m : World σ → World σ} {f : PUnit → Render σ β}
    (h : Finishes sound (f ⟨⟩) (m w) R) : Finishes sound (modify m >>= f) w R :=
  ⟨h.runs, h.completes⟩

/-- What becomes of the task. -/
theorem outcome {t : Render σ α} (ht : Finishes sound t w Q) :
    (∃ a, (t.run.run w).1 = .ok a ∧ Q a (t.run.run w).2) ∨
      ((t.run.run w).1 = .error .abort ∧ (sound → ¬Calls.Answered (t.run.run w).2.history)) := by
  rcases hrun : t.run.run w with ⟨e | a, w'⟩
  · have hcut : e = .abort := by
      by_contra hne
      exact ht.runs.of_error hrun hne
    exact .inr ⟨congrArg Except.error hcut, fun hs => ht.completes hs w' (hcut ▸ hrun)⟩
  · exact .inl ⟨a, rfl, ht.runs.of_ok hrun⟩

end Finishes

end Finishing

/-! ## What is asked for -/

def Request.isLookUp (r : Request) : Bool := r matches .uniformLocation _ _

/-- What calls ask for besides locations of uniforms. -/
def Calls.besidesLookUps (calls : List Call) : List Request :=
  (calls.map Call.request).filter fun r => !r.isLookUp

theorem Calls.besidesLookUps_append (calls more : List Call) :
    besidesLookUps (calls ++ more) = besidesLookUps calls ++ besidesLookUps more := by
  rw [besidesLookUps, List.map_append, List.filter_append]
  rfl

/-- What writes a value under a name, if the program has a location for it. -/
def Program.write? (p : Program) (key : String) (value : UniformValue) : Option Request :=
  match p.locations.lookup key with
  | none => none
  | some location => if 0 ≤ location then some (.setUniform location value) else none

section Locations

variable {p : Program} {calls : List Call} {key : String} {location : Int32}

theorem Program.lookup_told_append (more : List Call)
    (h : (p.told calls).locations.lookup key = some location) :
    (p.told (calls ++ more)).locations.lookup key = some location := by
  have happend : (p.told (calls ++ more)).locations =
      (p.told calls).locations ++ Calls.locations p.handle more := by
    simp [locations_told, Calls.locations]
  rw [happend, List.lookup_append, h]
  rfl

theorem Program.write?_told_append (more : List Call) (value : UniformValue)
    (h : ((p.told calls).locations.lookup key).isSome) :
    (p.told (calls ++ more)).write? key value = (p.told calls).write? key value := by
  obtain ⟨location, h⟩ := Option.isSome_iff_exists.mp h
  rw [write?, write?, h, lookup_told_append more h]

end Locations

/-- What is bound in slots, in ascending order, if each slot has some occupant. -/
structure Bound {α : Type} {kind : ObjectKind} (pool : Pool α) (handle : α → Handle kind)
    (occupant : UInt32 → Option (Ref α)) (bound : List (UInt32 × Handle kind)) : Prop where
  ascending : Ascending bound
  found : ∀ slot, (bound.lookup slot).map some =
    (occupant slot).map fun r => (pool.get? r).map handle

theorem bound_of_entries {α : Type} {kind : ObjectKind} {pool : Pool α} {handle : α → Handle kind}
    {entries : List (UInt32 × Ref α)} {bound : List (UInt32 × Handle kind)}
    (hentries : Ascending entries)
    (h : (bound.map fun b => (b.1, some b.2)) =
      entries.map fun e => (e.1, (pool.get? e.2).map handle)) :
    Bound pool handle (List.lookup · entries) bound := by
  constructor
  · have hslots : bound.map Prod.fst = entries.map Prod.fst := by
      have := congrArg (List.map Prod.fst) h
      rwa [List.map_map, List.map_map] at this
    have hascending : (entries.map Prod.fst).Pairwise (· < ·) := List.pairwise_map.mpr hentries
    rw [← hslots] at hascending
    exact List.pairwise_map.mp hascending
  · intro slot
    have := congrArg (List.lookup slot) h
    rwa [lookup_map_values, lookup_map_values entries fun r => (pool.get? r).map handle] at this

/-- What is asked for to apply a material, with what is written to its uniforms. -/
def applyRequests (program : ProgramHandle) (writes : List Request)
    (textures : List (UInt32 × TextureHandle)) (samplers : List (UInt32 × SamplerHandle)) :
    List Request :=
  .useProgram (some program) :: (writes ++ (textures.map fun t => .bindTexture t.1 (some t.2)) ++
    samplers.map fun s => .bindSampler s.1 (some s.2))

/-! ## What applying comes to -/

section Applying

variable {σ : Type} [GraphicsDevice σ] {sound : Prop} {r : Ref Program} {p : Program}
  {start w : World σ} {new : List Call} {key : String} {value : UniformValue}

/-- Some calls were made since a world, and from these a program was told locations. -/
structure Underway (r : Ref Program) (p : Program) (start : World σ) (new : List Call)
    (w : World σ) : Prop where
  object : (w.programs.get? r).map Program.settled = some (p.told new)
  history : w.history = start.history ++ new
  textures : w.textures = start.textures
  samplers : w.samplers = start.samplers

theorem Underway.asked (h : Underway r p start new w) {q : Request} {reply : q.Reply}
    (hq : q.isLookUp = false)
    (hreply : (GraphicsDevice.perform q w.device).reply = some reply) :
    Underway r p start (new ++ [⟨q, some reply⟩]) (w.asked q) := by
  refine ⟨?_, ?_, h.textures, h.samplers⟩
  · rw [Program.told_other fun name hname => ?_]
    · exact h.object
    · rw [show q = .uniformLocation p.handle name from hname] at hq
      cases hq
  · rw [history_asked hreply, h.history, List.append_assoc]

/-- Something is asked for that is no look-up. -/
theorem finishes_ask (h : Underway r p start new w) {q : Request} (hq : q.isLookUp = false) :
    Finishes sound (ask q) w fun _ w' => ∃ more,
      Underway r p start (new ++ more) w' ∧ Calls.besidesLookUps more = [q] := by
  refine Finishes.ask.mono ?_
  rintro reply _ ⟨rfl, hreply⟩
  exact ⟨_, h.asked hq hreply, by simp [Calls.besidesLookUps, hq]⟩

/-- Before anything else the program is used. -/
theorem finishes_use (hlive : sound → (w.programs.get? r).isSome) :
    Finishes sound (Program.bind r) w fun _ w' => ∃ p calls, w.programs.get? r = some p ∧
      Underway r p w calls w' ∧ Calls.besidesLookUps calls = [.useProgram (some p.handle)] := by
  refine (Finishes.view hlive).bind ?_
  rintro p w ⟨rfl, hp⟩
  have hstart : Underway r p w [] w := by
    refine ⟨?_, (List.append_nil _).symm, rfl, rfl⟩
    rw [show w.programs.get? r = some p from hp, Program.told_nil]
    rfl
  refine (finishes_ask hstart rfl).mono ?_
  rintro _ w' ⟨calls, h', hcalls⟩
  exact ⟨p, calls, hp, h', hcalls⟩

theorem completes_uniformLocation {q : Program} (hq : w.programs.get? r = some q) (key : String) :
    Completes (Program.uniformLocation r key) w := by
  intro w' hrun
  rw [Program.run_uniformLocation hq] at hrun
  cases hlookup : q.locations.lookup key with
  | some location =>
    rw [hlookup] at hrun
    cases hrun
  | none =>
    rw [hlookup] at hrun
    dsimp only at hrun
    rcases hreply : (GraphicsDevice.perform (.uniformLocation q.handle key) w.device).reply with
      _ | (location : Int32)
    · rw [hreply] at hrun
      obtain ⟨-, rfl⟩ := Prod.mk.inj hrun
      rw [World.altered, history_setPool]
      refine (Completes.ask : Completes (ask (.uniformLocation q.handle key)) w) _ ?_
      rw [run_ask, hreply]
    · rw [hreply] at hrun
      cases hrun

/-- The location of a uniform is one that the program knows, if need be because it was told. -/
theorem finishes_uniformLocation (h : Underway r p start new w) (key : String) :
    Finishes sound (Program.uniformLocation r key) w fun location w' => ∃ more,
      Underway r p start (new ++ more) w' ∧ Calls.besidesLookUps more = [] ∧
        (p.told (new ++ more)).locations.lookup key = some location := by
  obtain ⟨q, hq, hsettled⟩ := Option.map_eq_some_iff.mp h.object
  have hhandle : q.handle = p.handle := by
    show q.settled.handle = _
    rw [hsettled]
    rfl
  have hlocations : q.locations = (p.told new).locations := by
    rw [← q.locations_settled, hsettled]
  refine ⟨Program.runs_locating (fun q' location hq' hknown => ?_)
    fun q' location hq' hunknown hreply => ?_, fun _ => completes_uniformLocation hq key⟩
  all_goals obtain rfl : q' = q := Option.some.inj (hq'.symm.trans hq)
  · refine ⟨[], ⟨?_, ?_, h.textures, h.samplers⟩, rfl, ?_⟩
    · rw [get?_altered _ hq, List.append_nil, ← hsettled]
      exact congrArg some q'.settled_settled
    · rw [World.altered, history_setPool, h.history, List.append_nil]
    · rw [List.append_nil, ← hlocations, hknown]
  · rw [hlocations] at hunknown
    rw [hhandle] at hreply ⊢
    have htold : p.told (new ++ [⟨.uniformLocation p.handle key, some location⟩]) =
        (p.told new).learn key location := Program.told_lookUp key (some location)
    obtain ⟨journal, hnoted⟩ := exists_noted location key p.handle
      (w.asked (.uniformLocation p.handle key))
    rw [hnoted]
    refine ⟨[⟨.uniformLocation p.handle key, some location⟩],
      ⟨?_, ?_, h.textures, h.samplers⟩, rfl, ?_⟩
    · refine (congrArg (Option.map Program.settled) (get?_altered _ hq)).trans
        (congrArg some ((q'.settled_learn key location).trans ?_))
      rw [hsettled]
      exact htold.symm
    · refine (history_setPool _ _).trans ((history_asked hreply).trans ?_)
      rw [h.history, List.append_assoc]
    · rw [htold, Program.locations, Program.remembered_learn]
      show ((p.told new).locations ++ [(key, location)]).lookup key = some location
      rw [List.lookup_append, hunknown]
      simp

/-- A uniform is written if it has a location. -/
theorem finishes_setUniform (h : Underway r p start new w) (key : String)
    (value : UniformValue) :
    Finishes sound (Program.setUniform r key value) w fun _ w' => ∃ more,
      Underway r p start (new ++ more) w' ∧
        ((p.told (new ++ more)).locations.lookup key).isSome ∧
        Calls.besidesLookUps more = ((p.told (new ++ more)).write? key value).toList := by
  refine (finishes_uniformLocation h key).bind ?_
  rintro location w₁ ⟨looked, h₁, hlooked, hlookup⟩
  have hwrite : (p.told (new ++ looked)).write? key value =
      if 0 ≤ location then some (.setUniform location value) else none := by
    rw [Program.write?, hlookup]
  split
  · rename_i hnone
    rw [if_neg (Int32.not_le.mpr hnone)] at hwrite
    exact .pure ⟨looked, h₁, by rw [hlookup]; rfl, by rw [hlooked, hwrite]; rfl⟩
  · rename_i hfound
    rw [if_pos (Int32.not_lt.mp hfound)] at hwrite
    refine (finishes_ask h₁ rfl).bind ?_
    rintro _ w₂ ⟨written, h₂, hwritten⟩
    have hsame := Program.lookup_told_append written hlookup
    rw [List.append_assoc] at h₂ hsame
    refine .pure ⟨looked ++ written, h₂, by rw [hsame]; rfl, ?_⟩
    rw [Calls.besidesLookUps_append, hlooked, hwritten, ← List.append_assoc,
      Program.write?_told_append _ _ (by rw [hlookup]; rfl), hwrite]
    rfl

theorem finishes_applyUniforms (h : Underway r p start new w)
    (uniforms : List (String × UniformValue)) :
    Finishes sound (Material.applyUniforms r uniforms) w fun _ w' => ∃ more,
      Underway r p start (new ++ more) w' ∧
        (∀ u ∈ uniforms, ((p.told (new ++ more)).locations.lookup u.1).isSome) ∧
        Calls.besidesLookUps more =
          uniforms.filterMap fun u => (p.told (new ++ more)).write? u.1 u.2 := by
  induction uniforms generalizing new w with
  | nil => exact .pure ⟨[], by rwa [List.append_nil], by simp, rfl⟩
  | cons u rest ih =>
    obtain ⟨key, value⟩ := u
    refine (finishes_setUniform h key value).bind ?_
    rintro _ w₁ ⟨first, h₁, hlocated, hfirst⟩
    refine (ih h₁).mono ?_
    rintro _ w₂ ⟨more, h₂, hrest, hmore⟩
    -- what the program knows of a name does not change any more
    have hsame := Program.write?_told_append more value hlocated
    obtain ⟨location, hlookup⟩ := Option.isSome_iff_exists.mp hlocated
    have hlookup := Program.lookup_told_append more hlookup
    rw [List.append_assoc] at h₂ hrest hmore hsame hlookup
    refine ⟨first ++ more, h₂, ?_, ?_⟩
    · exact List.forall_mem_cons.mpr ⟨by rw [hlookup]; rfl, hrest⟩
    · rw [Calls.besidesLookUps_append, hfirst, hmore, ← hsame, List.filterMap_cons]
      cases (p.told (new ++ (first ++ more))).write? key value <;> rfl

/-! ### Slots -/

omit [GraphicsDevice σ] in
/-- What is in slots is looked at and bound, one after the other. -/
theorem finishes_bindAll {α : Type} {kind : ObjectKind} {pool : Pool α}
    {bind : Ref α → UInt32 → Render σ Unit} {entries : List (UInt32 × Ref α)}
    (handle : α → Handle kind) (request : UInt32 → Handle kind → Request)
    (hbind : ∀ (new : List Call) (w : World σ) (x : Ref α) (slot : UInt32),
      Underway r p start new w → (sound → (pool.get? x).isSome) →
      Finishes sound (bind x slot) w fun _ w' => ∃ a more, pool.get? x = some a ∧
        Underway r p start (new ++ more) w' ∧
        Calls.besidesLookUps more = [request slot (handle a)])
    (h : Underway r p start new w) (hlive : sound → ∀ e ∈ entries, (pool.get? e.2).isSome) :
    Finishes sound (bindAll bind entries) w fun _ w' =>
      ∃ more, ∃ bound : List (UInt32 × Handle kind), Underway r p start (new ++ more) w' ∧
      (bound.map fun b => (b.1, some b.2)) =
        (entries.map fun e => (e.1, (pool.get? e.2).map handle)) ∧
      Calls.besidesLookUps more = bound.map fun b => request b.1 b.2 := by
  induction entries generalizing new w with
  | nil => exact .pure ⟨[], [], by rwa [List.append_nil], rfl, rfl⟩
  | cons e rest ih =>
    obtain ⟨slot, x⟩ := e
    refine (hbind new w x slot h fun hs => hlive hs _ List.mem_cons_self).bind ?_
    rintro _ w₁ ⟨a, first, ha, h₁, hfirst⟩
    refine (ih h₁ fun hs e he => hlive hs e (List.mem_cons_of_mem _ he)).mono ?_
    rintro _ w₂ ⟨more, bound, h₂, hbound, hmore⟩
    rw [List.append_assoc] at h₂
    refine ⟨first ++ more, (slot, handle a) :: bound, h₂, ?_, ?_⟩
    · rw [List.map_cons, List.map_cons, hbound, ha]
      rfl
    · rw [Calls.besidesLookUps_append, hfirst, hmore]
      rfl

theorem finishes_bindTexture (h : Underway r p start new w) {x : Ref Texture} {slot : UInt32}
    (hlive : sound → (start.textures.get? x).isSome) :
    Finishes sound (Texture.bind x slot) w fun _ w' => ∃ t more,
      start.textures.get? x = some t ∧ Underway r p start (new ++ more) w' ∧
        Calls.besidesLookUps more = [.bindTexture slot (some t.handle)] := by
  rw [← h.textures] at hlive
  refine (Finishes.view hlive).bind ?_
  rintro t w ⟨rfl, ht⟩
  refine (finishes_ask h rfl).mono ?_
  rintro _ w₁ ⟨more, h₁, hmore⟩
  exact ⟨t, more, h.textures ▸ ht, h₁, hmore⟩

theorem finishes_bindSampler (h : Underway r p start new w) {x : Ref Sampler} {slot : UInt32}
    (hlive : sound → (start.samplers.get? x).isSome) :
    Finishes sound (Sampler.bind x slot) w fun _ w' => ∃ s more,
      start.samplers.get? x = some s ∧ Underway r p start (new ++ more) w' ∧
        Calls.besidesLookUps more = [.bindSampler slot (some s.handle)] := by
  rw [← h.samplers] at hlive
  refine (Finishes.view hlive).bind ?_
  rintro s w ⟨rfl, hs⟩
  refine (finishes_ask h rfl).mono ?_
  rintro _ w₁ ⟨more, h₁, hmore⟩
  exact ⟨s, more, h.samplers ▸ hs, h₁, hmore⟩

theorem finishes_applyTextures {entries : List (UInt32 × Ref Texture)}
    (h : Underway r p start new w)
    (hlive : sound → ∀ e ∈ entries, (start.textures.get? e.2).isSome) :
    Finishes sound (Material.applyTextures entries) w fun _ w' =>
      ∃ more, ∃ bound : List (UInt32 × TextureHandle), Underway r p start (new ++ more) w' ∧
        (bound.map fun b => (b.1, some b.2)) =
          (entries.map fun e => (e.1, (start.textures.get? e.2).map Texture.handle)) ∧
        Calls.besidesLookUps more = bound.map fun b => .bindTexture b.1 (some b.2) := by
  rw [Material.applyTextures_eq]
  exact finishes_bindAll Texture.handle (fun slot h => .bindTexture slot (some h))
    (fun _ _ _ _ h hlive => finishes_bindTexture h hlive) h hlive

theorem finishes_applySamplers {entries : List (UInt32 × Ref Sampler)}
    (h : Underway r p start new w)
    (hlive : sound → ∀ e ∈ entries, (start.samplers.get? e.2).isSome) :
    Finishes sound (Material.applySamplers entries) w fun _ w' =>
      ∃ more, ∃ bound : List (UInt32 × SamplerHandle), Underway r p start (new ++ more) w' ∧
        (bound.map fun b => (b.1, some b.2)) =
          (entries.map fun e => (e.1, (start.samplers.get? e.2).map Sampler.handle)) ∧
        Calls.besidesLookUps more = bound.map fun b => .bindSampler b.1 (some b.2) := by
  rw [Material.applySamplers_eq]
  exact finishes_bindAll Sampler.handle (fun slot h => .bindSampler slot (some h))
    (fun _ _ _ _ h hlive => finishes_bindSampler h hlive) h hlive

/-! ### The whole material -/

/-- A material with some parts was applied, which has led from a world to another one. -/
structure Applied (parts : List MaterialPart) (w w' : World σ) (p : Program) (calls : List Call)
    (textures : List (UInt32 × TextureHandle)) (samplers : List (UInt32 × SamplerHandle)) :
    Prop where
  program : (last? program? parts).bind w.programs.get? = some p
  history : w'.history = w.history ++ calls
  /-- The program knows of each name whether it has a location, at the latest from being told. -/
  told : ((last? program? parts).bind w'.programs.get?).map Program.settled = some (p.told calls)
  located : ∀ key ∈ names parts, ((p.told calls).locations.lookup key).isSome
  asked : Calls.besidesLookUps calls = applyRequests p.handle
    ((names parts).filterMap fun key => (last? (value? key) parts).bind ((p.told calls).write? key))
    textures samplers
  inTextures : Bound w.textures Texture.handle (textureIn parts) textures
  inSamplers : Bound w.samplers Sampler.handle (samplerIn parts) samplers

namespace Material

variable {m : Material} {parts : List MaterialPart}

omit [GraphicsDevice σ] in
/-- To write the uniforms of a material is to write the last values under its names. -/
theorem writes_eq (h : m.Holds parts) (p : Program) :
    (m.uniforms.entries.filterMap fun u => p.write? u.1 u.2) =
      (names parts).filterMap fun key => (last? (value? key) parts).bind (p.write? key) := by
  have hnodup : (m.uniforms.entries.map Prod.fst).Nodup := h.names ▸ nodup_eraseDups _
  rw [filterMap_entries hnodup p.write?, h.names]
  refine List.filterMap_congr fun key _ => congrArg (Option.bind · (p.write? key)) ?_
  rw [← h.value key, Material.uniform?, NamedUniforms.find?_eq_lookup]

/-- Everything in a material is there. -/
def Live (m : Material) (w : World σ) : Prop :=
  (w.programs.get? m.program).isSome ∧ (∀ e ∈ m.textures, (w.textures.get? e.2).isSome) ∧
    ∀ e ∈ m.samplers, (w.samplers.get? e.2).isSome

/-- What a material holds is what is applied. -/
theorem finishes_apply (h : m.Holds parts) (hlive : sound → m.Live w) :
    Finishes sound m.apply w fun _ w' =>
      ∃ p calls textures samplers, Applied parts w w' p calls textures samplers := by
  refine (finishes_use fun hs => (hlive hs).1).bind ?_
  rintro _ w₁ ⟨p, used, hp, h₁, hused⟩
  refine (finishes_applyUniforms h₁ m.uniforms.entries).bind ?_
  rintro _ w₂ ⟨written, h₂, hlocated, hwritten⟩
  refine (finishes_applyTextures h₂ fun hs => (hlive hs).2.1).bind ?_
  rintro _ w₃ ⟨textured, textures, h₃, htextures, htextured⟩
  refine (finishes_applySamplers h₃ fun hs => (hlive hs).2.2).mono ?_
  rintro _ w₄ ⟨sampled, samplers, h₄, hsamplers, hsampled⟩
  -- nothing is learned after the uniforms
  have hknown : ∀ u ∈ m.uniforms.entries, ∀ more,
      (p.told (used ++ written ++ more)).write? u.1 u.2 =
        (p.told (used ++ written)).write? u.1 u.2 :=
    fun u hu more => Program.write?_told_append more u.2 (hlocated u hu)
  refine ⟨p, _, textures, samplers, ?_, h₄.history, ?_, ?_, ?_, ?_, ?_⟩
  · rw [h.program]
    exact hp
  · rw [h.program]
    exact h₄.object
  · rw [← h.names, List.forall_mem_map]
    intro u hu
    obtain ⟨location, hlocation⟩ := Option.isSome_iff_exists.mp (hlocated u hu)
    rw [List.append_assoc, Program.lookup_told_append _ hlocation]
    rfl
  · rw [← writes_eq h, Calls.besidesLookUps_append, Calls.besidesLookUps_append,
      Calls.besidesLookUps_append, hused, hwritten, htextured, hsampled,
      List.append_assoc (used ++ written),
      List.filterMap_congr fun u hu => hknown u hu (textured ++ sampled)]
    rfl
  · exact funext h.texture ▸ bound_of_entries h.ordered.1 htextures
  · exact funext h.sampler ▸ bound_of_entries h.ordered.2 hsamplers

end Material

end Applying

end RenderKit
