import RenderKit.Proofs.Draws.Commands
import RenderKit.Proofs.OpenGL.Reference
import RenderKit.Proofs.OpenGL.Sessions

set_option autoImplicit false

/-! # Draws of a session

One command buffer of a session records and draws, while the session makes, fills, attaches and
gives up objects in between. Whatever comes of all this, each draw finds bound what the command
buffer recorded. -/

namespace RenderKit.Session

section Steps

variable {σ : Type} [InstrumentedDevice σ] {g : Guard σ} {name : Name} {s s' : State σ}
  {c : CommandBuffer} {slots : Slots}

/-- The session has a command buffer under a name, and what it recorded is bound. -/
structure Follows (g : Guard σ) (name : Name) (slots : Slots) (c : CommandBuffer) (s : State σ) :
    Prop where
  kept : Kept g [] 0 s
  lookup : s.objects.lookup name = some (.commands c)
  used : ∀ slot r, slots slot = some r → s.world.Used (.texture r)
  recorded : Recorded c slots s.world s.world.bound

/-! ## Giving the command buffer away -/

theorem free_singleton {other : Name} {o : Object} :
    free [(name, o)] other ↔ other ≠ name := by
  by_cases h : other = name
  · simp [free, h]
  · simp [free, lookup_cons_of_ne h, h]

/-- What is left to the session when an object is given away. -/
theorem refsOf_singleton {o : Object} (objects : List (Name × Object)) :
    refsOf [(name, o)] objects = refsOf [] (objects.filter fun e => e.1 ≠ name) := by
  induction objects with
  | nil => rfl
  | cons first rest ih =>
      by_cases h : first.1 = name
      · have hfree : ¬free [(name, o)] first.1 := fun hfree => free_singleton.mp hfree h
        rw [List.filter_cons_of_neg (by simpa using h), refsOf, if_neg hfree, zero_add, ih]
      · rw [List.filter_cons_of_pos (by simpa using h), refsOf, refsOf,
          if_pos (free_singleton.mpr h), ih]
        rfl

theorem Follows.refs_eq (hf : Follows g name slots c s) :
    c.refs + refsOf [(name, .commands c)] s.objects = refsOf [] s.objects := by
  rw [refsOf_singleton]
  exact refsOf_filter rfl hf.kept.names hf.lookup

/-- The references of the command buffer go over to a guard. -/
theorem Follows.given (hg : g.tokens = 0) (hf : Follows g name slots c s)
    (watches : Node → Prop) :
    Kept (g.frame s.world c.refs watches) [(name, .commands c)] 0 s := by
  refine ⟨hf.kept.owns.frame ?_, hf.kept.ordered, hf.kept.names, fun other o ho => ?_⟩
  · rw [hg, zero_add, zero_add, zero_add]
    exact hf.refs_eq
  · by_cases hne : other = name
    · subst hne
      rw [List.lookup_cons_self] at ho
      cases ho
      exact ⟨hf.lookup, fun n hn => hn⟩
    · rw [lookup_cons_of_ne hne] at ho
      cases ho

/-- An action that binds and draws nothing, and leaves the command buffer to the guard. -/
theorem Follows.runs_use [Toolchain] [ImageCodec] {a : Action σ} (hg : g.Vouching)
    (htokens : g.tokens = 0) (hf : Follows g name slots c s)
    (ha : a.Allowed (g.frame s.world c.refs fun n => ∀ r, n = .framebuffer r → n ∈ c.refs)
      [(name, .commands c)]) :
    Runs (act a) s
      (fun _ s' => Follows g name slots c s' ∧ s'.world.drawn = s.world.drawn)
      (fun s' => Follows g name slots c s' ∧ s'.world.drawn = s.world.drawn) := by
  have hrun := runs_act (hf.given htokens _) ha fun v hv r hnode => hv.1 r hnode
  have hafter : ∀ s',
      Kept (g.frame s.world c.refs fun n => ∀ r, n = .framebuffer r → n ∈ c.refs)
        [(name, .commands c)] 0 s' →
      Follows g name slots c s' ∧ s'.world.drawn = s.world.drawn := by
    intro s' hs'
    have hfresh := hs'.owns.fresh_frame hg
    obtain ⟨hlookup, -⟩ := hs'.theirs name (.commands c) List.lookup_cons_self
    have hrefs : c.refs + refsOf [(name, .commands c)] s'.objects = refsOf [] s'.objects := by
      rw [refsOf_singleton]
      exact refsOf_filter rfl hs'.names hlookup
    refine ⟨⟨⟨hs'.owns.unframe hg ?_, hs'.ordered, hs'.names, by simp⟩, hlookup, ?_, ?_⟩,
      hs'.owns.bound_frame.2⟩
    · rw [htokens, zero_add, zero_add, zero_add]
      exact hrefs
    · exact fun slot r hr =>
        hs'.owns.used_frame (r := r) hfresh (fun _ h => by cases h) (hf.used slot r hr)
    · exact hf.recorded.frame hf.used hfresh hs'.owns
        (fun n hn => Multiset.mem_add.mpr (.inl hn)) fun _ h => h
  exact hrun.mono (fun _ => hafter) hafter

/-! ## Commands -/

/-- What is on the slots after a command of the session. -/
def slotsAfter (s : State σ) (c : CommandBuffer) (slots : Slots) : Command → Slots
  | .setTexture slot texture =>
      match s.objects.lookup texture with
      | some (.texture r) => c.slotsAfter slots slot r
      | _ => slots
  | _ => slots

/-- The part of the session that has nothing to do with the command buffer. -/
def rest (name : Name) (c : CommandBuffer) (s : State σ) : Multiset Node :=
  refsOf [(name, .commands c)] s.objects

theorem Follows.tracks (hf : Follows g name slots c s) :
    Tracks g (rest name c s) c slots s.world :=
  ⟨hf.kept.owns_zero.congr hf.refs_eq.symm, hf.used, hf.recorded⟩

theorem Follows.runs_command {command : Command} (hg : g.Vouching)
    (hf : Follows g name slots c s) {E : State σ → Prop} (hE : E s) :
    Runs (Session.command command) s
      (fun i s' => s' = s ∧ Runs (i.perform c) s.world
        (fun c' w' => Tracks g (rest name c s) c' (slotsAfter s c slots command) w' ∧
          DrewRecorded c slots s.world w')
        (CommandBuffer.Calm g (rest name c s) slots s.world c)) E := by
  have ht := hf.tracks
  -- commands that draw nothing have drawn what was recorded
  have hcalm : ∀ {t : Render σ CommandBuffer} {slots' : Slots},
      Runs t s.world (CommandBuffer.Calm g (rest name c s) slots' s.world)
        (CommandBuffer.Calm g (rest name c s) slots s.world c) →
      Runs t s.world
        (fun c' w' => Tracks g (rest name c s) c' slots' w' ∧ DrewRecorded c slots s.world w')
        (CommandBuffer.Calm g (rest name c s) slots s.world c) :=
    fun h => h.imp fun _ _ h => ⟨h.1, .of_eq h.2⟩
  have hmem : ∀ {other : Name} {o : Object} {n : Node},
      s.objects.lookup other = some o → n ∈ o.refs → n ∈ g.tokens + (c.refs + rest name c s) := by
    intro other o n ho hn
    rw [rest, hf.refs_eq]
    exact hf.kept.mem ho hn
  have hsteady : ∀ r : Request, r.isSteady → (g.interlude s.world).allows r := fun _ h => h
  have hb := ht.owns.interlude
  cases command with
  | start =>
      exact Runs.pure ⟨rfl, hcalm (CommandBuffer.tracks_of_same hg ht
        (CommandBuffer.runs_start hb))⟩
  | finish => exact Runs.pure ⟨rfl, hcalm (CommandBuffer.tracks_finish hg ht)⟩
  | beginPass other =>
      refine Runs.bind_same (runs_passNamed hE) fun pass hpass => ?_
      exact Runs.pure ⟨rfl, hcalm (CommandBuffer.tracks_beginPass hg ht
        (hmem hpass (Multiset.mem_singleton_self _)))⟩
  | endPass => exact Runs.pure ⟨rfl, hcalm (CommandBuffer.tracks_endPass hg ht)⟩
  | setPipeline other =>
      refine Runs.bind_same (runs_pipelineNamed hE) fun r hr => ?_
      exact Runs.pure ⟨rfl, hcalm (CommandBuffer.tracks_setPipeline hg ht
        (hmem hr (Multiset.mem_singleton_self _)))⟩
  | setViewport area =>
      exact Runs.pure ⟨rfl, hcalm (CommandBuffer.tracks_of_same hg ht
        (CommandBuffer.runs_setViewport hb hsteady))⟩
  | setScissor area =>
      exact Runs.pure ⟨rfl, hcalm (CommandBuffer.tracks_of_same hg ht
        (CommandBuffer.runs_setScissor hb hsteady))⟩
  | setUniform key value =>
      exact Runs.pure ⟨rfl, hcalm (CommandBuffer.tracks_of_same hg ht
        (CommandBuffer.runs_setUniform hb hsteady))⟩
  | setTexture slot other =>
      refine Runs.bind_same (runs_textureNamed hE) fun r hr => ?_
      have hslots : slotsAfter s c slots (.setTexture slot other) = c.slotsAfter slots slot r := by
        simp only [slotsAfter, hr]
      rw [hslots]
      exact Runs.pure ⟨rfl, hcalm (CommandBuffer.tracks_setTexture hg ht)⟩
  | setSampler slot other =>
      refine Runs.bind_same (runs_samplerNamed hE) fun r _ => ?_
      exact Runs.pure ⟨rfl, hcalm (CommandBuffer.tracks_of_same hg ht
        (CommandBuffer.runs_setSampler hb hsteady))⟩
  | bindUniformBuffer binding other =>
      refine Runs.bind_same (runs_bufferNamed hE) fun r _ => ?_
      exact Runs.pure ⟨rfl, hcalm (CommandBuffer.tracks_of_same hg ht
        (CommandBuffer.runs_bindUniformBuffer hb hsteady))⟩
  | setVertexBuffer other =>
      refine Runs.bind_same (runs_bufferNamed hE) fun r _ => ?_
      exact Runs.pure ⟨rfl, hcalm (CommandBuffer.tracks_of_same hg ht
        (CommandBuffer.runs_setVertexBuffer hb))⟩
  | setIndexBuffer other =>
      refine Runs.bind_same (runs_bufferNamed hE) fun r _ => ?_
      exact Runs.pure ⟨rfl, hcalm (CommandBuffer.tracks_of_same hg ht
        (CommandBuffer.runs_setIndexBuffer hb))⟩
  | draw count first => exact Runs.pure ⟨rfl, CommandBuffer.tracks_draw hg ht⟩
  | drawIndexed count first base => exact Runs.pure ⟨rfl, CommandBuffer.tracks_drawIndexed hg ht⟩
  | drawMesh other =>
      refine Runs.bind_same (runs_meshNamed hE) fun m _ => ?_
      exact Runs.pure ⟨rfl, CommandBuffer.tracks_drawMesh hg ht⟩

/-- A command of the command buffer is followed, and draws what was recorded. -/
theorem Follows.runs_play [Toolchain] [ImageCodec] {command : Command} (hg : g.Vouching)
    (hf : Follows g name slots c s) :
    Runs (play (.command name command)) s
      (fun _ s' => (∃ c', Follows g name (slotsAfter s c slots command) c' s') ∧
        DrewRecorded c slots s.world s'.world)
      (fun s' => Follows g name slots c s' ∧ s'.world.drawn = s.world.drawn) := by
  refine Runs.bind_same (hf.runs_command hg ⟨hf, rfl⟩) fun i hi => ?_
  refine Runs.bind_same (runs_commandsNamed ⟨hf, rfl⟩) fun buffer hbuffer => ?_
  rw [hf.lookup] at hbuffer
  cases hbuffer
  refine Runs.bind ((runs_inWorld hi).mono (fun _ _ h => h) ?_) ?_
  · rintro s' ⟨hs', ht', hdrawn⟩
    have hobjects : s'.objects = s.objects := by rw [hs']
    refine ⟨⟨?_, hobjects ▸ hf.lookup, ht'.used, ht'.recorded⟩, hdrawn⟩
    exact hf.kept.of_world hs' (ht'.owns.congr (by rw [rest, hf.refs_eq, zero_add]))
  · rintro c' s' ⟨hs', ht', hdrew⟩
    refine Runs.bind_modify (Runs.pure ⟨⟨c', ?_, lookup_put_self, ht'.used, ht'.recorded⟩, hdrew⟩)
    have hput := refsOf_put_of_lookup (o := .commands c') rfl hf.lookup hf.refs_eq.symm
    rw [hs']
    refine hf.kept.put (o := .commands c') rfl trivial (ht'.owns.congr ?_)
    rw [hput, zero_add]
    rfl

end Steps

/-! ## Sessions with one command buffer -/

variable {δ : Type} [RecordingDriver δ]

/-- An action that does something with objects and leaves a command buffer alone. It does not bind
    anything by itself, nor does it apply a material. -/
def Action.Resourceful (name : Name) : Action (GlDevice δ) → Prop
  | .step (.make other recipe) => other ≠ name ∧ recipe.Named
  | .step (.drop other) | .step (.setMaterial other _) | .step (.resize other ..) => other ≠ name
  | .step (.bind ..) | .step (.unbind ..) | .step (.apply _) | .step (.command ..)
  | .step (.adjust _) | .step (.ask _) => False
  | .share _ copy => copy ≠ name
  | _ => True

/-- A session that begins with a command buffer under a name, together with the texture that was
    last put on each slot. Nothing in it was cut off. -/
inductive Recording [Toolchain] [ImageCodec] (device : GlDevice δ) (files : Files) (name : Name)
    (validation : Validation) : State (GlDevice δ) → Slots → Prop where
  | start : Recording device files name validation
      { world := .start device
        objects := [(name, .commands (.new validation))]
        files := files } fun _ => none
  | use {s s' : State (GlDevice δ)} {slots : Slots} {a : Action (GlDevice δ)}
      {outcome : Except Refusal Answer} :
      Recording device files name validation s slots → a.Resourceful name →
      (act a).run.run s = (outcome, s') → outcome ≠ .error (.halt .abort) →
      Recording device files name validation s' slots
  | command {s s' : State (GlDevice δ)} {slots : Slots} {c : CommandBuffer} {command : Command}
      {answer : Answer} :
      Recording device files name validation s slots →
      s.objects.lookup name = some (.commands c) →
      (play (.command name command)).run.run s = (.ok answer, s') →
      Recording device files name validation s' (slotsAfter s c slots command)
  | failed {s s' : State (GlDevice δ)} {slots : Slots} {command : Command} {e : Refusal} :
      Recording device files name validation s slots →
      (play (.command name command)).run.run s = (.error e, s') → e ≠ .halt .abort →
      Recording device files name validation s' slots

theorem Recording.use_of_ok [Toolchain] [ImageCodec] {device : GlDevice δ} {files : Files}
    {name : Name}
    {validation : Validation} {s : State (GlDevice δ)} {slots : Slots} {a : Action (GlDevice δ)}
    (hs : Recording device files name validation s slots) (ha : a.Resourceful name)
    (hok : ((Session.act a).run.run s).1.isOk) :
    Recording device files name validation ((Session.act a).run.run s).2 slots :=
  hs.use ha (Prod.eta _).symm (ne_abort_of_isOk hok)

theorem Recording.command_of_ok [Toolchain] [ImageCodec] {device : GlDevice δ} {files : Files}
    {name : Name}
    {validation : Validation} {s : State (GlDevice δ)} {slots : Slots} {c : CommandBuffer}
    {k : Command} (hs : Recording device files name validation s slots)
    (hc : s.objects.lookup name = some (.commands c))
    (hok : ((play (.command name k)).run.run s).1.isOk) :
    Recording device files name validation ((play (.command name k)).run.run s).2
      (slotsAfter s c slots k) := by
  rcases hrun : (play (.command name k)).run.run s with ⟨e | answer, s'⟩
  · rw [hrun] at hok
    cases hok
  · exact hs.command hc hrun

variable [Conforming δ]

theorem mirroring_vouching : (mirroring : Guard (GlDevice δ)).Vouching :=
  ⟨rfl, fun _ => trivial, rfl, fun _ _ h hanswered hlawful => (h hanswered hlawful).fresh⟩

theorem Action.Resourceful.allowed {name : Name} {a : Action (GlDevice δ)}
    (ha : a.Resourceful name) {w : World (GlDevice δ)} {tokens : Multiset Node}
    {watches : Node → Prop} {o : Object} :
    a.Allowed (mirroring.frame w tokens watches) [(name, o)] := by
  rcases a with step | ⟨original, copy⟩
  · cases step with
    | make other recipe => exact ⟨free_singleton.mpr ha.1, ha.2⟩
    | drop other => exact free_singleton.mpr ha
    | setMaterial other setting => exact free_singleton.mpr ha
    | resize other width height => exact free_singleton.mpr ha
    | setUniform program key value => exact fun _ _ => rfl
    | applyState rasterizer depthStencil blend => exact fun _ h => h
    | message m => exact ⟨fun _ _ h => h.deliver m, fun _ _ _ => trivial⟩
    | bind | unbind | apply | command | adjust | ask => exact ha.elim
    | _ => trivial
  · exact free_singleton.mpr ha

section Draws

variable {device : GlDevice δ} {files : Files} {name : Name} {validation : Validation}
  {s s' : State (GlDevice δ)} {slots : Slots} {outcome : Except Refusal Answer}

theorem follows_start (hdevice : device.context.trace = .start) :
    Follows (mirroring : Guard (GlDevice δ)) name (fun _ => none) (.new validation)
      { world := .start device
        objects := [(name, .commands (.new validation))]
        files := files } := by
  have hstart : Owns (mirroring : Guard (GlDevice δ)) 0 (.start device) :=
    owns_start rfl rfl rfl fun _ _ => GlDevice.mirrors_nil hdevice
  refine ⟨⟨hstart, ?_, ?_, by simp⟩, List.lookup_cons_self, (fun _ _ h => by cases h), ?_⟩
  · intro e he
    rw [List.mem_singleton.mp he]
    trivial
  · exact List.nodup_singleton name
  · exact ⟨(fun _ h => by cases h), (fun _ h => by cases h), fun _ => rfl, fun _ => rfl⟩

theorem exists_follows [Toolchain] [ImageCodec] (hdevice : device.context.trace = .start)
    (hs : Recording device files name validation s slots) :
    ∃ c, Follows mirroring name slots c s := by
  induction hs with
  | start => exact ⟨_, follows_start hdevice⟩
  | use _ ha hrun hout ih =>
      obtain ⟨c, hf⟩ := ih
      have hafter := of_runs (hf.runs_use mirroring_vouching rfl ha.allowed) hrun hout
      split at hafter
      · exact ⟨c, hafter.1⟩
      · exact ⟨c, hafter.1⟩
  | command _ hlookup hrun ih =>
      obtain ⟨c, hf⟩ := ih
      have hafter := of_runs (hf.runs_play mirroring_vouching) hrun (by simp)
      rw [hf.lookup] at hlookup
      cases hlookup
      exact hafter.1
  | failed _ hrun hout ih =>
      obtain ⟨c, hf⟩ := ih
      have hafter := of_runs (hf.runs_play mirroring_vouching) hrun (by simpa using hout)
      exact ⟨c, hafter.1⟩

/-- The draws of the driver are those of the history. -/
theorem Follows.draws_eq {c : CommandBuffer} (hf : Follows mirroring name slots c s) :
    s.world.device.context.draws = s.world.drawn := by
  have howns := hf.kept.owns
  have hmirrors : s.world.device.Mirrors s.world.history := howns.law howns.answered howns.lawful
  exact congrArg Trace.draws hmirrors.trace

/-- Draws hit the recorded state. Whatever a session does with its objects between the commands of
    its command buffer, whenever the driver is told to draw, the program and the vertex array of
    the pipeline are bound, the framebuffer of the pass or else the window, and on each unit the
    texture that was last put there, or nothing if that is gone. -/
theorem draws_recorded [Toolchain] [ImageCodec] {a : Action (GlDevice δ)}
    (hdevice : device.context.trace = .start) (hs : Recording device files name validation s slots)
    (ha : a.Resourceful name ∨ ∃ command, a = .step (.command name command))
    (hrun : (act a).run.run s = (outcome, s')) (hout : outcome ≠ .error (.halt .abort)) :
    ∃ c new, s.objects.lookup name = some (.commands c) ∧
      s'.world.device.context.draws = s.world.device.context.draws ++ new ∧
      ∀ b ∈ new, Recorded c slots s'.world b := by
  obtain ⟨c, hf⟩ := exists_follows hdevice hs
  have hquiet : ∀ {s' : State (GlDevice δ)},
      Follows mirroring name slots c s' ∧ s'.world.drawn = s.world.drawn →
      ∃ new, s'.world.device.context.draws = s.world.device.context.draws ++ new ∧
        ∀ b ∈ new, Recorded c slots s'.world b := by
    rintro s' ⟨hf', hdrawn⟩
    exact ⟨[], by rw [hf'.draws_eq, hf.draws_eq, hdrawn, List.append_nil], by simp⟩
  rcases ha with ha | ⟨command, rfl⟩
  · have hafter := of_runs (hf.runs_use mirroring_vouching rfl ha.allowed) hrun hout
    split at hafter
    · exact ⟨c, (hquiet hafter).imp fun _ h => ⟨hf.lookup, h⟩⟩
    · exact ⟨c, (hquiet hafter).imp fun _ h => ⟨hf.lookup, h⟩⟩
  · have hafter := of_runs (hf.runs_play mirroring_vouching) hrun hout
    split at hafter
    · obtain ⟨⟨c', hf'⟩, new, hnew, hrecorded⟩ := hafter
      exact ⟨c, new, hf.lookup, by rw [hf'.draws_eq, hf.draws_eq, hnew], hrecorded⟩
    · exact ⟨c, (hquiet hafter).imp fun _ h => ⟨hf.lookup, h⟩⟩

end Draws

set_option maxRecDepth 2000 in
/-- A draw after the texture on a slot was given up and another pipeline was made. -/
theorem draws_recorded_reference :
    ∃ (s : State (GlDevice GlReference)) (slots : Slots) (c : CommandBuffer) (b : Bindings),
      Recording .reference .empty "c" .report s slots ∧
      s.objects.lookup "c" = some (.commands c) ∧
      ((play (.command "c" (.draw 3 0))).run.run s).2.world.device.context.draws =
        s.world.device.context.draws ++ [b] ∧
      Recorded c slots ((play (.command "c" (.draw 3 0))).run.run s).2.world b := by
  have h₀ : Recording GlDevice.reference .empty "c" .report _ _ := .start
  have h₁ := h₀.use_of_ok (a := .step (.make "p" (.program none none false [.input emptyStage])))
    ⟨by decide, trivial⟩ (by decide +kernel)
  have h₂ := h₁.use_of_ok (a := .step (.make "l" (.pipeline none [.program "p"])))
    ⟨by decide, trivial⟩ (by decide +kernel)
  have h₃ := h₂.use_of_ok (a := .step (.make "t" (.texture ⟨1, 1, .rgba8, false, false⟩ none)))
    ⟨by decide, trivial⟩ (by decide +kernel)
  obtain ⟨c₃, hf₃⟩ := exists_follows rfl h₃
  have h₄ := h₃.command_of_ok (k := .setPipeline "l") hf₃.lookup (by decide +kernel)
  obtain ⟨c₄, hf₄⟩ := exists_follows rfl h₄
  have h₅ := h₄.command_of_ok (k := .setTexture 0 "t") hf₄.lookup (by decide +kernel)
  have h₆ := h₅.use_of_ok (a := .step (.drop "t")) (show "t" ≠ "c" by decide) (by decide +kernel)
  have h₇ := h₆.use_of_ok (a := .step (.make "m" (.pipeline none [.program "p"])))
    ⟨by decide, trivial⟩ (by decide +kernel)
  obtain ⟨c, new, hlookup, hnew, hrecorded⟩ := draws_recorded
    (a := .step (.command "c" (.draw 3 0))) rfl h₇ (.inr ⟨_, rfl⟩) (Prod.eta _).symm
    (ne_abort_of_isOk (by decide +kernel))
  obtain ⟨b, rfl⟩ := exists_one_new hnew (by decide +kernel)
  exact ⟨_, _, c, b, h₇, hlookup, hnew, hrecorded b (List.mem_singleton_self b)⟩

end RenderKit.Session
