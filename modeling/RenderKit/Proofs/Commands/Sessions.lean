import RenderKit.Proofs.OpenGL.Reference
import RenderKit.Proofs.OpenGL.Sessions
import RenderKit.Proofs.Resources.Sessions

set_option autoImplicit false

/-! # Failures in a session

The meshes of a session were created by it, so their buffers are of the right kinds at any time. A
command of any command buffer then fails exactly where there is a reason to, and a failure leaves
everything as it was, the journal apart. -/

namespace RenderKit.Session

variable {σ : Type} {s s' : State σ} {name : Name} {k : Command}

/-! ## Meshes of a session -/

/-- Meshes have buffers of the right kinds. -/
def Object.Supplied (o : Object) (w : World σ) : Prop :=
  match o with
  | .mesh m => m.Supplied w
  | _ => True

section Making

variable [InstrumentedDevice σ]

/-- A task that comes to an object with the right buffers, if to any. -/
def Supplies (t : Play σ Object) : Prop :=
  ∀ s, Runs t s (fun o s' => o.Supplied s'.world) fun _ => True

omit [InstrumentedDevice σ] in
theorem supplies_pure {o : Object} (ho : ∀ w : World σ, o.Supplied w) :
    Supplies (pure o : Play σ Object) := fun s => Runs.pure (ho s.world)

omit [InstrumentedDevice σ] in
theorem supplies_bind {α : Type} {t : Play σ α} {f : α → Play σ Object}
    (hf : ∀ a, Supplies (f a)) : Supplies (t >>= f) :=
  fun _ => Runs.bind_anyhow hf

theorem supplies_make [Toolchain] [ImageCodec] (recipe : Recipe) : Supplies
    (make recipe : Play σ Object) := by
  cases recipe with
  | mesh settings =>
    refine supplies_bind fun plan s => Runs.bind (runs_inWorld Mesh.planned_create |>.mono
      (fun _ _ h => h.2) fun _ _ => trivial) fun m s' h => ?_
    exact Runs.pure h.supplied
  | buffer | sampler | defaultTarget | layout | context | contextCommands =>
    exact supplies_bind fun _ => supplies_pure fun _ => trivial
  | texture | image | attachment | framebuffer | pass | material =>
    exact supplies_bind fun _ => supplies_bind fun _ => supplies_pure fun _ => trivial
  | program =>
    exact supplies_bind fun _ => supplies_bind fun _ => supplies_bind fun _ =>
      supplies_bind fun _ => supplies_pure fun _ => trivial
  | pipeline mesh settings =>
    have hrest : ∀ start : PipelinePlan, Supplies (do
        let plan ← pipelinePlan start settings
        return .pipeline (← inWorld (Pipeline.create plan)) : Play σ Object) := fun _ =>
      supplies_bind fun _ => supplies_bind fun _ => supplies_pure fun _ => trivial
    cases mesh with
    | none => exact hrest {}
    | some name => exact supplies_bind fun m => hrest m.pipelinePlan
  | commands validation => exact supplies_pure fun _ => trivial

theorem enduring_supplied [Toolchain] [ImageCodec] : Enduring
    (Object.Supplied : Object → World σ → Prop) where
  later {o _ _} ho hw := by
    cases o with
    | mesh m => exact Mesh.Supplied.later ho hw
    | _ => trivial
  made := supplies_make
  material _ _ := trivial
  commands _ _ := trivial

end Making

/-! ## Commands of a session -/

section Commands

/-- A state that differs from another one in the journal at most. -/
def Untouched (s s' : State σ) : Prop :=
  s' = { s with world := { s.world with journal := s'.world.journal } }

theorem untouched_refl (s : State σ) : Untouched s s := rfl

theorem untouched_of_unlogged {w : World σ} (h : w.unlogged = s.world.unlogged) :
    Untouched s { s with world := w } := by
  have hworld : w = { s.world with journal := w.journal } :=
    congrArg (fun v : World σ => { v with journal := w.journal }) h
  exact congrArg (fun v => { s with world := v }) hworld

variable [InstrumentedDevice σ]

omit [InstrumentedDevice σ] in
/-- A mesh that is found under its name has buffers of the right kinds. -/
theorem runs_command_supplied {E : State σ → Prop} (hs : Holds Object.Supplied s) (hE : E s) :
    Runs (command k) s (fun i s' => s' = s ∧ i.Supplied s.world) E := by
  cases k with
  | drawMesh name =>
    refine Runs.bind_same (runs_meshNamed hE) fun m hm => ?_
    have hsupplied : m.Supplied s.world := hs _ (mem_of_lookup hm)
    exact Runs.pure ⟨rfl, hsupplied⟩
  | beginPass name =>
    exact Runs.bind (runs_passNamed hE) fun _ _ h => Runs.pure ⟨h.1, trivial⟩
  | setPipeline name =>
    exact Runs.bind (runs_pipelineNamed hE) fun _ _ h => Runs.pure ⟨h.1, trivial⟩
  | setTexture slot name =>
    exact Runs.bind (runs_textureNamed hE) fun _ _ h => Runs.pure ⟨h.1, trivial⟩
  | setSampler slot name =>
    exact Runs.bind (runs_samplerNamed hE) fun _ _ h => Runs.pure ⟨h.1, trivial⟩
  | bindUniformBuffer binding name =>
    exact Runs.bind (runs_bufferNamed hE) fun _ _ h => Runs.pure ⟨h.1, trivial⟩
  | setVertexBuffer name | setIndexBuffer name =>
    exact Runs.bind (runs_bufferNamed hE) fun _ _ h => Runs.pure ⟨h.1, trivial⟩
  | _ => exact Runs.pure ⟨rfl, trivial⟩

omit [InstrumentedDevice σ] in
theorem run_object {o : Object} (ho : s.objects.lookup name = some o) :
    (object name).run.run s = (.ok o, s) := by
  have hget : (get : Play σ (State σ)).run.run s = (.ok s, s) := rfl
  unfold object
  rw [run_bind, hget]
  simp only [ho]
  rfl

omit [InstrumentedDevice σ] in
theorem run_commandsNamed {c : CommandBuffer} (hc : s.objects.lookup name = some (.commands c)) :
    (commandsNamed name).run.run s = (.ok c, s) := by
  unfold commandsNamed
  rw [run_bind, run_object hc]
  rfl

omit [InstrumentedDevice σ] in
theorem run_inWorld {α : Type} (t : Render σ α) (s : State σ) :
    (inWorld t).run.run s =
      ((t.run.run s.world).1.mapError .halt, { s with world := (t.run.run s.world).2 }) := by
  have hget : (get : Play σ (State σ)).run.run s = (.ok s, s) := rfl
  unfold inWorld
  rw [run_bind, hget]
  rcases hrun : t.run.run s.world with ⟨_ | _, w⟩
  all_goals
    simp only [hrun]
    rfl

/-- A command of a command buffer that is known fails exactly if its instruction does. -/
theorem playCommand_error_iff [Toolchain] [ImageCodec] {c : CommandBuffer} {i : Instruction}
    {e : Error}
    (hc : s.objects.lookup name = some (.commands c)) (hi : (command k).run.run s = (.ok i, s)) :
    (∃ s', (play (.command name k)).run.run s = (.error (.halt (.error e)), s')) ↔
      FailsAt e (i.perform c) s.world := by
  have hplay : (play (.command name k)).run.run s =
      (inWorld (i.perform c) >>= fun c' => do
        update name (.commands c')
        return .nothing : Play σ Answer).run.run s := by
    show (command k >>= fun i => commandsNamed name >>= _).run.run s = _
    rw [run_bind, hi]
    simp only
    rw [run_bind, run_commandsNamed hc]
  unfold FailsAt
  rw [hplay, run_bind, run_inWorld]
  rcases (i.perform c).run.run s.world with ⟨h | c', w⟩
  · constructor
    all_goals
      rintro ⟨_, hrun⟩
      cases hrun
      exact ⟨_, rfl⟩
  · constructor
    all_goals
      rintro ⟨_, hrun⟩
      cases hrun

/-! ## Failures -/

/-- A command fails exactly where there is a reason to: where skips are reported, that it is skipped,
    or else that a buffer is of the wrong kind, or that a mesh has another layout than the pipeline.
    A command that has failed has made no call, and no command buffer, no pipeline, nor anything else
    is different; only the journal has grown. -/
theorem failures_change_nothing [Toolchain] [ImageCodec] {device : σ} {files : Files}
    {p : Action σ → Prop}
    (hs : ReachedBy device files p s) (name : Name) (k : Command) (e : Error) :
    (∀ c i, s.objects.lookup name = some (.commands c) → (command k).run.run s = (.ok i, s) →
      ((∃ s', (play (.command name k)).run.run s = (.error (.halt (.error e)), s')) ↔
        i.Fails s.world c e)) ∧
    ∀ s', (play (.command name k)).run.run s = (.error (.halt (.error e)), s') →
      s'.world.calls = s.world.calls ∧ s'.world.device = s.world.device ∧
      s'.world.pipelines = s.world.pipelines ∧ s'.objects = s.objects ∧
      s' = { s with world := { s.world with journal := s'.world.journal } } := by
  have hsupplied : Holds Object.Supplied s := enduring_supplied.holds_of_reached hs
  refine ⟨fun c i hc hi => ?_, fun s' hrun => ?_⟩
  · have hinstruction : i.Supplied s.world :=
      ((runs_command_supplied hsupplied (E := Untouched s) rfl).of_ok hi).2
    exact (playCommand_error_iff hc hi).trans (Instruction.failsAt_perform_iff hinstruction)
  · have huntouched : Untouched s s' := by
      refine Runs.of_error (Q := fun _ _ => True) (E := Untouched s) ?_ hrun (by rintro ⟨⟩)
      refine Runs.bind (runs_command_supplied hsupplied (untouched_refl s)) ?_
      rintro i s ⟨rfl, hi⟩
      refine Runs.bind (runs_commandsNamed (untouched_refl s)) ?_
      rintro c s ⟨rfl, -⟩
      have hclean := (Instruction.cleanAt_perform (c := c) hi).runs
      refine Runs.bind ((runs_inWorld hclean).mono (fun _ _ _ => trivial) ?_)
        fun _ _ (_ : True) => Runs.bind_modify (Runs.pure trivial)
      rintro s' ⟨hs', hunlogged⟩
      rw [hs']
      exact untouched_of_unlogged hunlogged
    have hs' : s' = _ := huntouched
    rw [hs']
    exact ⟨rfl, rfl, rfl, rfl, rfl⟩

end Commands

/-! ## A mesh with another layout -/

/-- A pipeline without a layout is bound, and there is a mesh with one, whose buffers are of the right
    kinds. -/
def unmatched : State (GlDevice GlReference) :=
  actAll
    [.step (.make "v" (.buffer .vertex .static (some 16) none)),
     .step (.make "i" (.buffer .index .static (some 12) none)),
     .step (.make "l" (.layout [⟨0, .float2, 0, false⟩] none)),
     .step (.make "m" (.mesh [.vertexBuffer "v", .indexBuffer "i", .layout "l"])),
     .step (.make "p" (.program none none false [.input emptyStage])),
     .step (.make "q" (.pipeline none [.program "p"])),
     .step (.make "c" (.commands .silent)), .step (.command "c" (.setPipeline "q"))]
    { world := .start .reference, objects := [], files := .empty }

def unmatchedMesh : Mesh := ⟨⟨0⟩, some ⟨1⟩, ⟨[⟨0, .float2, 0, false⟩], 8⟩, .triangleList, 2, 3⟩

set_option maxRecDepth 2000 in
theorem failures_change_nothing_unmatched :
    ∃ s', Reached .reference .empty unmatched ∧
      (play (.command "c" (.drawMesh "m"))).run.run unmatched =
        (.error (.halt (.error (Cause.error MeshError.otherLayout))), s') ∧
      s'.world.calls = unmatched.world.calls ∧ s'.world.pipelines = unmatched.world.pipelines ∧
      s'.objects = unmatched.objects := by
  have hs : Reached .reference .empty unmatched := by
    refine ReachedBy.start.of_allOk ?_ (by decide +kernel)
    simp [Action.Public, Recipe.Named]
  have hm : unmatched.objects.lookup "m" = some (.mesh unmatchedMesh) :=
    lookup_of_mesh? (by decide +kernel)
  have hi : (command (.drawMesh "m")).run.run unmatched =
      (.ok (.drawMesh unmatchedMesh), unmatched) := by
    unfold command meshNamed
    rw [run_bind, run_bind, run_object hm]
    rfl
  have hlayout : (unmatched.world.pipelines.get? ⟨0⟩).map Pipeline.layout = some .empty := by
    decide +kernel
  obtain ⟨p, hp, hempty⟩ := Option.map_eq_some_iff.mp hlayout
  obtain ⟨reasons, unchanged⟩ := failures_change_nothing hs "c" (.drawMesh "m")
    (Cause.error MeshError.otherLayout)
  have hc : unmatched.objects.lookup "c" =
      some (.commands ⟨.silent, false, some ⟨0⟩, some ⟨0⟩, none⟩) :=
    lookup_of_commands? (by decide +kernel)
  obtain ⟨s', hrun⟩ := (reasons _ _ hc hi).mpr (.otherLayout rfl hp (by rw [hempty]; decide))
  obtain ⟨hcalls, -, hpipelines, hobjects, -⟩ := unchanged s' hrun
  exact ⟨s', hs, hrun, hcalls, hpipelines, hobjects⟩

end RenderKit.Session
