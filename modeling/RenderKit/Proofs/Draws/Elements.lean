import RenderKit.Proofs.OpenGL.Attached
import RenderKit.Proofs.OpenGL.Reference
import RenderKit.Proofs.OpenGL.Sessions

set_option autoImplicit false

/-! # Which elements are drawn

A pipeline reports an index buffer, and its vertex array has elements from some buffer. These are
the same unless a buffer of elements is bound by itself while the array is: attaching goes by way of
the array and making, filling and reading by way of targets for copies, but such a binding is taken
for one of the array. -/

namespace RenderKit

/-- The pipeline of a command buffer has elements, and the first one to be drawn is at an offset the
    interface has room for. -/
def CommandBuffer.CanDrawIndexed {σ : Type} (c : CommandBuffer) (w : World σ) (first : UInt32) :
    Prop :=
  ∃ r p, c.pipeline = some r ∧ w.pipelines.get? r = some p ∧ p.indexBuffer.isSome ∧
    (first.toNat * Mesh.indexSize).toUInt64.toNat ≤ GlDevice.maxBytes

/-- What was drawn from one world to another had its elements from the vertex array that was bound,
    and something was drawn if it had to be. -/
def World.DrewBound {σ : Type} (must : Prop) (w w' : World σ) : Prop :=
  ∃ new, (Calls.trace w'.history).indexed = (Calls.trace w.history).indexed ++ new ∧
    (must → new ≠ []) ∧
    ∀ x ∈ new, x = (Calls.trace w.history).elements (Calls.trace w.history).bindings.vertexArray

section

variable {σ : Type} {w : World σ} {must : Prop}

theorem World.DrewBound.of_eq {w' : World σ} (hmust : ¬must) (h : w'.history = w.history) :
    w.DrewBound must w' :=
  ⟨[], by rw [h, List.append_nil], fun hm => absurd hm hmust, by simp⟩

/-- A skip asks nothing of the device. -/
theorem CommandBuffer.runs_skip_history (c : CommandBuffer) (what : String) (reason : SkipReason) :
    Runs (c.skip what reason) w (fun _ w' => w'.history = w.history) (fun _ => True) := by
  unfold skip
  dsimp only
  split
  · exact runs_reject trivial
  · exact runs_note rfl

theorem CommandBuffer.drew_drawIndexed [GraphicsDevice σ] (c : CommandBuffer)
    (count first : UInt32) (base : Int32) :
    Runs (c.drawIndexed count first base) w (fun _ w' => w.DrewBound (c.CanDrawIndexed w first) w')
      (fun _ => True) := by
  unfold drawIndexed
  split
  · rename_i hnone
    have hcannot : ¬c.CanDrawIndexed w first := by
      rintro ⟨r, p, hr, -⟩
      rw [hnone] at hr
      cases hr
    exact Runs.bind (c.runs_skip_history _ _) fun _ _ h => Runs.pure (.of_eq hcannot h)
  · rename_i r hr
    refine Runs.bind_same (runs_view (E := fun _ => True)) fun p hp => ?_
    -- the pipeline that has to have elements is the one that is looked at
    have hcan : c.CanDrawIndexed w first → p.indexBuffer.isSome ∧
        (first.toNat * Mesh.indexSize).toUInt64.toNat ≤ GlDevice.maxBytes := by
      rintro ⟨r', p', hr', hp', hcan⟩
      obtain rfl : r = r' := Option.some.inj (hr.symm.trans hr')
      obtain rfl : p = p' := Option.some.inj (hp.symm.trans hp')
      exact hcan
    split
    · rename_i hnone
      have hcannot : ¬c.CanDrawIndexed w first := fun h => by
        simp [Option.isNone_iff_eq_none.mp hnone] at hcan
        exact hcan h
      exact Runs.bind (c.runs_skip_history _ _) fun _ _ h => Runs.pure (.of_eq hcannot h)
    · refine Runs.bind (runs_ask (E := fun _ => True)) ?_
      rintro - _ ⟨rfl, -⟩
      refine Runs.pure ⟨_, congrArg Trace.indexed (World.trace_asked _ _), fun h => ?_,
        fun x hx => ?_⟩
      · simpa using (hcan h).2
      · split at hx
        · exact List.mem_singleton.mp hx
        · cases hx

end

namespace Session

section Elements

variable {δ : Type} [RecordingDriver δ] [Conforming δ] {device : GlDevice δ} {files : Files}
  {s : State (GlDevice δ)} {r : Ref Pipeline} {p : Pipeline}

/-- The elements of a pipeline are in the index buffer it reports, or in none if it reports none,
    unless some call bound a buffer of elements while its vertex array was bound. So this is where
    the driver is told to draw from when the array is bound, and it is told to unless the pipeline
    has no elements or the first one is too far in. -/
theorem elements_of_pipeline [Toolchain] [ImageCodec] (hdevice : device.context.trace = .start)
    (hs : ReachedBy device files Action.Genuine s) (hp : s.world.pipelines.get? r = some p)
    (hspares : Calls.Stepwise (Calls.SparesElements p.array.raw) s.world.history) :
    s.world.HasElements p (s.world.device.context.elements p.array.raw) ∧
    ∀ name c count first base answer s', s.objects.lookup name = some (.commands c) →
      s.world.device.context.bindings.vertexArray = p.array.raw →
      (play (.command name (.drawIndexed count first base))).run.run s = (.ok answer, s') →
      ∃ new, s'.world.device.context.indexed = s.world.device.context.indexed ++ new ∧
        (c.CanDrawIndexed s.world first → new ≠ []) ∧ ∀ x ∈ new, s.world.HasElements p x := by
  have hmirrors := mirrors_of_reached hdevice hs
  have helements : s.world.HasElements p (s.world.device.context.elements p.array.raw) := by
    have hheld := (kept_mirroring hdevice hs).owns.hasElements hmirrors.fresh hp hspares
    rw [← hmirrors.trace] at hheld
    exact hheld
  refine ⟨helements, ?_⟩
  intro name c count first base answer s' hc hbound hrun
  have hs' : ReachedBy device files Action.Genuine s' :=
    hs.act (a := .step (.command name (.drawIndexed count first base))) trivial hrun (by simp)
  have hplay : Runs (play (.command name (.drawIndexed count first base))) s
      (fun _ s' => s.world.DrewBound (c.CanDrawIndexed s.world first) s'.world)
      (fun _ => True) :=
    runs_playCommand (Q := s.world.DrewBound (c.CanDrawIndexed s.world first))
      (E := fun _ => True) trivial hc (Runs.pure ⟨rfl, c.drew_drawIndexed count first base⟩)
  obtain ⟨new, hnew, hmust, hfrom⟩ := of_runs hplay hrun (by simp)
  refine ⟨new, ?_, hmust, fun x hx => ?_⟩
  · show s'.world.device.context.trace.indexed = s.world.device.context.trace.indexed ++ new
    rw [(mirrors_of_reached hdevice hs').trace, hmirrors.trace]
    exact hnew
  · -- a draw takes its elements from the array that is bound, which is that of the pipeline
    have hx : x = s.world.device.context.elements s.world.device.context.bindings.vertexArray := by
      rw [hfrom x hx, ← hmirrors.trace]
    rw [hx, hbound]
    exact helements

end Elements

/-! ## A pipeline with elements -/

/-- A pipeline that has elements from the first of two buffers is current. -/
def indexedPipeline : State (GlDevice GlReference) :=
  actAll
    [.step (.make "i" (.buffer .index .static (some 12) none)),
     .step (.make "j" (.buffer .index .static (some 12) none)),
     .step (.make "p" (.program none none false [.input emptyStage])),
     .step (.make "l" (.pipeline none [.program "p", .indexBuffer "i"])),
     .step (.make "c" (.commands .report)), .step (.command "c" (.setPipeline "l"))]
    { world := .start .reference, objects := [], files := .empty }

/-- Elements are drawn. -/
def drawnFrom (s : State (GlDevice GlReference)) :
    Except Refusal Answer × State (GlDevice GlReference) :=
  (play (.command "c" (.drawIndexed 3 0 0))).run.run s

theorem reached_indexedPipeline : ReachedBy .reference .empty Action.Genuine indexedPipeline := by
  refine ReachedBy.start.of_allOk ?_ (by decide +kernel)
  simp [Action.Genuine, Action.Public, Recipe.Named]

set_option maxRecDepth 2000 in
/-- What is drawn is drawn from the first buffer. -/
theorem elements_of_pipeline_reference :
    ∃ p x, indexedPipeline.world.pipelines.get? ⟨0⟩ = some p ∧ p.indexBuffer = some ⟨0⟩ ∧
      (drawnFrom indexedPipeline).2.world.device.context.indexed =
        indexedPipeline.world.device.context.indexed ++ [x] ∧
      indexedPipeline.world.HasElements p x := by
  have hshape : (indexedPipeline.world.pipelines.get? ⟨0⟩).map
      (fun p => (p.indexBuffer, p.array.raw)) = some (some ⟨0⟩, 5) := by decide +kernel
  obtain ⟨p, hp, hshape⟩ := Option.map_eq_some_iff.mp hshape
  obtain ⟨hindex, harray⟩ := Prod.mk.inj hshape
  have hbound : indexedPipeline.world.device.context.bindings.vertexArray = p.array.raw := by
    rw [harray]
    decide +kernel
  have hok : (drawnFrom indexedPipeline).1.isOk := by decide +kernel
  have hspares : Calls.Stepwise (Calls.SparesElements p.array.raw)
      indexedPipeline.world.history := Calls.sparesElements_of_all _ (by decide +kernel)
  rcases hrun : drawnFrom indexedPipeline with ⟨e | answer, s'⟩
  · rw [hrun] at hok
    cases hok
  · obtain ⟨new, hnew, -, hfrom⟩ := (elements_of_pipeline rfl reached_indexedPipeline hp
      hspares).2 "c" ⟨.report, false, some ⟨0⟩, some ⟨0⟩, none⟩ 3 0 0 answer s'
      (lookup_of_commands? (by decide +kernel)) hbound hrun
    have hone : ((drawnFrom indexedPipeline).2.world.device.context.indexed.drop
        indexedPipeline.world.device.context.indexed.length).length = 1 := by decide +kernel
    rw [hrun] at hone
    obtain ⟨x, rfl⟩ := exists_one_new hnew hone
    exact ⟨p, x, hp, hindex, hnew, hfrom x (List.mem_singleton_self x)⟩

/-- The other buffer is bound by itself. -/
def takenOver : State (GlDevice GlReference) :=
  actAll [.step (.bind "j" 0)] indexedPipeline

set_option maxRecDepth 2000 in
/-- The pipeline reports the first buffer still, and is drawn from the other one. -/
theorem elements_taken_over :
    ReachedBy .reference .empty Action.Genuine takenOver ∧
      ∃ p, takenOver.world.pipelines.get? ⟨0⟩ = some p ∧ p.indexBuffer = some ⟨0⟩ ∧
        takenOver.world.device.context.bindings.vertexArray = p.array.raw ∧
        ¬takenOver.world.HasElements p (takenOver.world.device.context.elements p.array.raw) ∧
        (drawnFrom takenOver).1.isOk ∧
        ∃ x, (drawnFrom takenOver).2.world.device.context.indexed = [x] ∧
          ¬takenOver.world.HasElements p x := by
  have hs : ReachedBy .reference .empty Action.Genuine takenOver :=
    reached_indexedPipeline.of_allOk (by simp [Action.Genuine, Action.Public]) (by decide +kernel)
  have hshape : (takenOver.world.pipelines.get? ⟨0⟩).map
      (fun p => (p.indexBuffer, p.array.raw)) = some (some ⟨0⟩, 5) := by decide +kernel
  obtain ⟨p, hp, hshape⟩ := Option.map_eq_some_iff.mp hshape
  obtain ⟨hindex, harray⟩ := Prod.mk.inj hshape
  have hbuffer : (takenOver.world.buffers.get? ⟨0⟩).map (fun b => b.handle.raw) = some 1 := by
    decide +kernel
  have hother : ¬takenOver.world.HasElements p 2 := by
    simp [World.HasElements, hindex, hbuffer]
  have helements : takenOver.world.device.context.elements p.array.raw = 2 := by
    rw [harray]
    decide +kernel
  refine ⟨hs, p, hp, hindex, ?_, helements ▸ hother, by decide +kernel, 2, by decide +kernel,
    hother⟩
  rw [harray]
  decide +kernel

end Session

end RenderKit
