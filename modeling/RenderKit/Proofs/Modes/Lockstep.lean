import RenderKit.Proofs.Modes.Blind

set_option autoImplicit false

/-! # Both modes in lockstep

An instruction that is carried out in both modes, in worlds that differ in their journals at most,
asks the device the same and leaves the same behind. It comes to different results only where it
is skipped, and then nothing has happened in either mode. -/

namespace RenderKit

/-- The command buffer in another mode. -/
def CommandBuffer.under (c : CommandBuffer) (v : Validation) : CommandBuffer :=
  { c with validation := v }

/-- The error of a command that was skipped. -/
def skipError (command : String) (reason : SkipReason) : Error :=
  Cause.error (CommandError.skipped command reason)

section Modes

variable {σ α : Type} {c : CommandBuffer}

/-! ## Tasks in both modes -/

/-- A task comes to the same in both modes, up to the mode. -/
def ParallelAt (t : Validation → Render σ CommandBuffer) (w w' : World σ) : Prop :=
  ((t .silent).run.run w).2.unlogged = ((t .report).run.run w').2.unlogged ∧
    ∃ outcome : Except Halt CommandBuffer,
      ((t .silent).run.run w).1 = outcome.map (·.under .silent) ∧
        ((t .report).run.run w').1 = outcome.map (·.under .report)

def Parallel (t : Validation → Render σ CommandBuffer) : Prop :=
  ∀ w w' : World σ, w.unlogged = w'.unlogged → ParallelAt t w w'

/-- A task is skipped: done in one mode and an error in the other, and nothing has happened. -/
def SkippedAt (c : CommandBuffer) (t : Validation → Render σ CommandBuffer) (w w' : World σ) :
    Prop :=
  ∃ command reason,
    ((t .silent).run.run w).1 = .ok (c.under .silent) ∧
      ((t .report).run.run w').1 = .error (.error (skipError command reason)) ∧
      ((t .silent).run.run w).2.unlogged = w.unlogged ∧
      ((t .report).run.run w').2.unlogged = w'.unlogged

def Lockstep (c : CommandBuffer) (t : Validation → Render σ CommandBuffer) : Prop :=
  ∀ w w' : World σ, w.unlogged = w'.unlogged → ParallelAt t w w' ∨ SkippedAt c t w w'

theorem Parallel.lockstep {t : Validation → Render σ CommandBuffer} (h : Parallel t) :
    Lockstep c t :=
  fun w w' hw => .inl (h w w' hw)

theorem parallel_pure (c : CommandBuffer) :
    Parallel fun v => (pure (c.under v) : Render σ CommandBuffer) :=
  fun _ _ h => ⟨h, .ok c, rfl, rfl⟩

/-- First something that has nothing to do with the mode. -/
theorem Blind.parallel {s : Render σ α} {f : Validation → α → Render σ CommandBuffer}
    (hs : Blind s) (hf : ∀ a, Parallel fun v => f v a) : Parallel fun v => s >>= f v := by
  intro w w' h
  obtain ⟨houtcome, hworld⟩ := hs w w' h
  unfold ParallelAt
  rw [run_bind, run_bind]
  rcases hw : s.run.run w with ⟨e | a, w₁⟩
  all_goals
    rcases hw' : s.run.run w' with ⟨e' | a', w₁'⟩
    all_goals
      rw [hw, hw'] at houtcome hworld
      cases houtcome
  · exact ⟨hworld, .error e, rfl, rfl⟩
  · exact hf a w₁ w₁' hworld

/-- First another task with the command buffer. -/
theorem Parallel.andThen {t : Validation → Render σ CommandBuffer}
    {f : CommandBuffer → Render σ CommandBuffer} (ht : Parallel t)
    (hf : ∀ c : CommandBuffer, Parallel fun v => f (c.under v)) :
    Parallel fun v => t v >>= f := by
  intro w w' h
  obtain ⟨hworld, outcome, hsilent, hreport⟩ := ht w w' h
  unfold ParallelAt
  rw [run_bind, run_bind]
  rcases hw : (t .silent).run.run w with ⟨r, w₁⟩
  rcases hw' : (t .report).run.run w' with ⟨r', w₁'⟩
  rw [hw, hw'] at hworld
  rw [hw] at hsilent
  rw [hw'] at hreport
  simp only at hsilent hreport hworld
  subst hsilent hreport
  rcases outcome with e | c
  · exact ⟨hworld, .error e, rfl, rfl⟩
  · exact hf c w₁ w₁' hworld

theorem Parallel.ite {p : Prop} [Decidable p] {s t : Validation → Render σ CommandBuffer}
    (hs : Parallel s) (ht : Parallel t) : Parallel fun v => if p then s v else t v := by
  by_cases hp : p
  · simpa only [if_pos hp] using hs
  · simpa only [if_neg hp] using ht

theorem Lockstep.ite {p : Prop} [Decidable p] {s t : Validation → Render σ CommandBuffer}
    (hs : Lockstep c s) (ht : Lockstep c t) : Lockstep c fun v => if p then s v else t v := by
  by_cases hp : p
  · simpa only [if_pos hp] using hs
  · simpa only [if_neg hp] using ht

/-- A look at an object changes nothing. -/
theorem lockstep_view [Pooled α] [Unlogged α] {r : Ref α}
    {f : Validation → α → Render σ CommandBuffer} (hf : ∀ a, Lockstep c fun v => f v a) :
    Lockstep c fun v => view r >>= f v := by
  intro w w' h
  unfold ParallelAt SkippedAt
  simp only [run_bind, run_view, pool_eq h]
  rcases (Pooled.pool w').get? r with _ | a
  · exact .inl ⟨h, .error .abort, rfl, rfl⟩
  · exact hf a w w' h

theorem lockstep_skip (command : String) (reason : SkipReason) :
    Lockstep c fun v => ((c.under v).skip command reason >>= fun _ => pure (c.under v) :
      Render σ CommandBuffer) :=
  fun _ _ _ => .inr ⟨command, reason, rfl, rfl, rfl, rfl⟩

end Modes

/-! ## Instructions -/

namespace CommandBuffer

variable {σ : Type} [GraphicsDevice σ] {c : CommandBuffer}

omit [GraphicsDevice σ] in
theorem lockstep_start : Lockstep c fun v => ((c.under v).start : Render σ CommandBuffer) := by
  rcases c with ⟨_, _ | _, pipeline, program, target⟩
  · exact (parallel_pure ⟨.silent, true, pipeline, program, target⟩).lockstep
  · exact lockstep_skip "begin" .alreadyRecording

theorem parallel_endPass (h : c.target.isSome) :
    Parallel fun v => ((c.under v).endPass : Render σ CommandBuffer) := by
  rcases c with ⟨v, recording, pipeline, program, _ | target⟩
  · cases h
  · refine (blind_ask _).parallel fun _ => (blind_release target).parallel fun _ => ?_
    exact parallel_pure ⟨v, recording, pipeline, program, none⟩

theorem lockstep_endPass : Lockstep c fun v => ((c.under v).endPass : Render σ CommandBuffer) := by
  rcases htarget : c.target with _ | target
  · rcases c with ⟨_, recording, pipeline, program, target⟩
    cases htarget
    exact lockstep_skip "end_render_pass" .noPass
  · exact (parallel_endPass (Option.isSome_of_eq_some htarget)).lockstep

theorem lockstep_finish : Lockstep c fun v => ((c.under v).finish : Render σ CommandBuffer) := by
  have hidle : ∀ c : CommandBuffer, Parallel fun v => (do
      releaseOption (c.under v).pipeline
      releaseOption (c.under v).program
      return { c.under v with recording := false, pipeline := none, program := none } :
        Render σ CommandBuffer) := fun c =>
    (blind_releaseOption c.pipeline).parallel fun _ =>
      (blind_releaseOption c.program).parallel fun _ =>
        parallel_pure { c with recording := false, pipeline := none, program := none }
  rcases c with ⟨v, _ | _, pipeline, program, _ | target⟩
  · exact lockstep_skip "end" .notRecording
  · exact lockstep_skip "end" .notRecording
  · exact (hidle ⟨v, true, pipeline, program, none⟩).lockstep
  · have hpass := parallel_endPass (σ := σ) (c := ⟨v, true, pipeline, program, some target⟩) rfl
    exact (hpass.andThen hidle).lockstep

theorem lockstep_beginPass (pass : RenderPass) :
    Lockstep c fun v => ((c.under v).beginPass pass : Render σ CommandBuffer) := by
  rcases c with ⟨v, recording, pipeline, program, _ | target⟩
  · have hrest : Parallel fun v => (hold pass.framebuffer >>= fun _ =>
        pure (under ⟨v, recording, pipeline, program, some pass.framebuffer⟩ v) :
          Render σ CommandBuffer) :=
      blind_hold.parallel fun _ => parallel_pure _
    refine ((Framebuffer.blind_bind _).parallel fun _ => ?_).lockstep
    exact .ite ((blind_ask _).parallel fun _ => hrest) hrest
  · exact lockstep_skip "begin_render_pass" .passActive

theorem parallel_setPipeline (r : Ref Pipeline) :
    Parallel fun v => ((c.under v).setPipeline r : Render σ CommandBuffer) := by
  refine (Pipeline.blind_bind r).parallel fun _ => blind_view.parallel fun p => ?_
  refine blind_hold.parallel fun _ => (blind_releaseOption c.program).parallel fun _ => ?_
  refine blind_hold.parallel fun _ => (blind_releaseOption c.pipeline).parallel fun _ => ?_
  exact parallel_pure { c with pipeline := some r, program := some p.program }

theorem lockstep_setUniform (name : String) (value : UniformValue) :
    Lockstep c fun v => ((c.under v).setUniform name value : Render σ CommandBuffer) := by
  rcases c with ⟨v, recording, pipeline, _ | r, target⟩
  · exact lockstep_skip "set_uniform" .noShader
  · have hset := Program.blind_setUniform (σ := σ) r name value
    exact (hset.parallel fun _ => parallel_pure ⟨v, recording, pipeline, r, target⟩).lockstep

theorem lockstep_setTexture (slot : UInt32) (r : Ref Texture) :
    Lockstep c fun v => ((c.under v).setTexture slot r : Render σ CommandBuffer) := by
  rcases c with ⟨v, recording, pipeline, _ | program, target⟩
  · exact lockstep_skip "set_texture" .noShader
  · have hbind := Texture.blind_bind (σ := σ) r slot
    exact (hbind.parallel fun _ => parallel_pure ⟨v, recording, pipeline, program, target⟩).lockstep

theorem lockstep_setSampler (slot : UInt32) (r : Ref Sampler) :
    Lockstep c fun v => ((c.under v).setSampler slot r : Render σ CommandBuffer) := by
  rcases c with ⟨v, recording, pipeline, _ | program, target⟩
  · exact lockstep_skip "set_sampler" .noShader
  · have hbind := Sampler.blind_bind (σ := σ) r slot
    exact (hbind.parallel fun _ => parallel_pure ⟨v, recording, pipeline, program, target⟩).lockstep

theorem parallel_bindUniformBuffer (binding : UInt32) (r : Ref Buffer) :
    Parallel fun v => ((c.under v).bindUniformBuffer binding r : Render σ CommandBuffer) := by
  refine blind_view.parallel fun b => .ite ?_ ?_
  · exact (blind_reject _).parallel fun _ => (blind_ask _).parallel fun _ => parallel_pure c
  · exact (blind_ask _).parallel fun _ => parallel_pure c

theorem lockstep_setVertexBuffer (r : Ref Buffer) :
    Lockstep c fun v => ((c.under v).setVertexBuffer r : Render σ CommandBuffer) := by
  rcases c with ⟨v, recording, _ | pipeline, program, target⟩
  · exact lockstep_skip "set_vertex_buffer" .noPipeline
  · have hset := Pipeline.blind_setVertexBuffer (σ := σ) pipeline r
    exact (hset.parallel fun _ => parallel_pure ⟨v, recording, pipeline, program, target⟩).lockstep

theorem lockstep_setIndexBuffer (r : Ref Buffer) :
    Lockstep c fun v => ((c.under v).setIndexBuffer r : Render σ CommandBuffer) := by
  rcases c with ⟨v, recording, _ | pipeline, program, target⟩
  · exact lockstep_skip "set_index_buffer" .noPipeline
  · have hset := Pipeline.blind_setIndexBuffer (σ := σ) pipeline r
    exact (hset.parallel fun _ => parallel_pure ⟨v, recording, pipeline, program, target⟩).lockstep

theorem lockstep_draw (count first : UInt32) :
    Lockstep c fun v => ((c.under v).draw count first : Render σ CommandBuffer) := by
  rcases c with ⟨v, recording, _ | r, program, target⟩
  · exact lockstep_skip "draw" .noPipeline
  · refine (blind_view.parallel fun p => (blind_ask _).parallel fun _ => ?_).lockstep
    exact parallel_pure ⟨v, recording, r, program, target⟩

theorem lockstep_drawIndexed (count first : UInt32) (base : Int32) :
    Lockstep c fun v => ((c.under v).drawIndexed count first base : Render σ CommandBuffer) := by
  rcases c with ⟨v, recording, _ | r, program, target⟩
  · exact lockstep_skip "draw_indexed" .noPipeline
  · have hdone := parallel_pure (σ := σ) ⟨v, recording, r, program, target⟩
    refine lockstep_view fun p => .ite (lockstep_skip "draw_indexed" .noIndexBuffer) ?_
    exact ((blind_ask _).parallel fun _ => hdone).lockstep

theorem lockstep_drawMesh (m : Mesh) :
    Lockstep c fun v => ((c.under v).drawMesh m : Render σ CommandBuffer) := by
  rcases c with ⟨v, recording, _ | r, program, target⟩
  · exact lockstep_skip "draw_mesh" .noPipeline
  · have hdone := parallel_pure (σ := σ) ⟨v, recording, r, program, target⟩
    refine ((Mesh.blind_attach m r).parallel fun _ => ?_).lockstep
    exact .ite ((blind_ask _).parallel fun _ => hdone) ((blind_ask _).parallel fun _ => hdone)

end CommandBuffer

theorem Instruction.lockstep_perform {σ : Type} [GraphicsDevice σ] {c : CommandBuffer}
    (i : Instruction) : Lockstep c fun v => (i.perform (c.under v) : Render σ CommandBuffer) := by
  cases i with
  | start => exact CommandBuffer.lockstep_start
  | finish => exact CommandBuffer.lockstep_finish
  | beginPass pass => exact CommandBuffer.lockstep_beginPass pass
  | endPass => exact CommandBuffer.lockstep_endPass
  | setPipeline r => exact (CommandBuffer.parallel_setPipeline r).lockstep
  | setViewport area => exact ((blind_ask _).parallel fun _ => parallel_pure c).lockstep
  | setScissor area => exact ((blind_ask _).parallel fun _ => parallel_pure c).lockstep
  | setUniform name value => exact CommandBuffer.lockstep_setUniform name value
  | setTexture slot r => exact CommandBuffer.lockstep_setTexture slot r
  | setSampler slot r => exact CommandBuffer.lockstep_setSampler slot r
  | bindUniformBuffer binding r =>
      exact (CommandBuffer.parallel_bindUniformBuffer binding r).lockstep
  | setVertexBuffer r => exact CommandBuffer.lockstep_setVertexBuffer r
  | setIndexBuffer r => exact CommandBuffer.lockstep_setIndexBuffer r
  | draw count first => exact CommandBuffer.lockstep_draw count first
  | drawIndexed count first base => exact CommandBuffer.lockstep_drawIndexed count first base
  | drawMesh m => exact CommandBuffer.lockstep_drawMesh m

end RenderKit
