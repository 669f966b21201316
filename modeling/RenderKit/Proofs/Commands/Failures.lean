import RenderKit.Proofs.Meshes.Bounds
import RenderKit.Proofs.Modes.Lockstep
import RenderKit.Proofs.Resources.Operations

set_option autoImplicit false

/-! # Failures of commands

A command that fails has done nothing yet. Most commands only fail where they are skipped. A mesh is
attached in two steps, each of which may fail; but the buffers of a mesh had the right kinds when it
was created, no buffer ever changes its kind, and so only the layout can be wrong, which is looked at
before anything is attached. -/

namespace RenderKit

/-! ## Tasks that fail at once -/

section Tasks

variable {σ α β c : Type} [Cause c] {F : Error → Prop} {w : World σ}

/-- A task that comes to its end, or fails before it has done anything with an error of some
    sort. -/
structure CleanAt (F : Error → Prop) (t : Render σ α) (w : World σ) : Prop where
  done : ∀ a w', t.run.run w = (.ok a, w') → w.Later w'
  failed : ∀ e w', t.run.run w = (.error (.error e), w') → F e ∧ w'.unlogged = w.unlogged

theorem World.Later.of_unlogged {w' : World σ} (h : w'.unlogged = w.unlogged) : w.Later w' :=
  have hbuffers : w'.unlogged.buffers = w.unlogged.buffers := by rw [h]
  have htextures : w'.unlogged.textures = w.unlogged.textures := by rw [h]
  have hsamplers : w'.unlogged.samplers = w.unlogged.samplers := by rw [h]
  .of_same hbuffers htextures hsamplers

theorem CleanAt.runs {t : Render σ α} (ht : CleanAt F t w) :
    Runs t w (fun _ => w.Later) fun w' => w'.unlogged = w.unlogged := by
  unfold Runs
  rcases hrun : t.run.run w with ⟨(e | _) | a, w'⟩
  · exact .inr (ht.failed e w' hrun).2
  · exact .inl rfl
  · exact ht.done a w' hrun

theorem Lasting.of_clean {t : Render σ α} {F : World σ → Error → Prop}
    (ht : ∀ w, CleanAt (F w) t w) : Lasting True t :=
  fun w => (ht w).runs.mono (fun _ _ h => h) fun _ h => ⟨trivial, .of_unlogged h⟩

/-- A task that cannot fail. -/
theorem Lasting.clean {t : Render σ α} (ht : Lasting False t) : CleanAt F t w :=
  ⟨fun _ _ hrun => (ht w).of_ok hrun,
    fun _ _ hrun => ((ht w).of_error hrun (by rintro ⟨⟩)).1.elim⟩

theorem cleanAt_reject {cause : c} (h : F (Cause.error cause)) :
    CleanAt F (reject cause : Render σ α) w := by
  constructor
  all_goals
    intro _ _ hrun
    cases hrun
  exact ⟨h, rfl⟩

theorem CleanAt.reject_if {wrong : Prop} [Decidable wrong] {cause : c} {f : α → Render σ β}
    {t : Render σ β} (h : wrong → F (Cause.error cause)) (ht : ¬wrong → CleanAt F t w) :
    CleanAt F (if wrong then reject cause >>= f else t) w := by
  split
  · rename_i hwrong
    have hreject : CleanAt F (reject cause : Render σ β) w := cleanAt_reject (h hwrong)
    exact hreject
  · rename_i hfine
    exact ht hfine

theorem CleanAt.view_bind [Pooled α] {r : Ref α} {f : α → Render σ β}
    (hf : ∀ a, (Pooled.pool w).get? r = some a → CleanAt F (f a) w) :
    CleanAt F (view r >>= f) w := by
  rcases hget : (Pooled.pool w).get? r with _ | a
  · have habort : (view r >>= f).run.run w = (.error .abort, w) := by
      rw [run_bind, run_view, hget]
    constructor
    all_goals
      intro _ _ hrun
      rw [habort] at hrun
      cases hrun
  · constructor
    all_goals
      intro _ _ hrun
      rw [run_view_bind hget] at hrun
    · exact (hf a hget).done _ _ hrun
    · exact (hf a hget).failed _ _ hrun

/-- What comes after something was done must not fail. -/
theorem CleanAt.bind {t : Render σ α} {f : α → Render σ β} (ht : CleanAt F t w)
    (hf : ∀ a w', w.Later w' → CleanAt (fun _ => False) (f a) w') : CleanAt F (t >>= f) w := by
  constructor
  all_goals
    intro _ _ hrun
    rw [run_bind] at hrun
    rcases hfirst : t.run.run w with ⟨e | a, w₁⟩
    all_goals rw [hfirst] at hrun
  -- the whole comes to its end only if both parts do, and fails only in its first part
  · cases hrun
  · have hlater := ht.done a w₁ hfirst
    exact hlater.trans ((hf a w₁ hlater).done _ _ hrun)
  · cases hrun
    exact ht.failed _ _ hfirst
  · exact ((hf a w₁ (ht.done a w₁ hfirst)).failed _ _ hrun).1.elim

/-! ## Tasks that do fail -/

def FailsAt (e : Error) (t : Render σ α) (w : World σ) : Prop :=
  ∃ w', t.run.run w = (.error (.error e), w')

variable {e : Error}

theorem failsAt_reject (cause : c) : FailsAt (Cause.error cause) (reject cause : Render σ α) w :=
  ⟨_, rfl⟩

theorem FailsAt.bind {t : Render σ α} {f : α → Render σ β} (h : FailsAt e t w) :
    FailsAt e (t >>= f) w := by
  obtain ⟨w', hrun⟩ := h
  exact ⟨w', by rw [run_bind, hrun]⟩

theorem FailsAt.view_bind [Pooled α] {r : Ref α} {a : α} {f : α → Render σ β}
    (hget : (Pooled.pool w).get? r = some a) (h : FailsAt e (f a) w) :
    FailsAt e (view r >>= f) w := by
  unfold FailsAt
  rw [run_view_bind hget]
  exact h

end Tasks

/-! ## Buffers of the right kind -/

section Kinds

variable {σ : Type} {w w' : World σ} {r : Ref Buffer} {kind : BufferKind}

/-- A reference that leads to a buffer of a kind, or nowhere any more. -/
def Leads (w : World σ) (r : Ref Buffer) (kind : BufferKind) : Prop :=
  r.place < w.buffers.slots.length ∧
    ∀ b : Buffer, (Pooled.pool w).get? r = some b → b.kind = kind

theorem Leads.later (h : Leads w r kind) (hw : w.Later w') : Leads w' r kind :=
  ⟨Nat.lt_of_lt_of_le h.1 hw.buffers.length_le, fun b hb => h.2 b (hw.buffers.found r b h.1 hb)⟩

theorem leads_of_get? {b : Buffer} (h : (Pooled.pool w).get? r = some b) : Leads w r b.kind := by
  obtain ⟨s, hslot, rfl⟩ := Pool.slot?_of_get? h
  refine ⟨(List.getElem?_eq_some_iff.mp (Pool.slot?_eq_some_iff.mp hslot)).1, fun b' hb' => ?_⟩
  rw [h] at hb'
  cases hb'
  rfl

/-- The buffers of a mesh are of the kinds that they are used as. -/
structure Mesh.Supplied (m : Mesh) (w : World σ) : Prop where
  vertices : Leads w m.vertexBuffer .vertex
  indices : ∀ r ∈ m.indexBuffer, Leads w r .index

theorem Mesh.Supplied.later {m : Mesh} (h : m.Supplied w) (hw : w.Later w') : m.Supplied w' :=
  ⟨h.vertices.later hw, fun r hr => (h.indices r hr).later hw⟩

theorem Mesh.Planned.supplied {plan : MeshPlan} {m : Mesh} (h : m.Planned plan w) :
    m.Supplied w := by
  have hleads : ∀ {r : Ref Buffer} {kind : BufferKind} {requested : Option UInt32} {each : Nat}
      {n : UInt32}, Stocks w r kind requested each n → Leads w r kind := by
    rintro r _ _ _ _ ⟨b, hb, rfl, -⟩
    exact leads_of_get? hb
  exact ⟨hleads h.vertices, fun r hr => hleads (h.indices r hr)⟩

end Kinds

section Attaching

variable {σ : Type} [GraphicsDevice σ] {F : Error → Prop} {w : World σ} {r : Ref Pipeline}
  {buffer : Ref Buffer}

theorem Pipeline.cleanAt_setVertexBuffer
    (h : ∀ b : Buffer, (Pooled.pool w).get? buffer = some b → b.kind ≠ .vertex →
      F (Cause.error (PipelineError.notVertexBuffer b.kind))) :
    CleanAt F (setVertexBuffer r buffer) w := by
  refine CleanAt.view_bind fun b hb => CleanAt.reject_if (h b hb) fun _ => ?_
  exact ((lasting_view r).bind fun _ => lasting_replace r buffer _ _ _).clean

theorem Pipeline.cleanAt_setIndexBuffer
    (h : ∀ b : Buffer, (Pooled.pool w).get? buffer = some b → b.kind ≠ .index →
      F (Cause.error (PipelineError.notIndexBuffer b.kind))) :
    CleanAt F (setIndexBuffer r buffer) w := by
  refine CleanAt.view_bind fun b hb => CleanAt.reject_if (h b hb) fun _ => ?_
  exact ((lasting_view r).bind fun _ => lasting_replace r buffer _ _ _).clean

/-- Both buffers are attached or none is. -/
theorem Mesh.cleanAt_attach {m : Mesh} (hm : m.Supplied w)
    (h : ∀ p : Pipeline, (Pooled.pool w).get? r = some p → p.layout ≠ m.layout →
      F (Cause.error MeshError.otherLayout)) :
    CleanAt F (m.attach r) w := by
  refine CleanAt.view_bind fun p hp => CleanAt.reject_if (h p hp) fun _ => ?_
  have hvertices : ∀ b : Buffer, (Pooled.pool w).get? m.vertexBuffer = some b →
      b.kind ≠ .vertex → F (Cause.error (PipelineError.notVertexBuffer b.kind)) :=
    fun b hb hkind => absurd (hm.vertices.2 b hb) hkind
  refine (Pipeline.cleanAt_setVertexBuffer hvertices).bind fun _ w₁ hw₁ => ?_
  split
  · rename_i indices hindices
    -- the vertex buffer that was there may be gone now, but the index buffer is of the same kind still
    refine Pipeline.cleanAt_setIndexBuffer fun b hb hkind => hkind ?_
    exact ((hm.indices indices hindices).later hw₁).2 b hb
  · exact (lasting_pure _).clean

end Attaching

/-! ## Reasons to fail -/

section Instructions

variable {σ : Type} {w : World σ} {c : CommandBuffer} {i : Instruction} {e : Error}

namespace Instruction

/-- An instruction that makes no sense in the state of a command buffer, with the name under which
    it is skipped, and why. -/
inductive Skipped (w : World σ) (c : CommandBuffer) : Instruction → String → SkipReason → Prop where
  | start : c.recording = true → Skipped w c .start "begin" .alreadyRecording
  | finish : c.recording = false → Skipped w c .finish "end" .notRecording
  | beginPass {pass : RenderPass} : c.target.isSome →
      Skipped w c (.beginPass pass) "begin_render_pass" .passActive
  | endPass : c.target = none → Skipped w c .endPass "end_render_pass" .noPass
  | setUniform {name : String} {value : UniformValue} : c.program = none →
      Skipped w c (.setUniform name value) "set_uniform" .noShader
  | setTexture {slot : UInt32} {r : Ref Texture} : c.program = none →
      Skipped w c (.setTexture slot r) "set_texture" .noShader
  | setSampler {slot : UInt32} {r : Ref Sampler} : c.program = none →
      Skipped w c (.setSampler slot r) "set_sampler" .noShader
  | setVertexBuffer {r : Ref Buffer} : c.pipeline = none →
      Skipped w c (.setVertexBuffer r) "set_vertex_buffer" .noPipeline
  | setIndexBuffer {r : Ref Buffer} : c.pipeline = none →
      Skipped w c (.setIndexBuffer r) "set_index_buffer" .noPipeline
  | draw {count first : UInt32} : c.pipeline = none →
      Skipped w c (.draw count first) "draw" .noPipeline
  | drawIndexed {count first : UInt32} {base : Int32} : c.pipeline = none →
      Skipped w c (.drawIndexed count first base) "draw_indexed" .noPipeline
  | noIndices {count first : UInt32} {base : Int32} {r : Ref Pipeline} {p : Pipeline} :
      c.pipeline = some r → (Pooled.pool w).get? r = some p → p.indexBuffer = none →
      Skipped w c (.drawIndexed count first base) "draw_indexed" .noIndexBuffer
  | drawMesh {m : Mesh} : c.pipeline = none → Skipped w c (.drawMesh m) "draw_mesh" .noPipeline

/-- The errors of an instruction: where skips are reported, that it is skipped; else that a buffer
    is of the wrong kind, or that a mesh has another layout than the pipeline. -/
inductive Fails (w : World σ) (c : CommandBuffer) : Instruction → Error → Prop where
  | skipped {i : Instruction} {command : String} {reason : SkipReason} :
      c.validation = .report → Skipped w c i command reason →
      Fails w c i (skipError command reason)
  | notUniformBuffer {binding : UInt32} {r : Ref Buffer} {b : Buffer} :
      (Pooled.pool w).get? r = some b → b.kind ≠ .uniform →
      Fails w c (.bindUniformBuffer binding r)
        (Cause.error (CommandError.notUniformBuffer b.kind))
  | notVertexBuffer {p : Ref Pipeline} {r : Ref Buffer} {b : Buffer} :
      c.pipeline = some p → (Pooled.pool w).get? r = some b → b.kind ≠ .vertex →
      Fails w c (.setVertexBuffer r) (Cause.error (PipelineError.notVertexBuffer b.kind))
  | notIndexBuffer {p : Ref Pipeline} {r : Ref Buffer} {b : Buffer} :
      c.pipeline = some p → (Pooled.pool w).get? r = some b → b.kind ≠ .index →
      Fails w c (.setIndexBuffer r) (Cause.error (PipelineError.notIndexBuffer b.kind))
  | otherLayout {r : Ref Pipeline} {p : Pipeline} {m : Mesh} :
      c.pipeline = some r → (Pooled.pool w).get? r = some p → p.layout ≠ m.layout →
      Fails w c (.drawMesh m) (Cause.error MeshError.otherLayout)

/-- The mesh that is drawn, if any, has buffers of the right kinds. -/
def Supplied (w : World σ) : Instruction → Prop
  | .drawMesh m => m.Supplied w
  | _ => True

end Instruction

/-! ## Commands that fail -/

variable [GraphicsDevice σ]

namespace CommandBuffer

omit [GraphicsDevice σ] in
theorem lasting_skip (command : String) (reason : SkipReason) :
    Lasting True (c.skip command reason : Render σ Unit) := by
  unfold skip
  split
  · exact lasting_reject _
  · exact lasting_note _ _ _

omit [GraphicsDevice σ] in
/-- A skip is an error or nothing at all. -/
theorem cleanAt_skip {command : String} {reason : SkipReason}
    (h : i.Skipped w c command reason) :
    CleanAt (i.Fails w c) (do
      c.skip command reason
      return c : Render σ CommandBuffer) w := by
  rcases hmode : c.validation with _ | _
  · have hskip : (c.skip command reason : Render σ Unit) =
        note .trace "cbox::command" (Cause.message (CommandError.skipped command reason)) := by
      unfold skip
      rw [hmode]
      rfl
    rw [hskip]
    exact ((lasting_note _ _ _).bind fun _ => lasting_pure c).clean
  · have hskip : (c.skip command reason : Render σ Unit) =
        reject (CommandError.skipped command reason) := by
      unfold skip
      rw [hmode]
    rw [hskip]
    exact (cleanAt_reject (.skipped hmode h)).bind fun _ _ _ => (lasting_pure c).clean

omit [GraphicsDevice σ] in
theorem cleanAt_start : CleanAt (Instruction.start.Fails w c) (c.start : Render σ _) w := by
  unfold start
  split
  · exact cleanAt_skip (.start ‹_›)
  · exact (lasting_pure _).clean

theorem lasting_endPass (h : c.target.isSome) :
    Lasting False (c.endPass : Render σ CommandBuffer) := by
  obtain ⟨target, htarget⟩ := Option.isSome_iff_exists.mp h
  unfold endPass
  rw [htarget]
  exact Framebuffer.lasting_unbind.bind fun _ => (lasting_release target).bind fun _ =>
    lasting_pure _

theorem cleanAt_endPass :
    CleanAt (Instruction.endPass.Fails w c) (c.endPass : Render σ CommandBuffer) w := by
  rcases htarget : c.target with _ | target
  · unfold endPass
    rw [htarget]
    exact cleanAt_skip (.endPass htarget)
  · exact (lasting_endPass (by simp [htarget])).clean

/-- The pass is ended only if there is one, so that this does not fail. -/
theorem cleanAt_finish :
    CleanAt (Instruction.finish.Fails w c) (c.finish : Render σ CommandBuffer) w := by
  unfold finish
  extract_lets idle
  have hidle : ∀ c : CommandBuffer, Lasting False (idle c) := fun c =>
    (lasting_releaseOption c.pipeline).bind fun _ =>
      (lasting_releaseOption c.program).bind fun _ => lasting_pure _
  split
  · rename_i hrecording
    exact cleanAt_skip (.finish (by simpa using hrecording))
  · split
    · rename_i htarget
      exact ((lasting_endPass htarget).bind hidle).clean
    · exact (hidle c).clean

theorem cleanAt_beginPass (pass : RenderPass) :
    CleanAt ((Instruction.beginPass pass).Fails w c) (c.beginPass pass : Render σ _) w := by
  unfold beginPass
  extract_lets request enter
  have henter : Lasting False (enter ()) := (lasting_hold _).bind fun _ => lasting_pure _
  split
  · exact cleanAt_skip (.beginPass ‹_›)
  · refine ((Framebuffer.lasting_bind _).bind fun _ => ?_).clean
    split
    · exact (lasting_ask _).bind fun _ => henter
    · exact henter

theorem lasting_setPipeline (r : Ref Pipeline) :
    Lasting False (c.setPipeline r : Render σ CommandBuffer) := by
  refine (Pipeline.lasting_bind r).bind fun _ => (lasting_view r).bind fun p => ?_
  refine (lasting_hold _).bind fun _ => (lasting_releaseOption _).bind fun _ => ?_
  exact (lasting_hold _).bind fun _ => (lasting_releaseOption _).bind fun _ => lasting_pure _

theorem cleanAt_setUniform (name : String) (value : UniformValue) :
    CleanAt ((Instruction.setUniform name value).Fails w c) (c.setUniform name value) w := by
  unfold setUniform
  split
  · exact cleanAt_skip (.setUniform ‹_›)
  · exact ((Program.lasting_setUniform _ _ _).bind fun _ => lasting_pure _).clean

theorem cleanAt_setTexture (slot : UInt32) (r : Ref Texture) :
    CleanAt ((Instruction.setTexture slot r).Fails w c) (c.setTexture slot r) w := by
  unfold setTexture
  split
  · exact cleanAt_skip (.setTexture (Option.isNone_iff_eq_none.mp ‹_›))
  · exact ((Texture.lasting_bind _ _).bind fun _ => lasting_pure _).clean

theorem cleanAt_setSampler (slot : UInt32) (r : Ref Sampler) :
    CleanAt ((Instruction.setSampler slot r).Fails w c) (c.setSampler slot r) w := by
  unfold setSampler
  split
  · exact cleanAt_skip (.setSampler (Option.isNone_iff_eq_none.mp ‹_›))
  · exact ((Sampler.lasting_bind _ _).bind fun _ => lasting_pure _).clean

theorem cleanAt_bindUniformBuffer (binding : UInt32) (r : Ref Buffer) :
    CleanAt ((Instruction.bindUniformBuffer binding r).Fails w c) (c.bindUniformBuffer binding r)
      w := by
  refine CleanAt.view_bind fun b hb => CleanAt.reject_if (.notUniformBuffer hb) fun _ => ?_
  exact ((lasting_ask _).bind fun _ => lasting_pure c).clean

theorem cleanAt_setVertexBuffer (r : Ref Buffer) :
    CleanAt ((Instruction.setVertexBuffer r).Fails w c) (c.setVertexBuffer r) w := by
  unfold setVertexBuffer
  split
  · exact cleanAt_skip (.setVertexBuffer ‹_›)
  · rename_i p hpipeline
    exact (Pipeline.cleanAt_setVertexBuffer fun b hb => .notVertexBuffer hpipeline hb).bind
      fun _ _ _ => (lasting_pure c).clean

theorem cleanAt_setIndexBuffer (r : Ref Buffer) :
    CleanAt ((Instruction.setIndexBuffer r).Fails w c) (c.setIndexBuffer r) w := by
  unfold setIndexBuffer
  split
  · exact cleanAt_skip (.setIndexBuffer ‹_›)
  · rename_i p hpipeline
    exact (Pipeline.cleanAt_setIndexBuffer fun b hb => .notIndexBuffer hpipeline hb).bind
      fun _ _ _ => (lasting_pure c).clean

theorem cleanAt_draw (count first : UInt32) :
    CleanAt ((Instruction.draw count first).Fails w c) (c.draw count first) w := by
  unfold draw
  split
  · exact cleanAt_skip (.draw ‹_›)
  · exact ((lasting_view _).bind fun _ => (lasting_ask _).bind fun _ => lasting_pure _).clean

theorem cleanAt_drawIndexed (count first : UInt32) (base : Int32) :
    CleanAt ((Instruction.drawIndexed count first base).Fails w c) (c.drawIndexed count first base)
      w := by
  unfold drawIndexed
  split
  · exact cleanAt_skip (.drawIndexed ‹_›)
  · rename_i r hpipeline
    refine CleanAt.view_bind fun p hp => ?_
    split
    · exact cleanAt_skip (.noIndices hpipeline hp (Option.isNone_iff_eq_none.mp ‹_›))
    · exact ((lasting_ask _).bind fun _ => lasting_pure _).clean

theorem cleanAt_drawMesh {m : Mesh} (hm : m.Supplied w) :
    CleanAt ((Instruction.drawMesh m).Fails w c) (c.drawMesh m) w := by
  unfold drawMesh
  split
  · exact cleanAt_skip (.drawMesh ‹_›)
  · rename_i r hpipeline
    refine (Mesh.cleanAt_attach hm fun p hp => .otherLayout hpipeline hp).bind fun _ _ _ => ?_
    refine Lasting.clean ?_
    split
    · exact (lasting_ask _).bind fun _ => lasting_pure _
    · exact (lasting_ask _).bind fun _ => lasting_pure _

end CommandBuffer

namespace Instruction

/-- An instruction that fails has done nothing, and there is a reason for it. -/
theorem cleanAt_perform (hi : i.Supplied w) :
    CleanAt (i.Fails w c) (i.perform c) w := by
  cases i with
  | start => exact CommandBuffer.cleanAt_start
  | finish => exact CommandBuffer.cleanAt_finish
  | beginPass pass => exact CommandBuffer.cleanAt_beginPass pass
  | endPass => exact CommandBuffer.cleanAt_endPass
  | setPipeline r => exact (CommandBuffer.lasting_setPipeline r).clean
  | setViewport area => exact ((lasting_ask _).bind fun _ => lasting_pure c).clean
  | setScissor area => exact ((lasting_ask _).bind fun _ => lasting_pure c).clean
  | setUniform name value => exact CommandBuffer.cleanAt_setUniform name value
  | setTexture slot r => exact CommandBuffer.cleanAt_setTexture slot r
  | setSampler slot r => exact CommandBuffer.cleanAt_setSampler slot r
  | bindUniformBuffer binding r => exact CommandBuffer.cleanAt_bindUniformBuffer binding r
  | setVertexBuffer r => exact CommandBuffer.cleanAt_setVertexBuffer r
  | setIndexBuffer r => exact CommandBuffer.cleanAt_setIndexBuffer r
  | draw count first => exact CommandBuffer.cleanAt_draw count first
  | drawIndexed count first base => exact CommandBuffer.cleanAt_drawIndexed count first base
  | drawMesh m => exact CommandBuffer.cleanAt_drawMesh hi

theorem lasting_perform (c : CommandBuffer) (i : Instruction) :
    Lasting True (i.perform c : Render σ CommandBuffer) := by
  cases i with
  | drawMesh m =>
    show Lasting True (c.drawMesh m)
    unfold CommandBuffer.drawMesh
    split
    · exact (CommandBuffer.lasting_skip _ _).bind fun _ => lasting_pure _
    · refine (Mesh.lasting_attach m _).bind fun _ => ?_
      split
      · exact (lasting_ask _).bind fun _ => lasting_pure _
      · exact (lasting_ask _).bind fun _ => lasting_pure _
  | _ => exact Lasting.of_clean fun w => cleanAt_perform trivial

/-- What is skipped comes to the skip. -/
theorem run_perform_of_skipped {command : String} {reason : SkipReason}
    (h : i.Skipped w c command reason) :
    (i.perform c).run.run w =
      (do
        c.skip command reason
        return c : Render σ CommandBuffer).run.run w := by
  cases h with
  | noIndices hpipeline hp hindices =>
    -- the only one that looks into the world
    simp only [perform, CommandBuffer.drawIndexed, hpipeline]
    rw [run_view_bind hp]
    simp [hindices]
  | start h | finish h | beginPass h | endPass h | setUniform h | setTexture h | setSampler h
  | setVertexBuffer h | setIndexBuffer h | draw h | drawIndexed h | drawMesh h =>
    simp [perform, CommandBuffer.start, CommandBuffer.finish, CommandBuffer.beginPass,
      CommandBuffer.endPass, CommandBuffer.setUniform, CommandBuffer.setTexture,
      CommandBuffer.setSampler, CommandBuffer.setVertexBuffer, CommandBuffer.setIndexBuffer,
      CommandBuffer.draw, CommandBuffer.drawIndexed, CommandBuffer.drawMesh, h]

/-- Every reason to fail is one. -/
theorem Fails.failsAt (h : i.Fails w c e) : FailsAt e (i.perform c) w := by
  cases h with
  | @skipped _ command reason hmode hskipped =>
    have hskip : FailsAt (skipError command reason) (c.skip command reason : Render σ Unit) w := by
      unfold CommandBuffer.skip
      rw [hmode]
      exact failsAt_reject _
    unfold FailsAt
    rw [run_perform_of_skipped hskipped]
    exact hskip.bind
  | notUniformBuffer hb hkind =>
    refine FailsAt.view_bind hb ?_
    rw [if_pos hkind]
    exact (failsAt_reject _).bind
  | notVertexBuffer hpipeline hb hkind =>
    simp only [perform, CommandBuffer.setVertexBuffer, hpipeline]
    refine FailsAt.bind (FailsAt.view_bind hb ?_)
    rw [if_pos hkind]
    exact (failsAt_reject _).bind
  | notIndexBuffer hpipeline hb hkind =>
    simp only [perform, CommandBuffer.setIndexBuffer, hpipeline]
    refine FailsAt.bind (FailsAt.view_bind hb ?_)
    rw [if_pos hkind]
    exact (failsAt_reject _).bind
  | otherLayout hpipeline hp hlayout =>
    simp only [perform, CommandBuffer.drawMesh, hpipeline]
    refine FailsAt.bind (FailsAt.view_bind hp ?_)
    rw [if_pos hlayout]
    exact (failsAt_reject _).bind

/-- When an instruction fails, and with which error. -/
theorem failsAt_perform_iff (hi : i.Supplied w) :
    FailsAt e (i.perform c) w ↔ i.Fails w c e :=
  ⟨fun ⟨_, hrun⟩ => ((cleanAt_perform hi).failed _ _ hrun).1, Fails.failsAt⟩

end Instruction

end Instructions

end RenderKit
