import RenderKit.Proofs.Ledger.Scene

set_option autoImplicit false

/-! # Books of command buffers

A command buffer owns its pipeline, the program of that and the framebuffer of the active pass. A
command that fails leaves it as it was. -/

namespace RenderKit.CommandBuffer

open Pipeline (bufferNodes)

variable {σ : Type} [GraphicsDevice σ] {g : Guard σ} {ext : Multiset Node} {w : World σ}
  {E : World σ → Prop} {c : CommandBuffer}

/-- The place of something that may be missing. -/
def optionNodes {α : Type} [Traced α] (r : Option (Ref α)) : Multiset Node :=
  ↑(r.toList.map Traced.node)

def refs (c : CommandBuffer) : Multiset Node :=
  optionNodes c.pipeline + (optionNodes c.program + optionNodes c.target)

theorem runs_discard (hb : Owns g (c.refs + ext) w) :
    Runs c.discard w (fun _ => Owns g ext) E := by
  rw [refs, add_assoc, add_assoc] at hb
  refine Runs.bind (runs_releaseOption hb) fun _ _ hb₁ => ?_
  refine Runs.bind (runs_releaseOption hb₁) fun _ _ hb₂ => ?_
  exact runs_releaseOption hb₂

omit [GraphicsDevice σ] in
theorem quiet_skip (c : CommandBuffer) (command : String) (reason : SkipReason) :
    Quiet (c.skip command reason : Render σ Unit) := by
  unfold skip
  split
  · exact quiet_reject _
  · exact quiet_note _ _ _

/-- Two command buffers that refer to the same objects. -/
structure Alike (c c' : CommandBuffer) : Prop where
  pipeline : c'.pipeline = c.pipeline
  program : c'.program = c.program
  target : c'.target = c.target

theorem Alike.refl (c : CommandBuffer) : Alike c c := ⟨rfl, rfl, rfl⟩

theorem Alike.refs_eq {c' : CommandBuffer} (h : Alike c c') : c'.refs = c.refs := by
  rw [refs, refs, h.pipeline, h.program, h.target]

/-- The books for a command buffer that refers to what it did before. -/
def Same (g : Guard σ) (ext : Multiset Node) (c c' : CommandBuffer) (w : World σ) : Prop :=
  Alike c c' ∧ Owns g (c'.refs + ext) w

/-- A skipped command does nothing. -/
theorem runs_skip {command : String} {reason : SkipReason} (hb : Owns g (c.refs + ext) w) :
    Runs (do
      c.skip command reason
      return c : Render σ CommandBuffer) w (Same g ext c) (Owns g (c.refs + ext)) :=
  Runs.bind ((quiet_skip c command reason).books hb) fun _ _ hb' => Runs.pure ⟨.refl c, hb'⟩

theorem runs_start (hb : Owns g (c.refs + ext) w) :
    Runs c.start w (Same g ext c) (Owns g (c.refs + ext)) := by
  unfold start
  split
  · exact runs_skip hb
  · exact Runs.pure ⟨⟨rfl, rfl, rfl⟩, hb⟩

/-- What is left of a pass when its framebuffer is not bound any more. -/
theorem runs_leaveTarget {target : Ref Framebuffer} (htarget : c.target = some target)
    (hb : Owns g (c.refs + ext) w) :
    Runs (do
      release target
      return { c with target := none } : Render σ CommandBuffer) w
      (fun c' w' => c' = { c with target := none } ∧ Owns g (c'.refs + ext) w') E := by
  have hb : Owns g (.framebuffer target ::ₘ (refs { c with target := none } + ext)) w := by
    refine Books.congr hb ?_
    simp only [refs, htarget, optionNodes, ← Multiset.singleton_add]
    show _ + (_ + {Node.framebuffer target}) + ext = {Node.framebuffer target} + (_ + (_ + 0) + ext)
    rw [add_zero]
    ac_rfl
  exact Runs.bind (runs_release hb) fun _ _ hb' => Runs.pure ⟨rfl, hb'⟩

theorem runs_endPass (hb : Owns g (c.refs + ext) w) (hallows : ∀ r, g.allows r) :
    Runs c.endPass w (fun c' => Owns g (c'.refs + ext)) (Owns g (c.refs + ext)) := by
  unfold endPass
  split
  · exact (runs_skip hb).imp fun _ _ h => h.2
  · rename_i target htarget
    refine Runs.bind (Framebuffer.runs_unbind hb hallows) fun _ w₁ hb₁ => ?_
    exact (runs_leaveTarget htarget hb₁.2).imp fun _ _ h => h.2

/-- What is left of a recording when there is no pass any more. -/
theorem runs_leavePipeline (hb : Owns g (c.refs + ext) w) :
    Runs (do
      releaseOption c.pipeline
      releaseOption c.program
      return { c with recording := false, pipeline := none, program := none } :
        Render σ CommandBuffer) w
      (fun c' w' => c' = { c with recording := false, pipeline := none, program := none } ∧
        Owns g (c'.refs + ext) w') E := by
  rw [refs, add_assoc, add_assoc] at hb
  refine Runs.bind (runs_releaseOption hb) fun _ w₁ hb₁ => ?_
  refine Runs.bind (runs_releaseOption hb₁) fun _ w₂ hb₂ => Runs.pure ⟨rfl, Books.congr hb₂ ?_⟩
  show _ = 0 + (0 + _) + ext
  simp

theorem runs_finish (hb : Owns g (c.refs + ext) w) (hallows : ∀ r, g.allows r) :
    Runs c.finish w (fun c' => Owns g (c'.refs + ext)) (Owns g (c.refs + ext)) := by
  unfold finish
  split
  · exact (runs_skip hb).imp fun _ _ h => h.2
  · split
    · refine Runs.bind (runs_endPass hb hallows) fun c₁ w₁ hb₁ => ?_
      exact (runs_leavePipeline hb₁).imp fun _ _ h => h.2
    · exact (runs_leavePipeline hb).imp fun _ _ h => h.2

/-- What is left of the beginning of a pass when its framebuffer is bound. -/
theorem runs_holdTarget {target : Ref Framebuffer} (hnone : c.target = none)
    (hb : Owns g (c.refs + ext) w) (htarget : Node.framebuffer target ∈ g.tokens + (c.refs + ext)) :
    Runs (do
      hold target
      return { c with target := some target } : Render σ CommandBuffer) w
      (fun c' w' => c' = { c with target := some target } ∧ Owns g (c'.refs + ext) w') E := by
  refine Runs.bind (runs_hold hb (Books.mem_nodes hb htarget)) ?_
  rintro - w₁ ⟨-, hb₁⟩
  refine Runs.pure ⟨rfl, Books.congr hb₁ ?_⟩
  simp only [refs, hnone, optionNodes, ← Multiset.singleton_add]
  show {Node.framebuffer target} + (_ + (_ + 0) + ext) =
    _ + (_ + {Node.framebuffer target}) + ext
  rw [add_zero]
  ac_rfl

theorem runs_beginPass {pass : RenderPass} (hb : Owns g (c.refs + ext) w)
    (hallows : ∀ r, g.allows r)
    (hpass : Node.framebuffer pass.framebuffer ∈ g.tokens + (c.refs + ext)) :
    Runs (c.beginPass pass) w (fun c' => Owns g (c'.refs + ext)) (Owns g (c.refs + ext)) := by
  unfold beginPass
  split
  · exact (runs_skip hb).imp fun _ _ h => h.2
  · rename_i hnone
    have htarget : c.target = none := by simpa using hnone
    refine Runs.bind (Framebuffer.runs_bind hb hallows) ?_
    rintro - w₁ ⟨-, hb₁⟩
    extract_lets request activate
    have hactivate : ∀ w', Owns g (c.refs + ext) w' →
        Runs (activate ()) w' (fun c' => Owns g (c'.refs + ext)) (Owns g (c.refs + ext)) :=
      fun w' hb' => (runs_holdTarget htarget hb' hpass).imp fun _ _ h => h.2
    split
    · refine Runs.bind (runs_ask_plain hb₁ rfl (hallows _) (by simp [Request.named])) ?_
      rintro - w₂ ⟨-, hb₂⟩
      exact hactivate w₂ hb₂
    · exact hactivate w₁ hb₁

/-- The program of a pipeline is there as long as the pipeline is. -/
theorem program_mem {r : Ref Pipeline} {p : Pipeline} (hb : Owns g ext w)
    (hget : (Pooled.pool w).get? r = some p) :
    w.Fresh → Node.program p.program ∈ w.cells.nodes := by
  intro hfresh
  obtain ⟨s, hslot, rfl⟩ := Pool.slot?_of_get? hget
  refine (hb.sound hfresh).closed _ (Multiset.mem_add.mpr (.inl ?_))
  refine Heap.links_mem (mem_cells_of_slot? hslot) (Multiset.mem_add.mpr (.inr ?_))
  exact Multiset.mem_singleton_self _

/-- What is left of a change of the pipeline when the new one is bound. -/
theorem runs_adopt {r : Ref Pipeline} (hb : Owns g (c.refs + ext) w)
    (hr : Node.pipeline r ∈ g.tokens + (c.refs + ext)) :
    Runs (do
      let p ← view r
      hold p.program
      releaseOption c.program
      hold r
      releaseOption c.pipeline
      return { c with pipeline := some r, program := some p.program } : Render σ CommandBuffer) w
      (fun c' w' => c'.pipeline = some r ∧ c'.target = c.target ∧ Owns g (c'.refs + ext) w')
      E := by
  refine Runs.bind_same runs_view fun p hget => ?_
  refine Runs.bind (runs_hold hb (program_mem hb hget)) ?_
  rintro - w₁ ⟨-, hb₁⟩
  have hb₁ : Owns g (optionNodes c.program + (.program p.program ::ₘ
      (optionNodes c.pipeline + (optionNodes c.target + ext)))) w₁ := by
    refine Books.congr hb₁ ?_
    simp only [refs, ← Multiset.singleton_add]
    show {Node.program p.program} + _ = _
    ac_rfl
  refine Runs.bind (runs_releaseOption hb₁) fun _ w₂ hb₂ => ?_
  refine Runs.bind (runs_hold hb₂ (Books.mem_nodes hb₂ ?_)) ?_
  · have hother : Node.pipeline r ∉ optionNodes c.program := by
      simp [optionNodes, Traced.node]
    simp only [refs, Multiset.mem_add, Multiset.mem_cons] at hr ⊢
    tauto
  rintro - w₃ ⟨-, hb₃⟩
  have hb₃ : Owns g (optionNodes c.pipeline + (refs { c with
      pipeline := some r, program := some p.program } + ext)) w₃ := by
    refine Books.congr hb₃ ?_
    simp only [refs, ← Multiset.singleton_add]
    show {Node.pipeline r} + _ = _ + (({Node.pipeline r} + ({Node.program p.program} + _)) + _)
    ac_rfl
  exact Runs.bind (runs_releaseOption hb₃) fun _ w₄ hb₄ => Runs.pure ⟨rfl, rfl, hb₄⟩

theorem runs_setPipeline {r : Ref Pipeline} (hb : Owns g (c.refs + ext) w)
    (hallows : ∀ r, g.allows r) (hr : Node.pipeline r ∈ g.tokens + (c.refs + ext)) :
    Runs (c.setPipeline r) w (fun c' => Owns g (c'.refs + ext)) (Owns g (c.refs + ext)) := by
  refine Runs.bind (Pipeline.runs_bind hb hallows) fun _ w₁ hb₁ => ?_
  exact (runs_adopt hb₁.2 hr).imp fun _ _ h => h.2.2

theorem runs_setViewport {area : PixelRect} (hb : Owns g (c.refs + ext) w)
    (hallows : ∀ r : Request, r.isSteady → g.allows r) :
    Runs (c.setViewport area) w (Same g ext c) (Owns g (c.refs + ext)) := by
  refine Runs.bind (runs_ask_plain hb rfl (hallows _ rfl) (by simp [Request.named])) ?_
  rintro - w₁ ⟨-, hb₁⟩
  exact Runs.pure ⟨.refl c, hb₁⟩

theorem runs_setScissor {area : PixelRect} (hb : Owns g (c.refs + ext) w)
    (hallows : ∀ r : Request, r.isSteady → g.allows r) :
    Runs (c.setScissor area) w (Same g ext c) (Owns g (c.refs + ext)) := by
  refine Runs.bind (runs_ask_plain hb rfl (hallows _ rfl) (by simp [Request.named])) ?_
  rintro - w₁ ⟨-, hb₁⟩
  exact Runs.pure ⟨.refl c, hb₁⟩

/-! ## Values for the program -/

theorem runs_setUniform {name : String} {value : UniformValue} (hb : Owns g (c.refs + ext) w)
    (hallows : ∀ r : Request, r.isSteady → g.allows r) :
    Runs (c.setUniform name value) w (Same g ext c) (Owns g (c.refs + ext)) := by
  unfold setUniform
  split
  · exact runs_skip hb
  · exact Runs.bind (Program.runs_setUniform hb fun _ => hallows _ rfl)
      fun _ _ hb₁ => Runs.pure ⟨.refl c, hb₁⟩

theorem runs_setTexture {slot : UInt32} {r : Ref Texture} (hb : Owns g (c.refs + ext) w)
    (hallows : ∀ r, g.allows r) :
    Runs (c.setTexture slot r) w (fun c' => Owns g (c'.refs + ext)) (Owns g (c.refs + ext)) := by
  unfold setTexture
  split
  · exact (runs_skip hb).imp fun _ _ h => h.2
  · exact Runs.bind (Texture.runs_bind hb hallows) fun _ _ hb₁ => Runs.pure hb₁.2

theorem runs_setSampler {slot : UInt32} {r : Ref Sampler} (hb : Owns g (c.refs + ext) w)
    (hallows : ∀ r : Request, r.isSteady → g.allows r) :
    Runs (c.setSampler slot r) w (Same g ext c) (Owns g (c.refs + ext)) := by
  unfold setSampler
  split
  · exact runs_skip hb
  · exact Runs.bind (Sampler.runs_bind hb hallows) fun _ _ hb₁ => Runs.pure ⟨.refl c, hb₁⟩

theorem runs_bindUniformBuffer {binding : UInt32} {r : Ref Buffer}
    (hb : Owns g (c.refs + ext) w) (hallows : ∀ r : Request, r.isSteady → g.allows r) :
    Runs (c.bindUniformBuffer binding r) w (Same g ext c) (Owns g (c.refs + ext)) := by
  refine Runs.bind_same runs_view fun b hget => ?_
  refine Runs.reject_if (Books.noted hb _) fun _ => ?_
  refine Runs.bind (runs_ask_plain hb rfl (hallows _ rfl) (hb.names_single hget rfl)) ?_
  rintro - w₁ ⟨-, hb₁⟩
  exact Runs.pure ⟨.refl c, hb₁⟩

/-! ## Buffers of the pipeline -/

theorem runs_setVertexBuffer {r : Ref Buffer} (hb : Owns g (c.refs + ext) w) :
    Runs (c.setVertexBuffer r) w (Same g ext c) (Owns g (c.refs + ext)) := by
  unfold setVertexBuffer
  split
  · exact runs_skip hb
  · exact Runs.bind (Pipeline.runs_setVertexBuffer hb) fun _ _ hb₁ => Runs.pure ⟨.refl c, hb₁⟩

theorem runs_setIndexBuffer {r : Ref Buffer} (hb : Owns g (c.refs + ext) w) :
    Runs (c.setIndexBuffer r) w (Same g ext c) (Owns g (c.refs + ext)) := by
  unfold setIndexBuffer
  split
  · exact runs_skip hb
  · exact Runs.bind (Pipeline.runs_setIndexBuffer hb) fun _ _ hb₁ => Runs.pure ⟨.refl c, hb₁⟩

/-! ## Drawing -/

theorem runs_draw {count first : UInt32} (hb : Owns g (c.refs + ext) w)
    (hallows : ∀ r, g.allows r) :
    Runs (c.draw count first) w (Same g ext c) (Owns g (c.refs + ext)) := by
  unfold draw
  split
  · exact runs_skip hb
  · refine Runs.bind_same runs_view fun p _ => ?_
    refine Runs.bind (runs_ask_plain hb rfl (hallows _) (by simp [Request.named])) ?_
    rintro - w₁ ⟨-, hb₁⟩
    exact Runs.pure ⟨.refl c, hb₁⟩

theorem runs_drawIndexed {count first : UInt32} {base : Int32} (hb : Owns g (c.refs + ext) w)
    (hallows : ∀ r, g.allows r) :
    Runs (c.drawIndexed count first base) w (Same g ext c) (Owns g (c.refs + ext)) := by
  unfold drawIndexed
  split
  · exact runs_skip hb
  · refine Runs.bind_same runs_view fun p _ => ?_
    split
    · exact runs_skip hb
    · refine Runs.bind (runs_ask_plain hb rfl (hallows _) (by simp [Request.named])) ?_
      rintro - w₁ ⟨-, hb₁⟩
      exact Runs.pure ⟨.refl c, hb₁⟩

theorem runs_drawMesh {m : Mesh} (hb : Owns g (c.refs + ext) w) (hallows : ∀ r, g.allows r) :
    Runs (c.drawMesh m) w (Same g ext c) (Owns g (c.refs + ext)) := by
  unfold drawMesh
  split
  · exact runs_skip hb
  · refine Runs.bind (Mesh.runs_attach hb) fun _ w₁ hb₁ => ?_
    split
    all_goals
      refine Runs.bind (runs_ask_plain hb₁ rfl (hallows _) (by simp [Request.named])) ?_
      rintro - w₂ ⟨-, hb₂⟩
      exact Runs.pure ⟨.refl c, hb₂⟩

end RenderKit.CommandBuffer
