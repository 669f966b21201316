import RenderKit.Proofs.Draws.Recorded

set_option autoImplicit false

/-! # What commands bind

Commands that change what a command buffer remembers bind it as well, and the others leave both
alone. A draw finds bound what was recorded. -/

namespace RenderKit.CommandBuffer

variable {σ : Type} [GraphicsDevice σ] {g : Guard σ} {ext : Multiset Node} {w w' : World σ}
  {c c' : CommandBuffer} {slots : Slots}

/-- The command buffer is tracked, and nothing was drawn. -/
def Calm (g : Guard σ) (ext : Multiset Node) (slots : Slots) (w : World σ) (c : CommandBuffer)
    (w' : World σ) : Prop :=
  Tracks g ext c slots w' ∧ w'.drawn = w.drawn

theorem Calm.of_same (hg : g.Vouching) (ht : Tracks g ext c slots w)
    (h : Same (g.interlude w) ext c c' w') : Calm g ext slots w c' w' :=
  Tracks.of_interlude hg ht.used (ht.recorded.congr h.1.pipeline h.1.target) h.2

/-- A command that neither binds nor draws, and changes nothing that matters. -/
theorem tracks_of_same {t : Render σ CommandBuffer} (hg : g.Vouching)
    (ht : Tracks g ext c slots w)
    (hrun : Runs t w (Same (g.interlude w) ext c) (Owns (g.interlude w) (c.refs + ext))) :
    Runs t w (Calm g ext slots w) (Calm g ext slots w c) :=
  hrun.mono (fun _ _ h => .of_same hg ht h)
    fun _ h => Tracks.of_interlude hg ht.used ht.recorded h

theorem tracks_skip {command : String} {reason : SkipReason} (hg : g.Vouching)
    (ht : Tracks g ext c slots w) :
    Runs (do
      c.skip command reason
      return c : Render σ CommandBuffer) w (Calm g ext slots w) (Calm g ext slots w c) :=
  tracks_of_same hg ht (runs_skip ht.owns.interlude)

/-! ## Passes -/

theorem tracks_endPass (hg : g.Vouching) (ht : Tracks g ext c slots w) :
    Runs c.endPass w (Calm g ext slots w) (Calm g ext slots w c) := by
  unfold endPass
  split
  · exact tracks_skip hg ht
  · rename_i target htarget
    refine Runs.bind (Framebuffer.runs_unbind ht.owns hg.allows) ?_
    rintro - _ ⟨rfl, hb⟩
    have hrecorded : Recorded { c with target := none } slots w
        (w.bound.after (.bindFramebuffer none)) :=
      ⟨ht.recorded.pipeline, (fun r hr => by cases hr), fun _ => rfl, ht.recorded.texture⟩
    refine (runs_leaveTarget htarget hb.interlude).imp ?_
    rintro _ w' ⟨rfl, hb'⟩
    obtain ⟨ht', hdrawn⟩ := Tracks.of_interlude hg
      (fun slot r hr => (w.alike_asked _).used (ht.used slot r hr))
      (by simpa using hrecorded.of_alike (w.alike_asked (.bindFramebuffer none))) hb'
    exact ⟨ht', by simpa [Request.draws] using hdrawn⟩

theorem tracks_finish (hg : g.Vouching) (ht : Tracks g ext c slots w) :
    Runs c.finish w (Calm g ext slots w) (Calm g ext slots w c) := by
  have hleave : ∀ c₁ w₁, Calm g ext slots w c₁ w₁ → Runs (do
      releaseOption c₁.pipeline
      releaseOption c₁.program
      return { c₁ with recording := false, pipeline := none, program := none } :
        Render σ CommandBuffer) w₁ (Calm g ext slots w) (Calm g ext slots w c) := by
    rintro c₁ w₁ ⟨ht₁, hdrawn₁⟩
    have hrecorded : Recorded { c₁ with recording := false, pipeline := none, program := none }
        slots w₁ w₁.bound :=
      ⟨(fun r hr => by cases hr), ht₁.recorded.target, ht₁.recorded.window, ht₁.recorded.texture⟩
    refine (runs_leavePipeline ht₁.owns.interlude).imp ?_
    rintro _ w₂ ⟨rfl, hb₂⟩
    obtain ⟨ht₂, hdrawn₂⟩ := Tracks.of_interlude hg ht₁.used hrecorded hb₂
    exact ⟨ht₂, hdrawn₂.trans hdrawn₁⟩
  unfold finish
  split
  · exact tracks_skip hg ht
  · split
    · exact Runs.bind (tracks_endPass hg ht) hleave
    · exact hleave c w ⟨ht, rfl⟩

theorem tracks_beginPass {pass : RenderPass} (hg : g.Vouching) (ht : Tracks g ext c slots w)
    (hpass : Node.framebuffer pass.framebuffer ∈ g.tokens + (c.refs + ext)) :
    Runs (c.beginPass pass) w (Calm g ext slots w) (Calm g ext slots w c) := by
  unfold beginPass
  split
  · exact tracks_skip hg ht
  · rename_i hnone
    have htarget : c.target = none := by simpa using hnone
    refine Runs.bind (Framebuffer.runs_bind ht.owns hg.allows) ?_
    rintro - _ ⟨⟨f, hf, rfl⟩, hb₁⟩
    extract_lets request activate
    -- the framebuffer is bound, and its reference is taken in an interlude
    have hactivate : ∀ w₁, w.Alike w₁ → w₁.bound = w.bound.after (.bindFramebuffer f.handle) →
        w₁.drawn = w.drawn → Owns g (c.refs + ext) w₁ →
        Runs (activate ()) w₁ (Calm g ext slots w) (Calm g ext slots w c) := by
      intro w₁ halike hbound hdrawn hb₁
      have hrecorded : Recorded { c with target := some pass.framebuffer } slots w
          (w.bound.after (.bindFramebuffer f.handle)) := by
        refine ⟨ht.recorded.pipeline, ?_, (fun h => by cases h), ht.recorded.texture⟩
        intro r hr
        cases hr
        exact ⟨f, hf, rfl⟩
      refine (runs_holdTarget htarget hb₁.interlude hpass).imp ?_
      rintro _ w₂ ⟨rfl, hb₂⟩
      obtain ⟨ht₂, hdrawn₂⟩ := Tracks.of_interlude hg
        (fun slot r hr => halike.used (ht.used slot r hr))
        (hbound ▸ hrecorded.of_alike halike) hb₂
      exact ⟨ht₂, hdrawn₂.trans hdrawn⟩
    split
    · refine Runs.bind (runs_ask_plain hb₁ rfl (hg.allows _) (by simp [Request.named])) ?_
      rintro - _ ⟨rfl, hb₂⟩
      refine hactivate _ ⟨rfl, rfl, rfl, rfl, rfl, rfl⟩ ?_ ?_ hb₂
      · simp [Bindings.after, Request.deleted]
      · simp [Request.draws]
    · refine hactivate _ ⟨rfl, rfl, rfl, rfl, rfl, rfl⟩ ?_ ?_ hb₁
      · simp [Bindings.after, Request.deleted]
      · simp [Request.draws]

/-! ## Pipelines and textures -/

theorem tracks_setPipeline {r : Ref Pipeline} (hg : g.Vouching) (ht : Tracks g ext c slots w)
    (hr : Node.pipeline r ∈ g.tokens + (c.refs + ext)) :
    Runs (c.setPipeline r) w (Calm g ext slots w) (Calm g ext slots w c) := by
  refine Runs.bind (Pipeline.runs_bind ht.owns hg.allows) ?_
  rintro - w₁ ⟨⟨p, q, hp, hq, hw₁⟩, hb₁⟩
  have halike : w.Alike w₁ := hw₁ ▸ ⟨rfl, rfl, rfl, rfl, rfl, rfl⟩
  have hbound : w₁.bound =
      { w.bound with program := q.handle.raw, vertexArray := p.array.raw } := by
    rw [hw₁]
    simp [Bindings.after, Request.deleted, Handle.rawOf]
  have hdrawn : w₁.drawn = w.drawn := by
    rw [hw₁]
    simp [Request.draws]
  -- the old pipeline is left in an interlude, which may delete it but none of what is bound now
  refine (runs_adopt hb₁.interlude hr).imp ?_
  rintro c' w₂ ⟨hpipeline, htarget, hb₂⟩
  have hrecorded : Recorded c' slots w w₁.bound := by
    rw [hbound]
    refine ⟨?_, ?_, ?_, ht.recorded.texture⟩
    · intro r' hr'
      rw [hpipeline] at hr'
      cases hr'
      exact ⟨p, q, hp, hq, rfl, rfl⟩
    · rw [htarget]
      exact ht.recorded.target
    · rw [htarget]
      exact ht.recorded.window
  obtain ⟨ht₂, hdrawn₂⟩ := Tracks.of_interlude hg
    (fun slot r hr => halike.used (ht.used slot r hr)) (hrecorded.of_alike halike) hb₂
  exact ⟨ht₂, hdrawn₂.trans hdrawn⟩

/-- What is on the slots after a texture was put on one. Without a program this is skipped. -/
def slotsAfter (c : CommandBuffer) (slots : Slots) (slot : UInt32) (r : Ref Texture) : Slots :=
  if c.program.isSome then Function.update slots slot (some r) else slots

theorem tracks_setTexture {slot : UInt32} {r : Ref Texture} (hg : g.Vouching)
    (ht : Tracks g ext c slots w) :
    Runs (c.setTexture slot r) w (Calm g ext (c.slotsAfter slots slot r) w)
      (Calm g ext slots w c) := by
  unfold setTexture
  split
  · rename_i hnone
    have hsame : c.slotsAfter slots slot r = slots := by
      simp [slotsAfter, Option.isNone_iff_eq_none.mp hnone]
    rw [hsame]
    exact tracks_skip hg ht
  · rename_i hsome
    have hupdate : c.slotsAfter slots slot r = Function.update slots slot (some r) :=
      if_pos (by simpa [Option.isSome_iff_ne_none] using hsome)
    rw [hupdate]
    refine Runs.bind (Texture.runs_bind ht.owns hg.allows) ?_
    rintro - _ ⟨⟨t, hget, rfl⟩, hb₁⟩
    refine Runs.pure ⟨Tracks.of_asked ?_ ?_ hb₁, by simp [Request.draws]⟩
    · intro slot' r' hr'
      by_cases hslot : slot' = slot
      · subst hslot
        rw [Function.update_self] at hr'
        cases hr'
        exact used_of_get? hget
      · rw [Function.update_of_ne hslot] at hr'
        exact ht.used slot' r' hr'
    · refine ⟨ht.recorded.pipeline, ht.recorded.target, ht.recorded.window, fun slot' => ?_⟩
      show Function.update _ _ _ _ = _
      by_cases hslot : slot' = slot
      · subst hslot
        simp [World.textureName, hget]
      · have hunit : firstTextureUnit + slot' ≠ firstTextureUnit + slot := by
          simpa using hslot
        rw [Function.update_of_ne hunit, Function.update_of_ne hslot]
        exact ht.recorded.texture slot'

/-! ## Drawing -/

/-- A draw finds bound what was recorded. -/
theorem tracks_ask_draw {r : Request} (hg : g.Vouching) (ht : Tracks g ext c slots w)
    (hr : r.isPlain) (hnamed : r.named = []) (hafter : ∀ b : Bindings, b.after r = b) :
    Runs (ask r) w
      (fun _ w' => Tracks g ext c slots w' ∧ DrewRecorded c slots w w') (Calm g ext slots w c) := by
  refine (runs_ask_plain ht.owns hr (hg.allows r) (by simp [hnamed])).imp ?_
  rintro - _ ⟨rfl, hb⟩
  refine ⟨Tracks.of_asked ht.used ((hafter w.bound).symm ▸ ht.recorded) hb, _, w.drawn_asked r, ?_⟩
  intro b hmem
  split at hmem
  · rw [List.mem_singleton.mp hmem]
    exact ht.recorded.of_alike (w.alike_asked r)
  · cases hmem

/-- A command with a draw at its end. -/
def Drawn (g : Guard σ) (ext : Multiset Node) (slots : Slots) (w : World σ)
    (c c' : CommandBuffer) (w' : World σ) : Prop :=
  Tracks g ext c' slots w' ∧ DrewRecorded c slots w w'

theorem Calm.drawn (h : Calm g ext slots w c' w') : Drawn g ext slots w c c' w' :=
  ⟨h.1, .of_eq h.2⟩

theorem tracks_draw {count first : UInt32} (hg : g.Vouching) (ht : Tracks g ext c slots w) :
    Runs (c.draw count first) w (Drawn g ext slots w c) (Calm g ext slots w c) := by
  unfold draw
  split
  · exact (tracks_skip hg ht).imp fun _ _ h => h.drawn
  · refine Runs.bind_same runs_view fun p _ => ?_
    exact Runs.bind (tracks_ask_draw hg ht rfl rfl fun _ => rfl) fun _ _ h => Runs.pure h

theorem tracks_drawIndexed {count first : UInt32} {base : Int32} (hg : g.Vouching)
    (ht : Tracks g ext c slots w) :
    Runs (c.drawIndexed count first base) w (Drawn g ext slots w c) (Calm g ext slots w c) := by
  unfold drawIndexed
  split
  · exact (tracks_skip hg ht).imp fun _ _ h => h.drawn
  · refine Runs.bind_same runs_view fun p _ => ?_
    split
    · exact (tracks_skip hg ht).imp fun _ _ h => h.drawn
    · exact Runs.bind (tracks_ask_draw hg ht rfl rfl fun _ => rfl) fun _ _ h => Runs.pure h

/-- The buffers of a mesh are attached in an interlude before the draw. -/
theorem tracks_drawMesh {m : Mesh} (hg : g.Vouching) (ht : Tracks g ext c slots w) :
    Runs (c.drawMesh m) w (Drawn g ext slots w c) (Calm g ext slots w c) := by
  unfold drawMesh
  split
  · exact (tracks_skip hg ht).imp fun _ _ h => h.drawn
  · refine Runs.andThen (Mesh.runs_attach ht.owns.interlude)
      (fun _ h => Tracks.of_interlude hg ht.used ht.recorded h) fun _ w₁ hb₁ => ?_
    obtain ⟨ht₁, hdrawn₁⟩ := Tracks.of_interlude hg ht.used ht.recorded hb₁
    have hdraw : ∀ r : Request, r.isPlain → r.named = [] → (∀ b : Bindings, b.after r = b) →
        Runs (do
          let _ ← ask r
          return c : Render σ CommandBuffer) w₁ (Drawn g ext slots w c) (Calm g ext slots w c) := by
      intro r hr hnamed hafter
      refine Runs.andThen (tracks_ask_draw hg ht₁ hr hnamed hafter)
        (fun _ h => ⟨h.1, h.2.trans hdrawn₁⟩) fun _ w₂ h₂ => Runs.pure ?_
      obtain ⟨ht₂, new, hnew, hrecorded⟩ := h₂
      exact ⟨ht₂, new, hdrawn₁ ▸ hnew, hrecorded⟩
    split
    · exact hdraw _ rfl rfl fun _ => rfl
    · exact hdraw _ rfl rfl fun _ => rfl

end RenderKit.CommandBuffer
