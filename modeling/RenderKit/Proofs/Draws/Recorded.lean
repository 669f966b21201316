import RenderKit.Proofs.Draws.Frame
import RenderKit.Proofs.Ledger.Commands

set_option autoImplicit false

/-! # What a command buffer recorded

A command buffer remembers its pipeline and the framebuffer of its pass, and its commands put
textures on slots. As long as nobody binds anything else this stays bound, whatever is made, filled,
attached or given up: a texture that goes takes its binding with it. -/

namespace RenderKit

open CommandBuffer (Same Alike)

variable {σ : Type} [GraphicsDevice σ]

/-- The texture that was last put on each slot. -/
abbrev Slots := UInt32 → Option (Ref Texture)

/-- The name of a texture; zero if there is none, or if it is gone. -/
def World.textureName (w : World σ) (r : Option (Ref Texture)) : GlName :=
  Handle.rawOf ((r.bind w.textures.get?).map (·.handle))

/-- What is bound is what a command buffer recorded. -/
structure Recorded (c : CommandBuffer) (slots : Slots) (w : World σ) (b : Bindings) : Prop where
  pipeline : ∀ r, c.pipeline = some r → ∃ p q,
    w.pipelines.get? r = some p ∧ w.programs.get? p.program = some q ∧
      b.program = q.handle.raw ∧ b.vertexArray = p.array.raw
  target : ∀ r, c.target = some r → ∃ f,
    w.framebuffers.get? r = some f ∧ b.framebuffer = Handle.rawOf f.handle
  /-- Without a pass everything goes to the window. -/
  window : c.target = none → b.framebuffer = 0
  texture : ∀ slot, b.texture (firstTextureUnit + slot) = w.textureName (slots slot)

/-- What was drawn from one world to another found bound what was recorded. -/
def DrewRecorded (c : CommandBuffer) (slots : Slots) (w w' : World σ) : Prop :=
  ∃ new, w'.drawn = w.drawn ++ new ∧ ∀ b ∈ new, Recorded c slots w' b

/-- The books and the bindings are those of a command buffer. -/
structure Tracks (g : Guard σ) (ext : Multiset Node) (c : CommandBuffer) (slots : Slots)
    (w : World σ) : Prop where
  owns : Owns g (c.refs + ext) w
  used : ∀ slot r, slots slot = some r → w.Used (.texture r)
  recorded : Recorded c slots w w.bound

section

variable {g : Guard σ} {ext tokens : Multiset Node} {watches : Node → Prop} {w w' : World σ}
  {c c' : CommandBuffer} {slots : Slots} {b : Bindings}

omit [GraphicsDevice σ] in
theorem DrewRecorded.of_eq (h : w'.drawn = w.drawn) : DrewRecorded c slots w w' :=
  ⟨[], by simpa using h, by simp⟩

omit [GraphicsDevice σ] in
theorem Recorded.of_alike (h : Recorded c slots w b) (hw : w.Alike w') :
    Recorded c slots w' b := by
  refine ⟨?_, ?_, h.window, ?_⟩
  · rw [hw.pipelines, hw.programs]
    exact h.pipeline
  · rw [hw.framebuffers]
    exact h.target
  · unfold World.textureName
    rw [hw.textures]
    exact h.texture

omit [GraphicsDevice σ] in
/-- Only the pipeline and the pass matter. -/
theorem Recorded.congr (h : Recorded c slots w b) (hpipeline : c'.pipeline = c.pipeline)
    (htarget : c'.target = c.target) : Recorded c' slots w b := by
  refine ⟨?_, ?_, ?_, h.texture⟩
  · rw [hpipeline]
    exact h.pipeline
  · rw [htarget]
    exact h.target
  · rw [htarget]
    exact h.window

omit [GraphicsDevice σ] in
/-- Worlds with the same objects use the same places. -/
theorem World.Alike.used {w w' : World σ} (h : w.Alike w') {n : Node} (hn : w.Used n) :
    w'.Used n := by
  cases n
  all_goals simpa only [World.Used, h.buffers, h.textures, h.samplers, h.framebuffers, h.programs,
    h.pipelines] using hn

namespace CommandBuffer

theorem pipeline_mem_refs {r : Ref Pipeline} (h : c.pipeline = some r) :
    Node.pipeline r ∈ c.refs := by
  simp [refs, optionNodes, h, Traced.node]

theorem target_mem_refs {r : Ref Framebuffer} (h : c.target = some r) :
    Node.framebuffer r ∈ c.refs := by
  simp [refs, optionNodes, h, Traced.node]

end CommandBuffer

/-! ## Frames -/

/-- A texture that is gone after a frame was deleted in it. -/
theorem Owns.textureName_frame (hb : Owns (g.frame w tokens watches) ext w') (hfresh : w'.Fresh)
    {r : Ref Texture} (hwatches : watches (.texture r)) (hused : w.Used (.texture r)) :
    w'.textureName (some r) =
      Bindings.clearName .texture ((g.frame w tokens watches).deleted w')
        (w.textureName (some r)) := by
  have hnatives := hb.natives_frame (r := r) hfresh hwatches hused
  have hof : ∀ w : World σ, w.natives r =
      (w.textures.get? r).elim 0 fun t => {t.handle.native} := fun _ => rfl
  rw [hof, hof] at hnatives
  show Handle.rawOf ((w'.textures.get? r).map _) =
    Bindings.clearName _ _ (Handle.rawOf ((w.textures.get? r).map _))
  rcases hbefore : w.textures.get? r with _ | t
  all_goals rcases hafter : w'.textures.get? r with _ | t'
  all_goals rw [hbefore, hafter] at hnatives
  · simp [Handle.rawOf]
  · simp at hnatives
  · have hgone : t.handle.native ∈ (g.frame w tokens watches).deleted w' := by
      by_contra hkept
      simp [Multiset.filter_singleton, hkept] at hnatives
    exact (if_pos hgone).symm
  · have hkept : t.handle.native ∉ (g.frame w tokens watches).deleted w' := by
      intro hgone
      simp [Multiset.filter_singleton, hgone] at hnatives
    have hsame : t'.handle = t.handle := by
      simpa [Multiset.filter_singleton, hkept, Handle.native_inj] using hnatives
    simp [Handle.rawOf, hsame, Bindings.clearName_handle hkept]

/-- A pipeline that has an owner keeps its vertex array in a frame, and its program stays there. -/
theorem Owns.pipeline_frame (hb : Owns (g.frame w tokens watches) ext w') (hfresh : w'.Fresh)
    {r : Ref Pipeline} {p : Pipeline} {q : Program} (hmem : Node.pipeline r ∈ tokens + ext)
    (hpipeline : watches (.pipeline r)) (hprogram : watches (.program p.program))
    (hp : w.pipelines.get? r = some p) (hq : w.programs.get? p.program = some q) :
    ∃ p' q', w'.pipelines.get? r = some p' ∧ w'.programs.get? p'.program = some q' ∧
      Bindings.clearName .program ((g.frame w tokens watches).deleted w') q.handle.raw =
        q'.handle.raw ∧
      Bindings.clearName .vertexArray ((g.frame w tokens watches).deleted w') p.array.raw =
        p'.array.raw := by
  obtain ⟨p', hp', hnatives, hothers, hkept⟩ :=
    hb.owned_frame hfresh hpipeline hp (hb.mem_nodes hmem hfresh)
  have harray : p'.array = p.array := by
    simpa [Traced.body, Handle.native_inj] using hnatives
  have hsame : p'.program = p.program := by simpa [Traced.others] using hothers
  have hmem' := CommandBuffer.program_mem hb hp' hfresh
  obtain ⟨q', hq', hhandle, -, hkept'⟩ := hb.owned_frame hfresh hprogram hq (hsame ▸ hmem')
  have hhandle : q'.handle = q.handle := by
    simpa [Traced.body, Body.single, Handle.native_inj] using hhandle
  refine ⟨p', q', hp', hsame ▸ hq', ?_, ?_⟩
  · rw [hhandle, Bindings.clearName_handle (hkept' _ (Multiset.mem_singleton_self _))]
  · rw [harray, Bindings.clearName_handle (hkept _ (Multiset.mem_singleton_self _))]

/-- A framebuffer that has an owner keeps its name in a frame. -/
theorem Owns.framebuffer_frame (hb : Owns (g.frame w tokens watches) ext w') (hfresh : w'.Fresh)
    {r : Ref Framebuffer} {f : Framebuffer} (hmem : Node.framebuffer r ∈ tokens + ext)
    (hwatches : watches (.framebuffer r)) (hf : w.framebuffers.get? r = some f) :
    ∃ f', w'.framebuffers.get? r = some f' ∧
      Bindings.clearName .framebuffer ((g.frame w tokens watches).deleted w')
        (Handle.rawOf f.handle) = Handle.rawOf f'.handle := by
  obtain ⟨f', hf', hnatives, -, hkept⟩ :=
    hb.owned_frame hfresh hwatches hf (hb.mem_nodes hmem hfresh)
  have hhandle : f'.handle = f.handle := by
    rcases hold : f.handle with _ | old
    all_goals rcases hnew : f'.handle with _ | new
    all_goals simp_all [Traced.body, Handle.native_inj]
  refine ⟨f', hf', ?_⟩
  rw [hhandle]
  rcases hold : f.handle with _ | old
  · simp [Handle.rawOf]
  · exact Bindings.clearName_handle (hkept _ (by simp [Traced.body, hold]))

/-- What was recorded is still bound after a frame in which the command buffer had its
    references. -/
theorem Recorded.frame (h : Recorded c slots w w.bound)
    (hused : ∀ slot r, slots slot = some r → w.Used (.texture r)) (hfresh : w'.Fresh)
    (hb : Owns (g.frame w tokens watches) ext w') (hrefs : ∀ n ∈ c.refs, n ∈ tokens + ext)
    (hwatches : ∀ n, (∀ r, n = .framebuffer r → n ∈ c.refs) → watches n) :
    Recorded c slots w' w'.bound := by
  obtain ⟨hbound, -⟩ := hb.bound_frame
  rw [hbound]
  -- what is bound stays bound unless it is deleted, and what somebody refers to is not deleted
  refine ⟨?_, ?_, ?_, ?_⟩
  · intro r hr
    obtain ⟨p, q, hp, hq, hprogram, harray⟩ := h.pipeline r hr
    obtain ⟨p', q', hp', hq', hprogram', harray'⟩ := hb.pipeline_frame hfresh
      (hrefs _ (CommandBuffer.pipeline_mem_refs hr)) (hwatches _ fun _ h => by cases h)
      (hwatches _ fun _ h => by cases h) hp hq
    exact ⟨p', q', hp', hq', (congrArg (Bindings.clearName .program _) hprogram).trans hprogram',
      (congrArg (Bindings.clearName .vertexArray _) harray).trans harray'⟩
  · intro r hr
    obtain ⟨f, hf, hbinding⟩ := h.target r hr
    have htarget := CommandBuffer.target_mem_refs hr
    obtain ⟨f', hf', hname⟩ := hb.framebuffer_frame hfresh (hrefs _ htarget)
      (hwatches _ fun _ h => by cases h; exact htarget) hf
    exact ⟨f', hf', (congrArg (Bindings.clearName .framebuffer _) hbinding).trans hname⟩
  · intro hnone
    show Bindings.clearName _ _ _ = _
    rw [h.window hnone, Bindings.clearName_zero]
  · intro slot
    show Bindings.clearName _ _ _ = _
    rw [h.texture slot]
    rcases hslot : slots slot with _ | r
    · simp [World.textureName, Handle.rawOf]
    · exact (hb.textureName_frame hfresh (hwatches _ fun _ h => by cases h)
        (hused slot r hslot)).symm

/-- A frame between two bindings or draws of a command. -/
def Guard.interlude (g : Guard σ) (w : World σ) : Guard σ := g.frame w g.tokens fun _ => True

theorem Owns.interlude (hb : Owns g ext w) : Owns (g.interlude w) ext w := hb.frame rfl

/-- The command buffer is tracked after an interlude if what it has then was bound before. -/
theorem Tracks.of_interlude (hg : g.Vouching)
    (hused : ∀ slot r, slots slot = some r → w.Used (.texture r))
    (hrecorded : Recorded c slots w w.bound) (hb : Owns (g.interlude w) (c.refs + ext) w') :
    Tracks g ext c slots w' ∧ w'.drawn = w.drawn := by
  have hfresh : w'.Fresh := hb.fresh_frame hg
  refine ⟨⟨hb.unframe hg rfl, ?_, ?_⟩, hb.bound_frame.2⟩
  · exact fun slot r hr => hb.used_frame (r := r) hfresh trivial (hused slot r hr)
  · refine hrecorded.frame hused hfresh hb (fun n hn => ?_) fun _ _ => trivial
    exact Multiset.mem_add.mpr (.inr (Multiset.mem_add.mpr (.inl hn)))

/-- The command buffer is tracked after a request that binds what it has then. -/
theorem Tracks.of_asked {r : Request} (hused : ∀ slot r, slots slot = some r → w.Used (.texture r))
    (hrecorded : Recorded c slots w (w.bound.after r)) (hb : Owns g (c.refs + ext) (w.asked r)) :
    Tracks g ext c slots (w.asked r) := by
  refine ⟨hb, fun slot r' hr => (w.alike_asked r).used (hused slot r' hr), ?_⟩
  rw [World.bound_asked]
  exact hrecorded.of_alike (w.alike_asked r)

end

end RenderKit
