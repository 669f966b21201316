import RenderKit.Proofs.Modes.Blind
import RenderKit.Proofs.Targets.Making

set_option autoImplicit false

/-! # Targets are made to the end

Making the targets of a framebuffer is never cut off on account of a reference that leads nowhere:
the textures it looks at are there. If it is cut off at all, the device left a request without an
answer. -/

namespace RenderKit

variable {σ : Type} {α β : Type} {w w' : World σ}

/-! ## Tasks -/

/-- A task ends by itself, unless the device leaves a request without an answer. -/
def Completes (t : Render σ α) (w : World σ) : Prop :=
  ∀ w', t.run.run w = (.error .abort, w') → ¬Calls.Answered w'.history

namespace Completes

theorem pure {a : α} : Completes (Pure.pure a : Render σ α) w := by
  rintro w' ⟨⟩

theorem raise {e : Error} : Completes (RenderKit.raise e : Render σ α) w := by
  rintro w' ⟨⟩

theorem bind {t : Render σ α} {f : α → Render σ β} {P : α → World σ → Prop}
    {D : World σ → Prop} (ht : Completes t w) (hruns : Runs t w P D)
    (hf : ∀ a w', P a w' → Completes (f a) w') : Completes (t >>= f) w := by
  intro w' hrun
  rw [run_bind] at hrun
  rcases hout : t.run.run w with ⟨e | a, w₁⟩
  · rw [hout] at hrun
    cases hrun
    exact ht w' hout
  · rw [hout] at hrun
    exact hf a w₁ (hruns.of_ok hout) w' hrun

/-- What follows completes wherever the first part led. -/
theorem andThen {t : Render σ α} {f : α → Render σ β} (ht : Completes t w)
    (hf : ∀ a w', Completes (f a) w') : Completes (t >>= f) w :=
  ht.bind (P := fun _ _ => True) (D := fun _ => True) (runs_anyhow fun _ _ => trivial)
    fun a w' _ => hf a w'

theorem attempt {t : Render σ α} (ht : Completes t w) : Completes (RenderKit.attempt t) w := by
  intro w' hrun
  unfold RenderKit.attempt at hrun
  rw [run_tryCatch, run_bind] at hrun
  rcases hout : t.run.run w with ⟨(e | _) | a, w₁⟩
  · rw [hout] at hrun
    cases hrun
  · rw [hout] at hrun
    cases hrun
    exact ht w' hout
  · rw [hout] at hrun
    cases hrun

theorem bind_get {f : World σ → Render σ β} (h : Completes (f w) w) :
    Completes (get >>= f) w := h

theorem bind_set {f : PUnit → Render σ β} (h : Completes (f ⟨⟩) w') :
    Completes (set w' >>= f) w := h

theorem bind_modify {m : World σ → World σ} {f : PUnit → Render σ β}
    (h : Completes (f ⟨⟩) (m w)) : Completes (modify m >>= f) w := h

theorem bind_note {severity : Severity} {source message : String} {f : Unit → Render σ β}
    (h : Completes (f ()) (HasJournal.note ⟨severity, source, message⟩ w)) :
    Completes (note severity source message >>= f) w := h

theorem reject_if {c : Type} [Cause c] {cause : c} {wrong : Prop} [Decidable wrong]
    {f : α → Render σ β} {t : Render σ β} (ht : ¬wrong → Completes t w) :
    Completes (if wrong then reject cause >>= f else t) w := by
  split
  · rintro w' ⟨⟩
  · exact ht ‹_›

theorem view [Pooled α] {r : Ref α} {a : α} (h : (Pooled.pool w).get? r = some a) :
    Completes (RenderKit.view r) w := by
  rintro w' hrun
  rw [run_view, h] at hrun
  cases hrun

theorem bind_settle {outcome : Except Error α} {f : α → Render σ β}
    (h : ∀ a, outcome = .ok a → Completes (f a) w) : Completes (settle outcome >>= f) w := by
  rcases outcome with e | a
  · rintro w' ⟨⟩
  · exact h a rfl

theorem settle {outcome : Except Error α} : Completes (RenderKit.settle outcome : Render σ α) w
    := by
  rcases outcome with e | a <;> rintro w' ⟨⟩

theorem leave [Pooled α] {r : Ref α} : Completes (RenderKit.leave r) w := by
  rintro w' ⟨⟩

theorem holdAll [Pooled α] {rs : List (Ref α)} : Completes (RenderKit.holdAll rs) w := by
  induction rs generalizing w with
  | nil => exact pure
  | cons r rest ih => exact bind_modify ih

variable [GraphicsDevice σ]

theorem ask {r : Request} : Completes (RenderKit.ask r) w := by
  intro w' hrun hanswered
  rw [run_ask] at hrun
  rcases hreply : (GraphicsDevice.perform r w.device).reply with _ | reply
  · rw [hreply] at hrun
    cases hrun
    have hlast := hanswered ⟨r, (GraphicsDevice.perform r w.device).reply⟩
      (by simp [World.history, World.asked])
    rw [hreply] at hlast
    cases hlast
  · rw [hreply] at hrun
    cases hrun

end Completes

/-! ## Textures -/

section Textures

variable [GraphicsDevice σ] {hs : List Holding} {width height : UInt32}

theorem completes_releaseAll {rs : List (Ref Texture)} : Completes (releaseAll rs) w := by
  induction rs generalizing w with
  | nil => exact .pure
  | cons r rest ih =>
      have hrelease : Completes (release r) w := by
        refine Completes.leave.andThen ?_
        rintro (_ | t) w₁
        · exact .pure
        · exact .ask
      exact hrelease.andThen fun _ _ => ih

theorem completes_create {desc : TextureDesc} :
    Completes (Texture.create desc none) w := by
  unfold Texture.create
  refine .reject_if fun _ => ?_
  refine Completes.ask.andThen fun reply w₁ => ?_
  exact .bind_settle fun handle _ => .bind_note (.bind_get (.bind_set .pure))

theorem completes_target {a : Attachment} (h : w.Took hs w')
    (hgiven : Framebuffer.Given w.textures [a]) :
    Completes (Framebuffer.target width height a) w' := by
  unfold Framebuffer.target
  split
  · exact completes_create
  · rename_i r hsome
    obtain ⟨s, hslot, -⟩ := Pool.exists_slot_of_owners
      (hgiven r (by simp [Attachment.owned, hsome]))
    have hget := h.pool.get?_of_some (Pool.get?_of_slot? hslot)
    refine (Completes.view hget).andThen fun t w₁ => ?_
    exact .reject_if fun _ => .bind_modify .pure

end Textures

namespace Framebuffer

variable [GraphicsDevice σ] {hs : List Holding} {width height : UInt32}

theorem completes_targets {done : List (Ref Texture)} {as : List Attachment} (h : w.Took hs w')
    (hgiven : Given w.textures as) : Completes (targets width height done as) w' := by
  induction as generalizing done hs w' with
  | nil => exact .pure
  | cons a rest ih =>
      obtain ⟨ha, hrest⟩ := given_cons.mp hgiven
      refine (completes_target h ha).attempt.bind (D := fun _ => True)
        (runs_attempt (took_target h ha)) ?_
      rintro (e | r) w₁ h₁
      · exact completes_releaseAll.andThen fun _ _ => .raise
      · obtain ⟨x, -, -, h₁⟩ := h₁
        exact ih h₁ hrest

theorem completes_depthTarget {colors : List (Ref Texture)} {a : Option Attachment}
    (h : w.Took hs w') (hgiven : Given w.textures a.toList) :
    Completes (depthTarget width height colors a) w' := by
  unfold depthTarget
  split
  · exact .pure
  · refine (completes_target h hgiven).attempt.andThen ?_
    rintro (e | r) w₁
    · exact completes_releaseAll.andThen fun _ _ => .raise
    · exact .pure

omit [GraphicsDevice σ] in
theorem completes_handles {rs : List (Ref Texture)}
    (h : ∀ r ∈ rs, (w.textures.get? r).isSome) : Completes (handles rs) w := by
  induction rs with
  | nil => exact .pure
  | cons r rest ih =>
      obtain ⟨t, ht⟩ := Option.isSome_iff_exists.mp (h r List.mem_cons_self)
      refine (Completes.view ht).bind (D := fun _ => True) runs_view ?_
      rintro t w₁ ⟨rfl, -⟩
      exact (ih fun r' hr' => h r' (List.mem_cons_of_mem _ hr')).andThen fun _ _ => .pure

theorem completes_createTargets {colors : List Attachment} {depth : Option Attachment}
    (hgiven : Given w.textures (colors ++ depth.toList)) :
    Completes (createTargets width height colors depth) w := by
  obtain ⟨hcolors, hdepth⟩ := given_append.mp hgiven
  refine (completes_targets w.took_refl hcolors).bind (took_targets w.took_refl rfl hcolors) ?_
  rintro _ w₁ ⟨xs, rfl, -, h₁⟩
  rw [List.nil_append] at h₁
  refine (completes_depthTarget h₁ hdepth).bind (took_depthTarget h₁ hdepth) ?_
  rintro depthTexture w₂ ⟨ys, hrefs, -, h₂⟩
  -- what is held is in the pool, so that looking at it gives a texture
  have hthere : ∀ r ∈ (xs ++ ys).map Holding.ref, (w₂.textures.get? r).isSome := by
    intro r hr
    obtain ⟨x, hx, rfl⟩ := List.mem_map.mp hr
    exact h₂.pool.isSome_get?_ref hx
  rw [List.map_append] at hthere
  refine (completes_handles fun r hr => hthere r (List.mem_append_left _ hr)).bind
    (D := fun _ => True) runs_handles ?_
  rintro colorHandles w₂ ⟨rfl, -⟩
  extract_lets make
  have hmake : ∀ depthHandle w', Completes (make depthHandle) w' := by
    intro depthHandle w'
    refine (Completes.ask.andThen fun _ _ => .settle).attempt.andThen ?_
    rintro (e | handle) w₃
    · exact completes_releaseAll.andThen fun _ _ => completes_releaseAll.andThen fun _ _ => .raise
    · exact .pure
  split
  · rename_i a r
    have hr : r ∈ ys.map Holding.ref := by rw [← hrefs]; exact List.mem_singleton_self r
    obtain ⟨t, ht⟩ := Option.isSome_iff_exists.mp (hthere r (List.mem_append_right _ hr))
    exact (Completes.view ht).andThen fun _ _ => hmake _ _
  · exact hmake _ _

end Framebuffer

end RenderKit
