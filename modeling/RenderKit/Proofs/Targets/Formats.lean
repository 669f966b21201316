import RenderKit.Proofs.Resources.Operations
import RenderKit.Proofs.Targets.Resizing

set_option autoImplicit false

/-! # Colors and depths

The textures that a framebuffer draws to have the formats of its attachments, after any number of
changes of size and whatever else happens. Nothing on the way asks for what a texture is used, so
the plan alone decides whether colors and depths are kept apart: they are if every attachment is at
the kind of place it was made for, and has the format of the texture it brings. -/

namespace RenderKit

variable {σ : Type} {w w' w'' : World σ}

/-! ## Formats -/

/-- The formats of the textures that are drawn to: those of the colors, and that of the depths with
    the point where they are attached. -/
structure TargetFormats where
  colors : List TextureFormat
  depth : Option (TextureFormat × AttachmentPoint)
deriving DecidableEq

/-- Colors and depths are kept apart, and stencil values go only where there is room for them. -/
structure TargetFormats.Unmixed (s : TargetFormats) : Prop where
  colors : ∀ format ∈ s.colors, format.isDepth = false
  depth : ∀ d ∈ s.depth, d.1.isDepth = true
  stencil : ∀ d ∈ s.depth, d.2 = .depthStencil → d.1.hasStencil = true

namespace Attachment

variable {a : Attachment} {p p' : Pool Texture}

/-- The format that was checked is the one that is drawn to. This is so unless another format was
    set after the texture. -/
def Matches (p : Pool Texture) (a : Attachment) : Prop := a.format = a.formatIn p

theorem formatIn_congr (h : ∀ r ∈ a.owned, p'.get? r = p.get? r) :
    a.formatIn p' = a.formatIn p := by
  rcases ha : a.texture with _ | r
  · simp [formatIn, ha]
  · simp [formatIn, ha, h r (by simp [owned, ha])]

/-- An attachment that was accepted has a format for depths exactly if it was made for them. -/
theorem isDepth_iff_of_fault? (h : a.fault? = none) :
    a.format.isDepth = true ↔ a.point ≠ .color := by
  unfold fault? at h
  split at h
  · cases h
  · rename_i hpoint
    simp only [bne_iff_ne, ne_eq, Decidable.not_not] at hpoint
    rw [← hpoint, bne_iff_ne]

theorem hasStencil_of_fault? (h : a.fault? = none) (hpoint : a.point = .depthStencil) :
    a.format.hasStencil = true := by
  unfold fault? at h
  split at h
  · cases h
  · simpa [hpoint] using h

end Attachment

namespace FramebufferPlan

/-- The formats of the textures that a plan leads to. -/
def formats (pool : Pool Texture) (p : FramebufferPlan) : TargetFormats where
  colors := p.colors.map fun a => a.formatIn pool
  depth := p.depthAttachment.map fun a => (a.formatIn pool, Framebuffer.depthPoint a.point)

/-- Every attachment is at the kind of place that it was made for. -/
def InPlace (p : FramebufferPlan) : Prop :=
  (∀ a ∈ p.colors, a.point = .color) ∧ ∀ a ∈ p.depthAttachment, a.point ≠ .color

theorem depthPoint_eq_depthStencil_iff {point : AttachmentPoint} :
    Framebuffer.depthPoint point = .depthStencil ↔ point = .depthStencil := by
  cases point <;> decide

theorem unmixed_formats_iff {pool : Pool Texture} {p : FramebufferPlan}
    (h : ∀ a ∈ p.colors ++ p.depthAttachment.toList, a.fault? = none ∧ a.Matches pool) :
    (p.formats pool).Unmixed ↔ p.InPlace := by
  have hisDepth : ∀ a ∈ p.colors ++ p.depthAttachment.toList,
      ((a.formatIn pool).isDepth = true ↔ a.point ≠ .color) := by
    intro a ha
    obtain ⟨hfault, hmatches⟩ := h a ha
    rw [← hmatches]
    exact Attachment.isDepth_iff_of_fault? hfault
  have hcolor : ∀ a ∈ p.colors, ((a.formatIn pool).isDepth = false ↔ a.point = .color) := by
    intro a ha
    rw [← Bool.not_eq_true, hisDepth a (List.mem_append_left _ ha), ne_eq, Decidable.not_not]
  have hdepth : ∀ a ∈ p.depthAttachment, ((a.formatIn pool).isDepth = true ↔ a.point ≠ .color) :=
    fun a ha => hisDepth a (List.mem_append_right _ (Option.mem_toList.mpr ha))
  constructor
  · rintro ⟨hcolors, hdepths, -⟩
    refine ⟨fun a ha => (hcolor a ha).mp (hcolors _ (List.mem_map_of_mem ha)), fun a ha => ?_⟩
    exact (hdepth a ha).mp (hdepths _ (Option.mem_map_of_mem _ ha))
  · rintro ⟨hcolors, hdepths⟩
    refine ⟨fun format hmem => ?_, fun d hd => ?_, fun d hd hpoint => ?_⟩
    · obtain ⟨a, ha, rfl⟩ := List.mem_map.mp hmem
      exact (hcolor a ha).mpr (hcolors a ha)
    · obtain ⟨a, ha, rfl⟩ := Option.mem_map.mp hd
      exact (hdepth a ha).mpr (hdepths a ha)
    · -- what was accepted for the combined point has room for stencil values
      obtain ⟨a, ha, rfl⟩ := Option.mem_map.mp hd
      obtain ⟨hfault, hmatches⟩ := h a (List.mem_append_right _ (Option.mem_toList.mpr ha))
      show (a.formatIn pool).hasStencil = true
      rw [← hmatches]
      exact Attachment.hasStencil_of_fault? hfault (depthPoint_eq_depthStencil_iff.mp hpoint)

end FramebufferPlan

namespace Framebuffer

/-! ## Targets -/

/-- Textures have the formats of some attachments. -/
def Formatted (pool pool' : Pool Texture) (as : List Attachment) (rs : List (Ref Texture)) : Prop :=
  rs.map (fun r => (pool'.get? r).map fun t => t.desc.format) =
    as.map fun a => some (a.formatIn pool)

section Lists

variable {pool pool' pool'' : Pool Texture} {as : List Attachment} {rs : List (Ref Texture)}

theorem Formatted.later (h : Formatted pool pool' as rs)
    (hrs : ∀ r ∈ rs, pool''.get? r = pool'.get? r) : Formatted pool pool'' as rs := by
  refine (List.map_congr_left fun r hr => ?_).trans h
  rw [hrs r hr]

theorem Formatted.earlier (h : Formatted pool' pool'' as rs)
    (has : ∀ a ∈ as, a.formatIn pool' = a.formatIn pool) : Formatted pool pool'' as rs := by
  refine h.trans (List.map_congr_left fun a ha => ?_)
  rw [has a ha]

/-- The formats of textures that are there. -/
theorem Formatted.eq (h : Formatted pool pool' as rs) {ts : List Texture}
    (hts : rs.map pool'.get? = ts.map some) :
    ts.map (fun t => t.desc.format) = as.map fun a => a.formatIn pool := by
  have hformats := congrArg (List.map (Option.map fun t : Texture => t.desc.format)) hts
  rw [List.map_map, List.map_map] at hformats
  have hsome : (ts.map fun t => t.desc.format).map some =
      (as.map fun a => a.formatIn pool).map some := by
    rw [List.map_map, List.map_map]
    exact hformats.symm.trans h
  exact List.map_injective_iff.mpr (Option.some_injective _) hsome

theorem Serves.formatted {width height : UInt32} {xs : List Holding}
    (h : List.Forall₂ (Serves pool width height) as xs)
    (hxs : ∀ x ∈ xs, pool'.get? x.ref = x.texture? pool) :
    Formatted pool pool' as (xs.map Holding.ref) := by
  induction h with
  | nil => rfl
  | @cons a x as xs hserves _ ih =>
      obtain ⟨hx, hxs⟩ := List.forall_mem_cons.mp hxs
      obtain ⟨t, ht, -⟩ := hserves.texture
      have hfirst : (pool'.get? x.ref).map (fun t => t.desc.format) = some (a.formatIn pool) := by
        rw [hx, ht, Option.map_some, hserves.format t ht]
      exact congrArg₂ List.cons hfirst (ih hxs)

/-- The textures behind some handles. -/
theorem HandlesOf.exists_textures {handles : List TextureHandle} (h : HandlesOf w rs handles) :
    ∃ ts : List Texture, rs.map w.textures.get? = ts.map some ∧
      ts.map (fun t => t.handle) = handles := by
  induction h with
  | nil => exact ⟨[], rfl, rfl⟩
  | cons hr _ ih =>
      obtain ⟨t, hget, rfl⟩ := hr
      obtain ⟨ts, hts, rfl⟩ := ih
      exact ⟨t :: ts, congrArg₂ List.cons hget hts, rfl⟩

end Lists

/-- The textures of a framebuffer have the formats of its attachments. -/
structure Suits (pool : Pool Texture) (p : FramebufferPlan) (f : Framebuffer) (w : World σ) :
    Prop where
  colors : Formatted pool w.textures p.colors f.colors
  depth : Formatted pool w.textures p.depthAttachment.toList f.depth.toList

/-- The object of the device was made of some textures for colors and, with its point, one for
    depths. These are what the framebuffer draws to. -/
structure MadeOf (w : World σ) (f : Framebuffer) (h : FramebufferHandle) (colors : List Texture)
    (depth : Option (Texture × AttachmentPoint)) : Prop where
  call : ∃ before after, w.history = before ++ ⟨.createFramebuffer
    (colors.map fun t => t.handle) (depth.map fun d => (d.1.handle, d.2)), some (.ok h)⟩ :: after
  colors : f.colors.map w.textures.get? = colors.map some
  depth : f.depth.map w.textures.get? = depth.map fun d => some d.1

/-- The formats of some textures. -/
def formatsOf (colors : List Texture) (depth : Option (Texture × AttachmentPoint)) :
    TargetFormats where
  colors := colors.map fun t => t.desc.format
  depth := depth.map fun d => (d.1.desc.format, d.2)

section Worlds

variable {p : FramebufferPlan} {r : Ref Framebuffer} {f : Framebuffer} {h : FramebufferHandle}
  {pool : Pool Texture} {w₁ : World σ} {width height : UInt32} {made : Targets}
  {xs ys : List Holding}

theorem Suits.later (hf : Suits pool p f w)
    (hget : ∀ t ∈ f.colors ++ f.depth.toList, w'.textures.get? t = w.textures.get? t) :
    Suits pool p f w' :=
  ⟨hf.colors.later fun t ht => hget t (List.mem_append_left _ ht),
    hf.depth.later fun t ht => hget t (List.mem_append_right _ ht)⟩

theorem Suits.earlier (hf : Suits w.textures p f w')
    (hget : ∀ t ∈ (p.colors ++ p.depthAttachment.toList).flatMap Attachment.owned,
      w.textures.get? t = pool.get? t) :
    Suits pool p f w' := by
  have hformat : ∀ a ∈ p.colors ++ p.depthAttachment.toList,
      a.formatIn w.textures = a.formatIn pool := fun a ha =>
    Attachment.formatIn_congr fun t ht => hget t (List.mem_flatMap.mpr ⟨a, ha, ht⟩)
  exact ⟨hf.colors.earlier fun a ha => hformat a (List.mem_append_left _ ha),
    hf.depth.earlier fun a ha => hformat a (List.mem_append_right _ ha)⟩

theorem Stands.suits (hmade : Stands w width height p.colors p.depthAttachment made xs ys w₁) :
    Suits w.textures p (ofTargets p width height made) w₁ := by
  refine ⟨?_, ?_⟩
  · show Formatted _ _ _ made.colors
    rw [hmade.colorRefs]
    exact Serves.formatted hmade.colorsServed fun x hx =>
      hmade.pool.get?_ref (List.mem_append_left _ hx)
  · show Formatted _ _ _ made.depth.toList
    rw [hmade.depthRefs]
    exact Serves.formatted hmade.depthServed fun x hx =>
      hmade.pool.get?_ref (List.mem_append_right _ hx)

theorem Consistent.exists_textures (hf : Consistent p r f h w) (hsuits : Suits pool p f w) :
    ∃ colors depth, MadeOf w f h colors depth ∧ formatsOf colors depth = p.formats pool := by
  obtain ⟨before, after, colorHandles, depthHandle, hhistory, -, hcolors, hdepth, hpoint⟩ :=
    hf.created
  obtain ⟨colors, hget, rfl⟩ := hcolors.exists_textures
  obtain ⟨depths, hgets, hhandles⟩ := hdepth.exists_textures
  have hformats := hsuits.colors.eq hget
  have hdepthFormats := hsuits.depth.eq hgets
  rw [hf.depthAttachment] at hpoint
  rcases depthHandle with _ | ⟨handle, point⟩
  · -- without a texture for depths there is no attachment for them
    have hnone : p.depthAttachment = none := Option.map_eq_none_iff.mp hpoint.symm
    have hdepths : depths = [] := List.map_eq_nil_iff.mp hhandles
    have hrefs : f.depth = none := by simpa [hdepths] using hgets
    refine ⟨colors, none, ⟨⟨before, after, hhistory⟩, hget, by rw [hrefs]; rfl⟩, ?_⟩
    rw [formatsOf, FramebufferPlan.formats, hformats, hnone]
    rfl
  · obtain ⟨a, ha, rfl⟩ := Option.map_eq_some_iff.mp hpoint.symm
    obtain ⟨t, rfl, rfl⟩ : ∃ t, depths = [t] ∧ t.handle = handle := by
      simpa [List.map_eq_cons_iff] using hhandles
    obtain ⟨r', hr', hgetr⟩ : ∃ r', f.depth = some r' ∧ w.textures.get? r' = some t := by
      simpa [List.map_eq_cons_iff, Option.toList_eq_singleton_iff] using hgets
    have hformat : t.desc.format = a.formatIn pool := by simpa [ha] using hdepthFormats
    refine ⟨colors, some (t, depthPoint a.point), ⟨⟨before, after, hhistory⟩, hget, ?_⟩, ?_⟩
    · rw [hr']
      exact congrArg some hgetr
    · rw [formatsOf, FramebufferPlan.formats, hformats, ha, Option.map_some, Option.map_some,
        hformat]

/-- The textures that the attachments brought are still there, and so they are the same. -/
theorem Consistent.get?_brought (hf : Consistent p r f h w') (hw : w.Later w')
    (hgiven : Given w.textures (p.colors ++ p.depthAttachment.toList)) :
    ∀ t ∈ (p.colors ++ p.depthAttachment.toList).flatMap Attachment.owned,
      w'.textures.get? t = w.textures.get? t := fun t ht =>
  hw.textures.get?_eq (Pool.isSome_of_owners (hgiven t ht)) (Pool.isSome_of_owners (hf.given t ht))

/-- A framebuffer that other things leave as it is keeps its textures. -/
theorem Consistent.get?_later (hf : Consistent p r f h w) (hf' : Consistent p r f h w')
    (hw : w.Later w') :
    ∀ t ∈ f.colors ++ f.depth.toList, w'.textures.get? t = w.textures.get? t := by
  intro t ht
  obtain ⟨before, hbefore, -⟩ := hf.sized t ht
  obtain ⟨after, hafter, -⟩ := hf'.sized t ht
  exact hw.textures.get?_eq (by simp [hbefore]) (by simp [hafter])

end Worlds

/-! ## All that may happen -/

section Tasks

variable [GraphicsDevice σ] {p : FramebufferPlan} {r : Ref Framebuffer} {w₀ : World σ}
  {width height : UInt32}

/-- The worlds that come after another one, as far as a framebuffer goes: its size is changed, with
    success or without it, or something else happens that leaves the framebuffer as it is. -/
inductive Ensuing (p : FramebufferPlan) (r : Ref Framebuffer) (w : World σ) : World σ → Prop where
  | refl : Ensuing p r w w
  | resized {w' w'' : World σ} : Ensuing p r w w' → Resized r w' w'' → Ensuing p r w w''
  | meanwhile {w' w'' : World σ} {f : Framebuffer} {h : FramebufferHandle} :
      Ensuing p r w w' → w'.Later w'' → Consistent p r f h w' → Consistent p r f h w'' →
      Ensuing p r w w''

/-- A framebuffer draws to what its plan led to in an earlier world. -/
structure Upholds (p : FramebufferPlan) (r : Ref Framebuffer) (w₀ w : World σ) : Prop where
  later : w₀.Later w
  suits : ∃ f h, Consistent p r f h w ∧ Suits w₀.textures p f w

variable (hgiven : Given w₀.textures (p.colors ++ p.depthAttachment.toList))

include hgiven

theorem upholds_create : Runs (create p) w₀ (fun r w => Upholds p r w₀ w) w₀.Restored := by
  refine ((opened_create hgiven).both (lasting_create p w₀)).mono ?_ fun _ h => h.1
  rintro r w ⟨⟨hextent, made, xs, ys, w₁, hmade, hopened⟩, hlater⟩
  exact ⟨hlater, _, _, hopened.consistent hmade hextent.1 hextent.2,
    hmade.suits.later fun t _ => hopened.get?_eq t⟩

theorem Upholds.resize (hw : Upholds p r w₀ w) :
    Runs (resize r width height) w (fun _ w' => Upholds p r w₀ w') (Upholds p r w₀) := by
  obtain ⟨hlater, f, h, hf, hsuits⟩ := hw
  refine ((exchanged_resize hf).both (lasting_resize r width height w)).mono ?_ ?_
  · rintro - w' ⟨⟨hextent, made, xs, ys, freeing, w₁, hmade, hex⟩, hlater'⟩
    -- the new textures were made for the formats that the attachments have by now
    have hsuits' : Suits w.textures p (ofTargets p width height made) w' :=
      hmade.suits.later fun t ht => hex.get?_target hf hmade ht
    exact ⟨hlater.trans hlater', _, _, hex.consistent hf hmade hextent.1 hextent.2,
      hsuits'.earlier (hf.get?_brought hlater hgiven)⟩
  · rintro w' ⟨hrestored, -, hlater'⟩
    exact ⟨hlater.trans hlater', f, h, hf.restored hrestored,
      hsuits.later fun t _ => hrestored.get?_eq t⟩

theorem Upholds.resized (hw : Upholds p r w₀ w) (hw' : Resized r w w') : Upholds p r w₀ w' := by
  induction hw' with
  | refl => exact hw
  | @resize w₁ w₂ width height outcome _ hrun hout ih =>
      rcases outcome with e | ⟨⟩
      · exact (ih.resize hgiven).of_error hrun fun hcut => hout (congrArg Except.error hcut)
      · exact (ih.resize hgiven).of_ok hrun

theorem Upholds.ensuing (hw : Upholds p r w₀ w) (hw' : Ensuing p r w w') : Upholds p r w₀ w' := by
  induction hw' with
  | refl => exact hw
  | resized _ hresized ih => exact ih.resized hgiven hresized
  | @meanwhile w₁ w₂ f h _ hlater hf hf' ih =>
      obtain ⟨hlater₀, f₁, h₁, hf₁, hsuits⟩ := ih
      obtain rfl : f₁ = f := Option.some.inj (hf₁.framebuffer.symm.trans hf.framebuffer)
      exact ⟨hlater₀.trans hlater, f₁, h, hf', hsuits.later (hf.get?_later hf' hlater)⟩

/-- The device is given textures of the formats that the plan has for them, at all times. -/
theorem formats_ensuing :
    Runs (create p) w₀
      (fun r w₁ => ∀ w₂, Ensuing p r w₁ w₂ → ∃ f h colors depth, Consistent p r f h w₂ ∧
        MadeOf w₂ f h colors depth ∧ formatsOf colors depth = p.formats w₀.textures)
      w₀.Restored := by
  refine (upholds_create hgiven).imp fun r w₁ hw₁ w₂ hw₂ => ?_
  obtain ⟨-, f, h, hf, hsuits⟩ := hw₁.ensuing hgiven hw₂
  obtain ⟨colors, depth, hmadeOf, hformats⟩ := hf.exists_textures hsuits
  exact ⟨f, h, colors, depth, hf, hmadeOf, hformats⟩

end Tasks

/-- The textures that the device makes a framebuffer of have the formats of the attachments: at
    first, and after all that may happen to the framebuffer. If the attachments were accepted with
    the formats of the textures they bring, colors and depths are kept apart exactly if each
    attachment is at the kind of place it was made for. -/
theorem unmixed_iff [GraphicsDevice σ] (p : FramebufferPlan) (w : World σ)
    (hgiven : Given w.textures (p.colors ++ p.depthAttachment.toList)) :
    Runs (create p) w
      (fun r w₁ => ∀ w₂, Ensuing p r w₁ w₂ → ∃ f h colors depth, Consistent p r f h w₂ ∧
        MadeOf w₂ f h colors depth ∧ formatsOf colors depth = p.formats w.textures ∧
        ((∀ a ∈ p.colors ++ p.depthAttachment.toList, a.fault? = none ∧ a.Matches w.textures) →
          ((formatsOf colors depth).Unmixed ↔ p.InPlace)))
      w.Restored := by
  refine (formats_ensuing hgiven).imp fun r w₁ hw₁ w₂ hw₂ => ?_
  obtain ⟨f, h, colors, depth, hf, hmadeOf, hformats⟩ := hw₁ w₂ hw₂
  refine ⟨f, h, colors, depth, hf, hmadeOf, hformats, fun haccepted => ?_⟩
  rw [hformats]
  exact FramebufferPlan.unmixed_formats_iff haccepted

/-- A framebuffer with two colors, of which one was given, keeps them apart from its depths when
    its size is changed. -/
theorem unmixed_iff_four_by_four :
    Given withTexture.textures (fourByFour.colors ++ fourByFour.depthAttachment.toList) ∧
      ∃ r w₁ w₂ f h colors depth, (create fourByFour).run.run withTexture = (.ok r, w₁) ∧
        (resize r 4 4).run.run w₁ = (.ok (), w₂) ∧ MadeOf w₂ f h colors depth ∧
        formatsOf colors depth = ⟨[.rgba8, .rgba8], some (.depth32f, .depth)⟩ ∧
        (formatsOf colors depth).Unmixed := by
  have hgiven : Given withTexture.textures
      (fourByFour.colors ++ fourByFour.depthAttachment.toList) := by
    unfold Given
    decide +kernel
  have hcreate : ((create fourByFour).run.run withTexture).1.toOption = some ⟨0⟩ := by
    decide +kernel
  have hresize : ((resize ⟨0⟩ 4 4).run.run ((create fourByFour).run.run withTexture).2).1.isOk := by
    decide +kernel
  have haccepted : ∀ a ∈ fourByFour.colors ++ fourByFour.depthAttachment.toList,
      a.fault? = none ∧ a.Matches withTexture.textures := by
    unfold Attachment.Matches
    decide +kernel
  have hformats : fourByFour.formats withTexture.textures =
      ⟨[.rgba8, .rgba8], some (.depth32f, .depth)⟩ := by
    decide +kernel
  generalize withTexture = w at *
  refine ⟨hgiven, ?_⟩
  rcases hrun₁ : (create fourByFour).run.run w with ⟨e | r, w₁⟩
  · rw [hrun₁] at hcreate
    cases hcreate
  rw [hrun₁] at hcreate hresize
  obtain rfl : r = ⟨0⟩ := Option.some.inj hcreate
  rcases hrun₂ : (resize ⟨0⟩ 4 4).run.run w₁ with ⟨e | ⟨⟩, w₂⟩
  · rw [hrun₂] at hresize
    cases hresize
  have hw₂ : Ensuing fourByFour ⟨0⟩ w₁ w₂ := .resized .refl (.resize .refl hrun₂ (by simp))
  obtain ⟨f, h, colors, depth, -, hmadeOf, heq, hunmixed⟩ :=
    (unmixed_iff fourByFour w hgiven).of_ok hrun₁ w₂ hw₂
  refine ⟨_, w₁, w₂, f, h, colors, depth, rfl, hrun₂, hmadeOf, heq.trans hformats, ?_⟩
  refine (hunmixed haccepted).mpr ⟨by decide, by decide⟩

/-- What a plan leads to that is carried out. -/
theorem exists_formats_create [GraphicsDevice σ] (p : FramebufferPlan) (w : World σ)
    (formats : TargetFormats)
    (hgiven : Given w.textures (p.colors ++ p.depthAttachment.toList))
    (hcreate : ((create p).run.run w).1.isOk) (hformats : p.formats w.textures = formats) :
    ∃ r w₁ f h colors depth, (create p).run.run w = (.ok r, w₁) ∧ MadeOf w₁ f h colors depth ∧
      formatsOf colors depth = formats := by
  rcases hrun : (create p).run.run w with ⟨e | r, w₁⟩
  · rw [hrun] at hcreate
    cases hcreate
  obtain ⟨f, h, colors, depth, -, hmadeOf, heq⟩ := (formats_ensuing hgiven).of_ok hrun w₁ .refl
  exact ⟨r, w₁, f, h, colors, depth, rfl, hmadeOf, heq.trans hformats⟩

/-- A color at the place for depths. -/
def colorForDepth : FramebufferPlan :=
  { FramebufferPlan.start 4 4 with depth := some (.color .rgba8) }

/-- A texture of colors for depths and stencil values, where their format was set afterwards. -/
def colorForStencil : FramebufferPlan :=
  { FramebufferPlan.start 4 4 with
    depthStencil := some ⟨.depthStencil, .depth24Stencil8, some ⟨0⟩⟩ }

/-- Nobody looks for what an attachment was made, and a format that is set after the texture hides
    what the texture is for. In both ways colors are attached where depths belong. -/
theorem color_at_depth_point :
    (∀ a ∈ colorForDepth.depthAttachment, a.fault? = none) ∧
      (∀ a ∈ colorForStencil.depthAttachment, a.fault? = none) ∧
      (∃ r w f h colors depth,
        (create colorForDepth).run.run withTexture = (.ok r, w) ∧ MadeOf w f h colors depth ∧
          formatsOf colors depth = ⟨[], some (.rgba8, .depth)⟩ ∧
          ¬(formatsOf colors depth).Unmixed) ∧
      ∃ r w f h colors depth,
        (create colorForStencil).run.run withTexture = (.ok r, w) ∧ MadeOf w f h colors depth ∧
          formatsOf colors depth = ⟨[], some (.rgba8, .depthStencil)⟩ ∧
          ¬(formatsOf colors depth).Unmixed := by
  have hmixed : ∀ point, ¬TargetFormats.Unmixed ⟨[], some (.rgba8, point)⟩ :=
    fun point hunmixed => nomatch hunmixed.depth _ rfl
  refine ⟨by decide, by decide, ?_, ?_⟩
  · obtain ⟨r, w, f, h, colors, depth, hrun, hmadeOf, heq⟩ :=
      exists_formats_create colorForDepth withTexture ⟨[], some (.rgba8, .depth)⟩
        (by unfold Given; decide +kernel) (by decide +kernel) (by decide +kernel)
    exact ⟨r, w, f, h, colors, depth, hrun, hmadeOf, heq, heq ▸ hmixed _⟩
  · obtain ⟨r, w, f, h, colors, depth, hrun, hmadeOf, heq⟩ :=
      exists_formats_create colorForStencil withTexture ⟨[], some (.rgba8, .depthStencil)⟩
        (by unfold Given; decide +kernel) (by decide +kernel) (by decide +kernel)
    exact ⟨r, w, f, h, colors, depth, hrun, hmadeOf, heq, heq ▸ hmixed _⟩

end Framebuffer

end RenderKit
