import RenderKit.Proofs.OpenGL.Transcript
import RenderKit.Proofs.Targets.Completion

set_option autoImplicit false

/-! # Framebuffers of changing size

A framebuffer agrees with its textures in size, whatever sizes it was given and whichever of these
changes failed. A change that fails leaves the framebuffer as it was. One that succeeds deletes the
old object of the device once the new one is there, and the textures that the attachments brought
stay. -/

namespace RenderKit

variable {σ : Type} {w w' : World σ}

namespace Framebuffer

/-! ## Consistency -/

/-- The texture for an attachment is the one that it brings, if it brings one. -/
def Keeps (a : Attachment) (r : Ref Texture) : Prop := ∀ given, a.texture = some given → r = given

/-- The object of the device was made of the textures that are drawn to, in their order, and the
    device has not given it out again. -/
def CreatedFrom (w : World σ) (f : Framebuffer) (h : FramebufferHandle) : Prop :=
  ∃ before after colors depth,
    w.history = before ++ ⟨.createFramebuffer colors depth, some (.ok h)⟩ :: after ∧
    (∀ c ∈ after, h.native ∉ c.issued) ∧
    HandlesOf w f.colors colors ∧
    HandlesOf w f.depth.toList (depth.toList.map (·.1)) ∧
    depth.map (·.2) = f.depthAttachment.map fun a => depthPoint a.point

/-- All references a framebuffer has: to textures that were given, and to those it draws to. -/
def refs (f : Framebuffer) : List (Ref Texture) := f.givenRefs ++ (f.colors ++ f.depth.toList)

/-- A framebuffer that was made by a plan and had its size changed since then. -/
structure Consistent (p : FramebufferPlan) (r : Ref Framebuffer) (f : Framebuffer)
    (h : FramebufferHandle) (w : World σ) : Prop where
  framebuffer : w.framebuffers.get? r = some f
  handle : f.handle = some h
  colorAttachments : f.colorAttachments = p.colors
  depthAttachment : f.depthAttachment = p.depthAttachment
  width : f.width ≠ 0
  height : f.height ≠ 0
  sized : ∀ t ∈ f.colors ++ f.depth.toList, ∃ texture, w.textures.get? t = some texture ∧
    texture.desc.width = f.width ∧ texture.desc.height = f.height
  colors : List.Forall₂ Keeps p.colors f.colors
  depth : List.Forall₂ Keeps p.depthAttachment.toList f.depth.toList
  created : CreatedFrom w f h
  owned : ∀ t, f.refs.count t ≤ w.textures.owners t

section Worlds

variable {p : FramebufferPlan} {r : Ref Framebuffer} {f : Framebuffer} {h : FramebufferHandle}
  {w₁ w₂ : World σ} {width height : UInt32} {made : Targets} {xs ys : List Holding}

theorem HandlesOf.congr {rs : List (Ref Texture)} {handles : List TextureHandle}
    (hrs : HandlesOf w rs handles) (h : ∀ r ∈ rs, w'.textures.get? r = w.textures.get? r) :
    HandlesOf w' rs handles := by
  induction hrs with
  | nil => exact .nil
  | cons hr _ ih =>
      refine .cons ?_ (ih fun r hmem => h r (List.mem_cons_of_mem _ hmem))
      rw [h _ List.mem_cons_self]
      exact hr

/-- Later calls do not matter as long as the textures stay and the device does not give out the
    object again. -/
theorem CreatedFrom.later {after : List Call} (hcreated : CreatedFrom w f h)
    (hhistory : w'.history = w.history ++ after) (hafter : ∀ c ∈ after, h.native ∉ c.issued)
    (htextures : ∀ t ∈ f.colors ++ f.depth.toList, w'.textures.get? t = w.textures.get? t) :
    CreatedFrom w' f h := by
  obtain ⟨before, between, colors, depth, hbefore, hbetween, hcolors, hdepth, hpoint⟩ := hcreated
  refine ⟨before, between ++ after, colors, depth, ?_, ?_, ?_, ?_, hpoint⟩
  · rw [hhistory, hbefore, List.append_assoc, List.cons_append]
  · intro c hc
    exact (List.mem_append.mp hc).elim (hbetween c) (hafter c)
  · exact hcolors.congr fun t ht => htextures t (List.mem_append_left _ ht)
  · exact hdepth.congr fun t ht => htextures t (List.mem_append_right _ ht)

theorem not_mem_issued {calls : List Call} {x : Native} (h : x ∉ Calls.issued calls) :
    ∀ c ∈ calls, x ∉ c.issued :=
  fun c hc hx => h (List.mem_flatMap.mpr ⟨c, hc, hx⟩)

/-- A change that was undone does not matter to a framebuffer. -/
theorem Consistent.restored (hf : Consistent p r f h w) (hw : w.Restored w') :
    Consistent p r f h w' := by
  have hget := hw.get?_eq
  obtain ⟨⟨calls, more, xs, ys, hstocked, hmake, hremove, -, hkind⟩, hpool⟩ := hw
  have hissued : h.native ∉ Calls.issued (calls ++ more) := by
    rw [Calls.issued_append, hmake.issued, hremove.issued, List.append_nil]
    intro hmem
    cases hkind _ hmem
  exact { hf with
    framebuffer := by rw [hstocked.framebuffers]; exact hf.framebuffer
    sized := fun t ht => by rw [hget]; exact hf.sized t ht
    created := hf.created.later hstocked.history (not_mem_issued hissued) fun t _ => hget t
    owned := fun t => by rw [Pool.owners, hpool]; exact hf.owned t }

/-- The textures an attachment brings are among the references of the framebuffer. -/
theorem Consistent.given (hf : Consistent p r f h w) :
    Given w.textures (p.colors ++ p.depthAttachment.toList) := by
  intro t ht
  rw [← hf.colorAttachments, ← hf.depthAttachment, List.flatMap_append] at ht
  have hmem : t ∈ f.refs := List.mem_append_left _ ht
  exact (List.count_pos_iff.mpr hmem).trans_le (hf.owned t)

theorem Serves.exists_size {as : List Attachment} {pool : Pool Texture}
    (h : List.Forall₂ (Serves pool width height) as xs) :
    ∀ x ∈ xs, ∃ t, x.texture? pool = some t ∧ t.desc.width = width ∧ t.desc.height = height := by
  induction h with
  | nil => simp
  | cons hserves _ ih => exact List.forall_mem_cons.mpr ⟨hserves.texture, ih⟩

theorem Serves.keeps {as : List Attachment} {pool : Pool Texture}
    (h : List.Forall₂ (Serves pool width height) as xs) :
    List.Forall₂ Keeps as (xs.map Holding.ref) := by
  refine List.forall₂_map_right_iff.mpr (h.imp fun a x hserves given hgiven => ?_)
  rw [hserves.given given hgiven]
  rfl

/-- The framebuffer of a plan with some targets. -/
def ofTargets (p : FramebufferPlan) (width height : UInt32) (made : Targets) : Framebuffer where
  handle := some made.handle
  width := width
  height := height
  colorAttachments := p.colors
  depthAttachment := p.depthAttachment
  colors := made.colors
  depth := made.depth

/-- Once its targets stand, a framebuffer is consistent for as long as they stay. -/
theorem Stands.consistent
    (hmade : Stands w width height p.colors p.depthAttachment made xs ys w₁) (hwidth : width ≠ 0)
    (hheight : height ≠ 0) (after : List Call)
    (hframebuffer : w₂.framebuffers.get? r = some (ofTargets p width height made))
    (hhistory : w₂.history = w₁.history ++ after)
    (hafter : made.handle.native ∉ Calls.issued after)
    (htextures : ∀ t ∈ made.colors ++ made.depth.toList,
      w₂.textures.get? t = w₁.textures.get? t)
    (howned : ∀ t, (ofTargets p width height made).refs.count t ≤ w₂.textures.owners t) :
    Consistent p r (ofTargets p width height made) made.handle w₂ := by
  have hrefs : made.colors ++ made.depth.toList = (xs ++ ys).map Holding.ref := by
    rw [hmade.colorRefs, hmade.depthRefs, List.map_append]
  have hcreated : CreatedFrom w₁ (ofTargets p width height made) made.handle := by
    obtain ⟨calls, colors, depth, hstocked, -, hcolors, hdepth, hpoint⟩ := hmade.created
    refine ⟨w.history ++ calls, [], colors, depth, ?_, by simp, hcolors, hdepth, hpoint⟩
    rw [hstocked.history, List.append_assoc]
  refine
    { framebuffer := hframebuffer
      handle := rfl
      colorAttachments := rfl
      depthAttachment := rfl
      width := hwidth
      height := hheight
      sized := fun t ht => ?_
      colors := by
        have hkeeps := Serves.keeps hmade.colorsServed
        rwa [← hmade.colorRefs] at hkeeps
      depth := by
        have hkeeps := Serves.keeps hmade.depthServed
        rwa [← hmade.depthRefs] at hkeeps
      created := hcreated.later hhistory (not_mem_issued hafter) htextures
      owned := howned }
  have ht' : t ∈ (xs ++ ys).map Holding.ref := hrefs ▸ ht
  obtain ⟨x, hx, rfl⟩ := List.mem_map.mp ht'
  rw [htextures _ ht, hmade.pool.get?_ref hx]
  exact (List.mem_append.mp hx).elim (Serves.exists_size hmade.colorsServed x)
    (Serves.exists_size hmade.depthServed x)

end Worlds

/-! ## Creation -/

section Tasks

variable [GraphicsDevice σ] {p : FramebufferPlan} {r : Ref Framebuffer} {f : Framebuffer}
  {h : FramebufferHandle} {width height : UInt32}

omit [GraphicsDevice σ] in
theorem Stands.owners_eq {colors : List Attachment} {depth : Option Attachment} {made : Targets}
    {xs ys : List Holding} (hmade : Stands w width height colors depth made xs ys w')
    (t : Ref Texture) :
    w'.textures.owners t =
      w.textures.owners t + (made.colors ++ made.depth.toList).count t := by
  rw [hmade.pool.owners_eq, hmade.colorRefs, hmade.depthRefs, List.map_append]

/-- A framebuffer was opened on its targets. It became an owner of what its attachments bring. -/
structure Opened (p : FramebufferPlan) (r : Ref Framebuffer) (made : Targets) (w w' : World σ) :
    Prop where
  framebuffer : w'.framebuffers.get? r = some (ofTargets p p.width p.height made)
  history : w'.history = w.history
  get?_eq : ∀ t, w'.textures.get? t = w.textures.get? t
  owners_eq : ∀ t, w'.textures.owners t =
    w.textures.owners t + (ofTargets p p.width p.height made).givenRefs.count t

omit [GraphicsDevice σ] in
theorem Opened.consistent {w₁ : World σ} {made : Targets} {xs ys : List Holding}
    (hopened : Opened p r made w₁ w')
    (hmade : Stands w p.width p.height p.colors p.depthAttachment made xs ys w₁)
    (hwidth : p.width ≠ 0) (hheight : p.height ≠ 0) :
    Consistent p r (ofTargets p p.width p.height made) made.handle w' := by
  refine hmade.consistent hwidth hheight [] hopened.framebuffer ?_ List.not_mem_nil
    (fun t _ => hopened.get?_eq t) fun t => ?_
  · rw [hopened.history, List.append_nil]
  · rw [hopened.owners_eq, hmade.owners_eq, refs, List.count_append]
    show _ + (made.colors ++ made.depth.toList).count t ≤ _
    omega

theorem opened_create (hgiven : Given w.textures (p.colors ++ p.depthAttachment.toList)) :
    Runs (create p) w
      (fun r w' => (p.width ≠ 0 ∧ p.height ≠ 0) ∧ ∃ made xs ys w₁,
        Stands w p.width p.height p.colors p.depthAttachment made xs ys w₁ ∧ Opened p r made w₁ w')
      w.Restored := by
  unfold create
  refine Runs.reject_if (w.restored_refl.noted _) fun hextent => Runs.bind_get ?_
  refine Runs.reject_if (w.restored_refl.noted _) fun _ => ?_
  refine Runs.bind (stands_createTargets hgiven) ?_
  rintro made w₁ ⟨xs, ys, hmade⟩
  have hthere : ∀ t ∈ (p.colors ++ p.depthAttachment.toList).flatMap Attachment.owned,
      (w₁.textures.get? t).isSome := by
    intro t ht
    obtain ⟨s, hslot, -⟩ := Pool.exists_slot_of_owners (hgiven t ht)
    rw [hmade.pool.get?_of_some (Pool.get?_of_slot? hslot)]
    rfl
  rw [List.flatMap_append] at hthere
  refine Runs.bind_note (Runs.bind (stocked_holdAll fun t ht => ?_) ?_)
  · exact hthere t (List.mem_append_left _ ht)
  rintro - w₂ ⟨hstocked₂, hget₂, howners₂⟩
  refine Runs.bind (stocked_holdAll fun t ht => ?_) ?_
  · rw [hget₂]
    exact hthere t (List.mem_append_right _ ht)
  rintro - w₃ ⟨hstocked₃, hget₃, howners₃⟩
  refine Runs.bind_get (Runs.bind_set (Runs.pure ?_))
  refine ⟨by simpa [not_or] using hextent, made, xs, ys, w₁, hmade, Pool.get?_add _ _, ?_,
    fun t => (hget₃ t).trans (hget₂ t), fun t => ?_⟩
  · have hhistory := (hstocked₂.trans hstocked₃).history
    rwa [List.append_nil, List.append_nil] at hhistory
  · show w₃.textures.owners t = _
    rw [howners₃, howners₂, givenRefs, List.count_append, ← Nat.add_assoc]
    rfl

theorem consistent_create (hgiven : Given w.textures (p.colors ++ p.depthAttachment.toList)) :
    Runs (create p) w (fun r w' => ∃ f h, Consistent p r f h w') w.Restored := by
  refine (opened_create hgiven).imp ?_
  rintro r w' ⟨hextent, made, xs, ys, w₁, hmade, hopened⟩
  exact ⟨_, _, hopened.consistent hmade hextent.1 hextent.2⟩

theorem completes_create (hgiven : Given w.textures (p.colors ++ p.depthAttachment.toList)) :
    Completes (create p) w := by
  unfold create
  refine .reject_if fun _ => .bind_get (.reject_if fun _ => ?_)
  refine (completes_createTargets hgiven).andThen fun made w₁ => .bind_note ?_
  refine Completes.holdAll.andThen fun _ w₂ => Completes.holdAll.andThen fun _ w₃ => ?_
  exact .bind_get (.bind_set .pure)

/-! ## Changes of size -/

/-- A framebuffer has changed its size. The calls made its textures, then its object of the device,
    and only then deleted the old object and the textures that nobody owns any more. -/
structure Replaced (r : Ref Framebuffer) (width height : UInt32) (f f' : Framebuffer)
    (old new : FramebufferHandle) (calls : List Call) (w w' : World σ) : Prop where
  size : f'.width = width ∧ f'.height = height
  history : w'.history = w.history ++ calls
  order : ∃ making colors depth freeing,
    calls = making ++ ⟨.createFramebuffer colors depth, some (.ok new)⟩ ::
      ⟨.deleteFramebuffer old, some ()⟩ :: freeing ∧
    Calls.deleted making = [] ∧ (∀ x ∈ Calls.issued making, x.kind = .texture) ∧
    Calls.issued freeing = [] ∧
    ∀ x ∈ Calls.deleted freeing, ∃ t ∈ f.colors ++ f.depth.toList, ∃ texture,
      w.textures.get? t = some texture ∧ w'.textures.slot? t = none ∧ texture.handle.native = x
  once : (Calls.deleted calls).count old.native = 1
  given : ∀ t ∈ f.givenRefs, (w.textures.get? t).isSome ∧
    w'.textures.get? t = w.textures.get? t
  others : ∀ r', r' ≠ r → w'.framebuffers.slot? r' = w.framebuffers.slot? r'

omit [GraphicsDevice σ] in
/-- Only one framebuffer is deleted. -/
theorem count_deleted {making freeing : List Call} {colors : List TextureHandle}
    {depth : Option (TextureHandle × AttachmentPoint)} {old new : FramebufferHandle}
    (hmaking : Calls.deleted making = []) {P : Texture → Prop}
    (hfreeing : ∀ x ∈ Calls.deleted freeing, ∃ t, P t ∧ t.handle.native = x) :
    (Calls.deleted (making ++ ⟨.createFramebuffer colors depth, some (.ok new)⟩ ::
      ⟨.deleteFramebuffer old, some ()⟩ :: freeing)).count old.native = 1 := by
  have hnot : old.native ∉ Calls.deleted freeing := by
    intro hmem
    obtain ⟨t, -, ht⟩ := hfreeing _ hmem
    cases ht
  have hdeleted : Calls.deleted (making ++ ⟨.createFramebuffer colors depth, some (.ok new)⟩ ::
      ⟨.deleteFramebuffer old, some ()⟩ :: freeing) = old.native :: Calls.deleted freeing := by
    rw [Calls.deleted_append, hmaking]
    rfl
  rw [hdeleted, List.count_cons_self, List.count_eq_zero.mpr hnot]

omit [GraphicsDevice σ] in
/-- A framebuffer with other targets. -/
theorem slot?_altered (change : Framebuffer → Framebuffer) (hget : w.framebuffers.get? r = some f) :
    (w.altered r change).framebuffers.get? r = some (change f) ∧
      ∀ r', r' ≠ r → (w.altered r change).framebuffers.slot? r' = w.framebuffers.slot? r' := by
  obtain ⟨s, hslot, rfl⟩ := Pool.slot?_of_get? hget
  have hslot' : ∀ r', (w.altered r change).framebuffers.slot? r' = _ :=
    Pool.slot?_update hslot change
  refine ⟨?_, fun r' hne => ?_⟩
  · have hvalue := (hslot' r).trans (if_pos rfl)
    rw [Pool.get?, hvalue]
    rfl
  · rw [hslot', if_neg hne]

section Kept

variable {w₁ : World σ} {made : Targets} {xs ys : List Holding} {pool : Pool Texture}
  (hf : Consistent p r f h w)
  (hmade : Stands w width height p.colors p.depthAttachment made xs ys w₁)

include hf hmade

omit [GraphicsDevice σ] in
/-- What was given or is drawn to from now on stays when the old targets are given up. -/
theorem Consistent.kept (hgivenUp : w₁.textures.GivenUp (f.colors ++ f.depth.toList) pool)
    {t : Ref Texture}
    (ht : 0 < f.givenRefs.count t + (made.colors ++ made.depth.toList).count t) :
    pool.get? t = w₁.textures.get? t ∧
      f.givenRefs.count t + (made.colors ++ made.depth.toList).count t ≤ pool.owners t := by
  have howned := hf.owned t
  have howners := hmade.owners_eq t
  rw [refs, List.count_append] at howned
  obtain ⟨hget, hafter⟩ := hgivenUp.get?_eq (r := t) (by omega)
  exact ⟨hget, by omega⟩

omit [GraphicsDevice σ] in
/-- The old targets are what they were before the new ones were made. -/
theorem Consistent.get?_old {t : Ref Texture} (ht : t ∈ f.colors ++ f.depth.toList)
    {texture : Texture} (hget : w₁.textures.get? t = some texture) :
    w.textures.get? t = some texture := by
  obtain ⟨before, hbefore, -⟩ := hf.sized t ht
  have hafter := hmade.pool.get?_of_some hbefore
  rwa [← hget, hafter]

omit [GraphicsDevice σ] in
theorem Consistent.get?_given {t : Ref Texture} (ht : t ∈ f.givenRefs) :
    (w.textures.get? t).isSome ∧ w₁.textures.get? t = w.textures.get? t := by
  have howned := hf.owned t
  rw [refs, List.count_append] at howned
  have hpos := List.count_pos_iff.mpr ht
  obtain ⟨s, hslot, -⟩ := Pool.exists_slot_of_owners (p := w.textures) (r := t) (by omega)
  have hbefore := Pool.get?_of_slot? hslot
  rw [hmade.pool.get?_of_some hbefore, hbefore]
  exact ⟨rfl, rfl⟩

end Kept

/-- The targets of a framebuffer were exchanged for others. The old ones were given up last. -/
structure Exchanged (p : FramebufferPlan) (r : Ref Framebuffer) (width height : UInt32)
    (f : Framebuffer) (h : FramebufferHandle) (made : Targets) (freeing : List Call)
    (w w' : World σ) : Prop where
  framebuffer : w'.framebuffers.get? r = some (ofTargets p width height made)
  others : ∀ r', r' ≠ r → w'.framebuffers.slot? r' = w.framebuffers.slot? r'
  history : w'.history = w.history ++ (⟨.deleteFramebuffer h, some ()⟩ :: freeing)
  issued : Calls.issued freeing = []
  givenUp : w.textures.GivenUp (f.colors ++ f.depth.toList) w'.textures
  freed : ∀ x ∈ Calls.deleted freeing, ∃ t ∈ f.colors ++ f.depth.toList, ∃ texture,
    w.textures.get? t = some texture ∧ w'.textures.slot? t = none ∧ texture.handle.native = x

theorem exchanged_resize (hf : Consistent p r f h w) :
    Runs (resize r width height) w
      (fun _ w' => (width ≠ 0 ∧ height ≠ 0) ∧ ∃ made xs ys freeing w₁,
        Stands w width height p.colors p.depthAttachment made xs ys w₁ ∧
        Exchanged p r width height f h made freeing w₁ w')
      w.Restored := by
  unfold resize
  refine Runs.reject_if (w.restored_refl.noted _) fun hextent => ?_
  refine Runs.bind_same runs_view fun f' hget => ?_
  obtain rfl : f = f' := Option.some.inj (hf.framebuffer.symm.trans hget)
  rw [hf.handle]
  show Runs (createTargets width height f.colorAttachments f.depthAttachment >>= fun _ => _) w _ _
  rw [hf.colorAttachments, hf.depthAttachment]
  refine Runs.bind (stands_createTargets hf.given) ?_
  rintro made w₁ ⟨xs, ys, hmade⟩
  obtain ⟨making, colors, depth, hstocked₁, -, -⟩ := hmade.created
  -- the new targets take the place of the old ones, which are given up
  refine Runs.bind runs_altered ?_
  rintro - w₂ rfl
  refine Runs.bind runs_ask ?_
  rintro ⟨⟩ w₃ ⟨rfl, hreply⟩
  show Runs (releaseAll f.colors >>= fun _ => releaseAll f.depth.toList) _ _ _
  rw [← releaseAll_append]
  refine runs_releaseAll_textures.imp ?_
  rintro - w₄ ⟨hgivenUp, freeing, gone, hstocked₄, hremove, hfreed⟩
  have hget₁ : w₁.framebuffers.get? r = some f := by rw [hstocked₁.framebuffers]; exact hget
  obtain ⟨hget₂, hothers⟩ := slot?_altered (fun f =>
    { f with
      handle := some made.handle
      width := width
      height := height
      colors := made.colors
      depth := made.depth }) hget₁
  refine ⟨by simpa [not_or] using hextent, made, xs, ys, freeing, w₁, hmade, ?_, fun r' hne => ?_,
    ?_, hremove.issued, hgivenUp, fun x hx => hfreed x (hremove.deleted ▸ hx)⟩
  · rw [hstocked₄.framebuffers, ofTargets, ← hf.colorAttachments, ← hf.depthAttachment]
    exact hget₂
  · rw [hstocked₄.framebuffers]
    exact hothers r' hne
  · rw [hstocked₄.history, history_asked hreply, List.append_assoc]
    rfl

section Exchanges

variable {w₁ : World σ} {made : Targets} {xs ys : List Holding} {freeing : List Call}
  (hf : Consistent p r f h w)
  (hmade : Stands w width height p.colors p.depthAttachment made xs ys w₁)
  (hex : Exchanged p r width height f h made freeing w₁ w')

include hf hmade hex

omit [GraphicsDevice σ] in
/-- The old targets count once less, which what is given or new outlives. -/
theorem Exchanged.kept {t : Ref Texture}
    (ht : 0 < f.givenRefs.count t + (made.colors ++ made.depth.toList).count t) :
    w'.textures.get? t = w₁.textures.get? t ∧
      f.givenRefs.count t + (made.colors ++ made.depth.toList).count t ≤ w'.textures.owners t :=
  hf.kept hmade hex.givenUp ht

omit [GraphicsDevice σ] in
theorem Exchanged.get?_target {t : Ref Texture} (ht : t ∈ made.colors ++ made.depth.toList) :
    w'.textures.get? t = w₁.textures.get? t :=
  (hex.kept hf hmade (Nat.add_pos_right _ (List.count_pos_iff.mpr ht))).1

omit [GraphicsDevice σ] in
theorem Exchanged.consistent (hwidth : width ≠ 0) (hheight : height ≠ 0) :
    Consistent p r (ofTargets p width height made) made.handle w' := by
  refine hmade.consistent hwidth hheight _ hex.framebuffer hex.history ?_
    (fun t ht => hex.get?_target hf hmade ht) fun t => ?_
  · show made.handle.native ∉ Calls.issued freeing
    rw [hex.issued]
    exact List.not_mem_nil
  · have hgivenRefs : (ofTargets p width height made).givenRefs = f.givenRefs := by
      rw [givenRefs, givenRefs, hf.colorAttachments, hf.depthAttachment]
      rfl
    rw [refs, hgivenRefs, List.count_append]
    rcases Nat.eq_zero_or_pos
      (f.givenRefs.count t + (made.colors ++ made.depth.toList).count t) with hnone | hpos
    · exact hnone.trans_le (Nat.zero_le _)
    · exact (hex.kept hf hmade hpos).2

omit [GraphicsDevice σ] in
theorem Exchanged.replaced : ∃ calls,
    Replaced r width height f (ofTargets p width height made) h made.handle calls w w' := by
  obtain ⟨making, colors, depth, hstocked, hmaking, -⟩ := hmade.created
  have hfree : ∀ x ∈ Calls.deleted freeing, ∃ t ∈ f.colors ++ f.depth.toList, ∃ texture,
      w.textures.get? t = some texture ∧ w'.textures.slot? t = none ∧
        texture.handle.native = x := by
    intro x hx
    obtain ⟨t, ht, texture, hget, hgone⟩ := hex.freed x hx
    exact ⟨t, ht, texture, hf.get?_old hmade ht hget, hgone⟩
  refine ⟨making ++ ⟨.createFramebuffer colors depth, some (.ok made.handle)⟩ ::
    ⟨.deleteFramebuffer h, some ()⟩ :: freeing, ⟨rfl, rfl⟩, ?_,
    ⟨making, colors, depth, freeing, rfl, hmaking.deleted, fun x hx => ?_, hex.issued, hfree⟩, ?_,
    fun t ht => ?_, fun r' hne => ?_⟩
  · rw [hex.history, hstocked.history]
    simp
  · rw [hmaking.issued] at hx
    exact Holding.kind_of_mem_natives hx
  · refine count_deleted hmaking.deleted (P := fun _ => True) fun x hx => ?_
    obtain ⟨-, -, texture, -, -, hnative⟩ := hfree x hx
    exact ⟨texture, trivial, hnative⟩
  · obtain ⟨hsome, hsame⟩ := hf.get?_given hmade ht
    have hpos := List.count_pos_iff.mpr ht
    exact ⟨hsome, (hex.kept hf hmade (Nat.add_pos_left hpos _)).1.trans hsame⟩
  · rw [hex.others r' hne, hstocked.framebuffers]

end Exchanges

/-- A change of size that succeeds replaces a consistent framebuffer by another one, and one that
    fails leaves everything as it was. -/
theorem replaced_resize (hf : Consistent p r f h w) :
    Runs (resize r width height) w
      (fun _ w' => ∃ f' h' calls, Consistent p r f' h' w' ∧
        Replaced r width height f f' h h' calls w w')
      w.Restored := by
  refine (exchanged_resize hf).imp ?_
  rintro - w' ⟨hextent, made, xs, ys, freeing, w₁, hmade, hex⟩
  obtain ⟨calls, hreplaced⟩ := hex.replaced hf hmade
  exact ⟨_, _, calls, hex.consistent hf hmade hextent.1 hextent.2, hreplaced⟩

theorem completes_resize (hf : Consistent p r f h w) : Completes (resize r width height) w := by
  unfold resize
  refine .reject_if fun _ => ?_
  refine (Completes.view hf.framebuffer).bind (D := fun _ => True) runs_view ?_
  rintro f' w ⟨rfl, hget⟩
  obtain rfl : f = f' := Option.some.inj (hf.framebuffer.symm.trans hget)
  rw [hf.handle]
  show Completes (createTargets width height f.colorAttachments f.depthAttachment >>= fun _ => _) w
  rw [hf.colorAttachments, hf.depthAttachment]
  refine (completes_createTargets hf.given).andThen fun made w₁ => .bind_modify ?_
  refine Completes.ask.andThen fun _ w₂ => ?_
  exact completes_releaseAll.andThen fun _ w₃ => completes_releaseAll

/-! ## All changes of size -/

/-- The worlds that changes of the size of a framebuffer lead to, whether they succeed or fail. -/
inductive Resized (r : Ref Framebuffer) (w : World σ) : World σ → Prop where
  | refl : Resized r w w
  | resize {w' w'' : World σ} {width height : UInt32} {outcome : Except Halt Unit} :
      Resized r w w' → (resize r width height).run.run w' = (outcome, w'') →
      outcome ≠ .error .abort → Resized r w w''

theorem Consistent.resized (hf : Consistent p r f h w) (hw : Resized r w w') :
    ∃ f' h', Consistent p r f' h' w' := by
  induction hw with
  | refl => exact ⟨f, h, hf⟩
  | @resize w' w'' width height outcome _ hrun hout ih =>
      obtain ⟨f', h', hf'⟩ := ih
      have hresize : Runs (resize r width height) w' _ _ := replaced_resize hf'
      rcases outcome with e | ⟨⟩
      · have hrestored := hresize.of_error hrun fun hcut => hout (congrArg Except.error hcut)
        exact ⟨f', h', hf'.restored hrestored⟩
      · obtain ⟨f'', h'', -, hf'', -⟩ := hresize.of_ok hrun
        exact ⟨f'', h'', hf''⟩

/-- A framebuffer agrees with its textures in size, and its object of the device was made of them,
    whatever sizes it was given, on a device that may fail at any time. A change of size that fails
    leaves it as it was and deletes what it made. One that succeeds deletes the old object once,
    after the new one was made, and keeps the textures that were given. -/
theorem consistent_after_resizes (p : FramebufferPlan) (w : World σ)
    (hgiven : Given w.textures (p.colors ++ p.depthAttachment.toList)) :
    Completes (create p) w ∧
    Runs (create p) w
      (fun r w₁ => ∀ w₂, Resized r w₁ w₂ → ∃ f h, Consistent p r f h w₂ ∧
        ∀ width height, Completes (resize r width height) w₂ ∧
          Runs (resize r width height) w₂
            (fun _ w₃ => ∃ f' h' calls, Consistent p r f' h' w₃ ∧
              Replaced r width height f f' h h' calls w₂ w₃)
            w₂.Restored)
      w.Restored := by
  refine ⟨completes_create hgiven, (consistent_create hgiven).imp ?_⟩
  rintro r w₁ ⟨f, h, hf⟩ w₂ hw₂
  obtain ⟨f', h', hf'⟩ := hf.resized hw₂
  exact ⟨f', h', hf', fun width height => ⟨completes_resize hf', replaced_resize hf'⟩⟩

end Tasks

/-! ## A framebuffer of four by four -/

/-- Two colors and depths, where a texture for the first color is given. -/
def fourByFour : FramebufferPlan :=
  { FramebufferPlan.start 4 4 with
    colors := [⟨.color, .rgba8, some ⟨0⟩⟩, .color .rgba8]
    depth := some (.depth .depth32f) }

/-- The texture that is given. -/
def withTexture : World (GlDevice GlRecorder) :=
  ((Texture.create ⟨4, 4, .rgba8, false, false⟩ none).run.run (.start .recording)).2

/-- What becomes of a size that does not suit the texture. -/
def tooLarge : Error :=
  Cause.error (FramebufferError.sizeMismatch .color ⟨4, 4, .rgba8, false, false⟩ 8 8)

/-- The same size again takes other textures. Another size does not suit the one that is given. -/
theorem consistent_after_resizes_four_by_four :
    Given withTexture.textures (fourByFour.colors ++ fourByFour.depthAttachment.toList) ∧
      ∃ r f h w₁, (create fourByFour).run.run withTexture = (.ok r, w₁) ∧
        Consistent fourByFour r f h w₁ ∧
        ∃ f' h' calls w₂, (resize r 4 4).run.run w₁ = (.ok (), w₂) ∧
          Consistent fourByFour r f' h' w₂ ∧ Replaced r 4 4 f f' h h' calls w₁ w₂ ∧
          ∃ w₃, (resize r 8 8).run.run w₂ = (.error (.error tooLarge), w₃) ∧ w₂.Restored w₃ := by
  have hgiven : Given withTexture.textures
      (fourByFour.colors ++ fourByFour.depthAttachment.toList) := by
    unfold Given
    decide +kernel
  have hcreate : ((create fourByFour).run.run withTexture).1.toOption = some ⟨0⟩ := by
    decide +kernel
  have hsame : ((resize ⟨0⟩ 4 4).run.run ((create fourByFour).run.run withTexture).2).1.isOk := by
    decide +kernel
  have hother : ((resize ⟨0⟩ 8 8).run.run ((resize ⟨0⟩ 4 4).run.run
      ((create fourByFour).run.run withTexture).2).2).1 = .error (.error tooLarge) := by
    decide +kernel
  have hclaim := consistent_after_resizes fourByFour withTexture hgiven
  -- from here on the world does not have to be looked into
  generalize withTexture = w at *
  refine ⟨hgiven, ?_⟩
  rcases hrun₁ : (create fourByFour).run.run w with ⟨e | r, w₁⟩
  · rw [hrun₁] at hcreate
    cases hcreate
  rw [hrun₁] at hcreate hsame hother
  obtain rfl : r = ⟨0⟩ := Option.some.inj hcreate
  have hreached := hclaim.2.of_ok hrun₁
  obtain ⟨f, h, hconsistent, hresize⟩ := hreached w₁ .refl
  rcases hrun₂ : (resize ⟨0⟩ 4 4).run.run w₁ with ⟨e | ⟨⟩, w₂⟩
  · rw [hrun₂] at hsame
    cases hsame
  rw [hrun₂] at hother
  obtain ⟨f', h', calls, hconsistent', hreplaced⟩ := (hresize 4 4).2.of_ok hrun₂
  obtain ⟨_, _, -, hresize'⟩ := hreached w₂ (.resize .refl hrun₂ (by simp))
  rcases hrun₃ : (resize ⟨0⟩ 8 8).run.run w₂ with ⟨outcome, w₃⟩
  rw [hrun₃] at hother
  obtain rfl : outcome = _ := hother
  exact ⟨_, f, h, w₁, rfl, hconsistent, f', h', calls, w₂, hrun₂, hconsistent', hreplaced, w₃,
    hrun₃, (hresize' 8 8).2.of_error hrun₃ (by rintro ⟨⟩)⟩

end Framebuffer

end RenderKit
