import RenderKit.Proofs.Ledger.Resources
import RenderKit.Target.Framebuffer

set_option autoImplicit false

/-! # Books of framebuffers

A framebuffer holds the textures it draws into. Its new textures and the framebuffer itself are in
the air until they have their cell, and in a change of size the old framebuffer is, once the new
one has taken its place. -/

namespace RenderKit

variable {σ : Type} [GraphicsDevice σ] {g : Guard σ} {ext : Multiset Node} {air : Body}
  {left : Multiset Native} {w : World σ} {E : World σ → Prop}

namespace Framebuffer

/-- The places of some textures. -/
def textureNodes (rs : List (Ref Texture)) : Multiset Node := ↑(rs.map Node.texture)

@[simp] theorem textureNodes_append (rs ss : List (Ref Texture)) :
    textureNodes (rs ++ ss) = textureNodes rs + textureNodes ss := by
  simp [textureNodes, ← Multiset.coe_add]

@[simp] theorem textureNodes_singleton (r : Ref Texture) : textureNodes [r] = {.texture r} := rfl

theorem nodes_targetGrips (colors : List (Ref Texture)) (depth : Option (Ref Texture)) :
    Multiset.map Grip.node (targetGrips colors depth) =
      textureNodes colors + textureNodes depth.toList := by
  have hcolors : (colors.zipIdx.map fun c => Node.texture c.1) = colors.map Node.texture := by
    conv_rhs => rw [← List.zipIdx_map_fst 0 colors, List.map_map]
    rfl
  rw [targetGrips, Multiset.map_add, Multiset.map_coe, Multiset.map_coe, List.map_map,
    List.map_map, textureNodes, ← hcolors]
  rfl

theorem runs_target {width height : UInt32} {a : Attachment} (hb : Owns g ext w) :
    Runs (target width height a) w
      (fun r w' => Owns g (.texture r ::ₘ ext) w' ∧ w'.framebuffers = w.framebuffers)
      (Owns g ext) := by
  unfold target
  split
  · exact Texture.runs_create hb
  · refine Runs.bind_same runs_view fun t hget => ?_
    refine Runs.reject_if (hb.noted _) fun _ => ?_
    refine Runs.bind (runs_hold hb fun _ => node_mem_of_get? hget) ?_
    rintro - _ ⟨rfl, hb'⟩
    exact Runs.pure ⟨hb', rfl⟩

theorem runs_targets {width height : UInt32} {done : List (Ref Texture)} {as : List Attachment}
    (hb : Owns g (textureNodes done + ext) w) :
    Runs (targets width height done as) w
      (fun rs w' => Owns g (textureNodes rs + ext) w' ∧ w'.framebuffers = w.framebuffers)
      (Owns g ext) := by
  induction as generalizing done w with
  | nil => exact Runs.pure ⟨hb, rfl⟩
  | cons a rest ih =>
      refine Runs.bind (runs_attempt (runs_target hb)) ?_
      rintro (e | r) w₁ hb₁
      · refine Runs.bind (Texture.runs_releaseAll hb₁) fun _ w₂ hb₂ => ?_
        exact runs_raise hb₂.1
      · have hnodes : textureNodes (done ++ [r]) + ext =
            Node.texture r ::ₘ (textureNodes done + ext) := by
          rw [textureNodes_append, textureNodes_singleton, ← Multiset.singleton_add]
          ac_rfl
        refine (ih (hnodes ▸ hb₁.1)).imp fun _ _ h => ⟨h.1, h.2.trans hb₁.2⟩

theorem runs_depthTarget {width height : UInt32} {colors : List (Ref Texture)}
    {a : Option Attachment} (hb : Owns g (textureNodes colors + ext) w) :
    Runs (depthTarget width height colors a) w
      (fun r w' => Owns g (textureNodes colors + textureNodes r.toList + ext) w' ∧
        w'.framebuffers = w.framebuffers ∧ (a = none → r = none))
      (Owns g ext) := by
  unfold depthTarget
  split
  · exact Runs.pure ⟨by simpa [textureNodes] using hb, rfl, fun _ => rfl⟩
  · refine Runs.bind (runs_attempt (runs_target hb)) ?_
    rintro (e | r) w₁ hb₁
    · refine Runs.bind (Texture.runs_releaseAll hb₁) fun _ w₂ hb₂ => ?_
      exact runs_raise hb₂.1
    · have hnodes : textureNodes colors + textureNodes [r] + ext =
          Node.texture r ::ₘ (textureNodes colors + ext) := by
        rw [textureNodes_singleton, ← Multiset.singleton_add]
        ac_rfl
      exact Runs.pure ⟨hnodes ▸ hb₁.1, hb₁.2, by simp⟩

/-- The objects behind some handles. -/
def HandlesOf (w : World σ) : List (Ref Texture) → List TextureHandle → Prop :=
  List.Forall₂ fun r h => ∃ t, w.textures.get? r = some t ∧ t.handle = h

omit [GraphicsDevice σ] in
theorem exists_of_mem_handles {rs : List (Ref Texture)} {hs : List TextureHandle}
    (hrs : HandlesOf w rs hs) {h : TextureHandle} (hh : h ∈ hs) :
    ∃ r ∈ rs, ∃ t, w.textures.get? r = some t ∧ t.handle = h := by
  induction hrs with
  | nil => cases hh
  | cons hr _ ih =>
      rcases List.mem_cons.mp hh with rfl | hh
      · exact ⟨_, List.mem_cons_self, hr⟩
      · obtain ⟨r, hmem, ht⟩ := ih hh
        exact ⟨r, List.mem_cons_of_mem _ hmem, ht⟩

omit [GraphicsDevice σ] in
theorem runs_handles {rs : List (Ref Texture)} :
    Runs (handles rs) w (fun hs w' => w' = w ∧ HandlesOf w rs hs) E := by
  induction rs with
  | nil => exact Runs.pure ⟨rfl, .nil⟩
  | cons r rest ih =>
      refine Runs.bind_same runs_view fun t hget => ?_
      refine Runs.bind ih ?_
      rintro hs _ ⟨rfl, hhs⟩
      exact Runs.pure ⟨rfl, .cons ⟨t, hget, rfl⟩ hhs⟩

omit [GraphicsDevice σ] in
/-- Handles stand at the places of their objects. -/
theorem exists_of_mem_zipIdx {rs : List (Ref Texture)} {hs : List TextureHandle}
    (hrs : HandlesOf w rs hs) {start place : Nat} {h : TextureHandle}
    (hh : (h, place) ∈ hs.zipIdx start) :
    ∃ r, (r, place) ∈ rs.zipIdx start ∧ ∃ t, w.textures.get? r = some t ∧ t.handle = h := by
  induction hrs generalizing start with
  | nil => cases hh
  | cons hr _ ih =>
      rw [List.zipIdx_cons] at hh ⊢
      rcases List.mem_cons.mp hh with heq | hh
      · cases heq
        exact ⟨_, List.mem_cons_self, hr⟩
      · obtain ⟨r, hmem, ht⟩ := ih hh
        exact ⟨r, List.mem_cons_of_mem _ hmem, ht⟩

section Bonds

variable {colors : List (Ref Texture)} {depth : Option (Ref Texture)}
  {colorHandles : List TextureHandle} {depthHandle : Option (TextureHandle × AttachmentPoint)}

omit [GraphicsDevice σ] in
/-- A new framebuffer holds textures it was made for, each in the role it was made for. -/
theorem exists_of_mem_targets (hcolors : HandlesOf w colors colorHandles)
    (hdepth : HandlesOf w depth.toList (depthHandle.toList.map (·.1))) {holder : Native} {b : Bond}
    (hb : b ∈ Request.targets holder colorHandles depthHandle) :
    b.holder = holder ∧ ∃ d ∈ w.cells, b.on ∈ d.body.natives ∧
      ⟨b.role, d.node⟩ ∈ targetGrips colors depth := by
  have hcell : ∀ {r : Ref Texture} {t : Texture}, w.textures.get? r = some t →
      ∃ d ∈ w.cells, t.handle.native ∈ d.body.natives ∧ d.node = .texture r := by
    intro r t hget
    obtain ⟨s, hslot, rfl⟩ := Pool.slot?_of_get? hget
    exact ⟨s.cell r, mem_cells_of_slot? hslot, by simp [Traced.body, Body.single], rfl⟩
  rcases List.mem_append.mp hb with hb | hb
  · obtain ⟨⟨h, place⟩, hh, rfl⟩ := List.mem_map.mp hb
    obtain ⟨r, hr, t, hget, rfl⟩ := exists_of_mem_zipIdx hcolors hh
    obtain ⟨d, hd, hon, hnode⟩ := hcell hget
    refine ⟨rfl, d, hd, hon, ?_⟩
    rw [hnode]
    exact Multiset.mem_add.mpr (.inl (Multiset.mem_coe.mpr (List.mem_map.mpr ⟨_, hr, rfl⟩)))
  · obtain ⟨h, hh, rfl⟩ := List.mem_map.mp hb
    obtain ⟨r, hr, t, hget, hhandle⟩ := exists_of_mem_handles hdepth (List.mem_map_of_mem hh)
    obtain ⟨d, hd, hon, hnode⟩ := hcell hget
    refine ⟨rfl, d, hd, hhandle ▸ hon, ?_⟩
    rw [hnode]
    exact Multiset.mem_add.mpr (.inr (Multiset.mem_coe.mpr (List.mem_map.mpr ⟨r, hr, rfl⟩)))

omit [GraphicsDevice σ] in
/-- Every texture a framebuffer was made for is held by it. -/
theorem bonded_targets (hcolors : HandlesOf w colors colorHandles)
    (hdepth : HandlesOf w depth.toList (depthHandle.toList.map (·.1))) (holder : Native) :
    (⟨{holder}, targetGrips colors depth⟩ : Body).Bonded
      (Request.targets holder colorHandles depthHandle) := by
  intro x hx grip hgrip
  obtain rfl := Multiset.mem_singleton.mp hx
  rcases Multiset.mem_add.mp hgrip with hgrip | hgrip
  · obtain ⟨⟨r, place⟩, hr, rfl⟩ := List.mem_map.mp hgrip
    have hplace : place < colorHandles.length := by
      rw [← hcolors.length_eq]
      simpa using List.snd_lt_of_mem_zipIdx hr
    have hmem : (colorHandles[place], place) ∈ colorHandles.zipIdx :=
      List.mk_mem_zipIdx_iff_getElem?.mpr (List.getElem?_eq_getElem hplace)
    exact ⟨_, List.mem_append_left _ (List.mem_map_of_mem hmem), rfl, rfl⟩
  · obtain ⟨r, hr, rfl⟩ := List.mem_map.mp hgrip
    obtain ⟨d, hd⟩ : ∃ d, d ∈ depthHandle.toList := by
      refine List.exists_mem_of_length_pos ?_
      have hlength := hdepth.length_eq
      rw [List.length_map] at hlength
      rw [← hlength]
      exact List.length_pos_of_mem hr
    exact ⟨_, List.mem_append_right _ (List.mem_map_of_mem hd), rfl, rfl⟩

end Bonds

/-- Ask for a framebuffer for some textures that are tokens. -/
theorem runs_ask_createFramebuffer {colors : List (Ref Texture)} {depth : Option (Ref Texture)}
    {colorHandles : List TextureHandle} {depthHandle : Option (TextureHandle × AttachmentPoint)}
    (hb : Owns g (textureNodes colors + textureNodes depth.toList + ext) w)
    (hcolors : HandlesOf w colors colorHandles)
    (hdepth : HandlesOf w depth.toList (depthHandle.toList.map (·.1))) :
    Runs (do settle (← ask (.createFramebuffer colorHandles depthHandle)) :
        Render σ FramebufferHandle) w
      (fun h w' => Bears g (textureNodes colors + textureNodes depth.toList + ext)
        ⟨{h.native}, targetGrips colors depth⟩ w' ∧ w'.framebuffers = w.framebuffers)
      (Owns g (textureNodes colors + textureNodes depth.toList + ext)) := by
  have hall : HandlesOf w (colors ++ depth.toList) (colorHandles ++ depthHandle.toList.map (·.1)) :=
    List.rel_append hcolors hdepth
  have hnamed : (Request.createFramebuffer colorHandles depthHandle).named =
      (colorHandles ++ depthHandle.toList.map (·.1)).map Handle.native := by
    simp [Request.named]
  have htexture : ∀ x ∈ (Request.createFramebuffer colorHandles depthHandle).named,
      ∃ r t, w.textures.get? r = some t ∧ t.handle.native = x := by
    intro x hx
    rw [hnamed] at hx
    obtain ⟨h, hh, rfl⟩ := List.mem_map.mp hx
    obtain ⟨r, -, t, hget, rfl⟩ := exists_of_mem_handles hall hh
    exact ⟨r, t, hget, rfl⟩
  have hlawful : ∀ reply, w.Fresh → Calls.LawfulAfter w.history
      ⟨.createFramebuffer colorHandles depthHandle, reply⟩ := by
    intro reply hfresh
    refine ⟨fun x hx => ?_, fun x hx => absurd hx List.not_mem_nil⟩
    obtain ⟨r, t, hget, rfl⟩ := htexture x hx
    exact Books.names hb hget (by simp [Traced.body, Body.single]) hfresh
  refine Runs.bind runs_ask ?_
  rintro (e | f) _ ⟨rfl, hreply⟩
  · refine runs_raise (Books.asked hb (g.allows_resource rfl) hreply (hlawful _) ?_ ?_)
    · intro _ hsound
      simpa [Request.issued, Request.deleted, Request.bondsAfter] using hsound
    · intro _ v _ hv
      simpa [Request.deleted] using hv
  · refine Runs.pure ⟨Books.asked hb (g.allows_resource rfl) hreply (hlawful _) ?_ ?_, rfl⟩
    · intro hnew hsound
      have haired : Multiset.map Grip.node (targetGrips colors depth) ≤
          g.tokens + (textureNodes colors + textureNodes depth.toList + ext) := by
        rw [nodes_targetGrips, add_left_comm]
        exact Multiset.le_add_right _ _
      have hissue := hsound.issue (hnew f.native (List.mem_singleton_self _)) haired
        (fun b hb => exists_of_mem_targets hcolors hdepth hb) (bonded_targets hcolors hdepth _)
      simpa [Request.issued, Request.deleted, Request.bondsAfter, Body.empty, add_comm w.live]
        using hissue
    · intro _ v _ hv
      simpa [Request.deleted] using hv

/-- What belongs to one size is in the air, and its textures are tokens. -/
def BearsTargets (g : Guard σ) (ext : Multiset Node) (made : Targets) (w : World σ) : Prop :=
  Bears g (textureNodes made.colors + textureNodes made.depth.toList + ext)
    ⟨{made.handle.native}, targetGrips made.colors made.depth⟩ w

theorem runs_createTargets {width height : UInt32} {colors : List Attachment}
    {depth : Option Attachment} (hb : Owns g ext w) :
    Runs (createTargets width height colors depth) w
      (fun made w' => BearsTargets g ext made w' ∧ w'.framebuffers = w.framebuffers)
      (Owns g ext) := by
  have hnone : Owns g (textureNodes [] + ext) w := by simpa [textureNodes] using hb
  refine Runs.bind (runs_targets hnone) fun colorTextures w₁ h₁ => ?_
  refine Runs.bind (runs_depthTarget h₁.1) fun depthTexture w₂ h₂ => ?_
  refine Runs.bind runs_handles ?_
  rintro colorHandles w₂ ⟨rfl, hcolors⟩
  extract_lets make
  have hmake : ∀ depthHandle : Option (TextureHandle × AttachmentPoint),
      HandlesOf w₂ depthTexture.toList (depthHandle.toList.map (·.1)) →
      Runs (make depthHandle) w₂
        (fun made w' => BearsTargets g ext made w' ∧ w'.framebuffers = w.framebuffers)
        (Owns g ext) := by
    intro depthHandle hdepths
    refine Runs.bind (runs_attempt (runs_ask_createFramebuffer h₂.1 hcolors hdepths)) ?_
    rintro (e | handle) w₃ h₃
    · -- the textures are released, those of the depth first
      have hb₃ : Owns g (textureNodes depthTexture.toList + (textureNodes colorTextures + ext))
          w₃ := by
        rw [← add_assoc, add_comm (textureNodes depthTexture.toList)]
        exact h₃
      refine Runs.bind (runs_releaseOption hb₃) fun _ w₄ hb₄ => ?_
      refine Runs.bind (Texture.runs_releaseAll hb₄) fun _ w₅ hb₅ => ?_
      exact runs_raise hb₅.1
    · exact Runs.pure ⟨h₃.1, h₃.2.trans (h₂.2.1.trans h₁.2)⟩
  split
  · rename_i a r
    refine Runs.bind runs_view ?_
    rintro t w₂ ⟨rfl, hget⟩
    exact hmake _ (.cons ⟨t, hget, rfl⟩ .nil)
  · rename_i hnot
    refine hmake none ?_
    rcases depthTexture with _ | r
    · exact .nil
    · rcases depth with _ | a
      · cases h₂.2.2 rfl
      · exact absurd rfl (hnot a r rfl)

/-- The books without the framebuffer itself and with the references it had. -/
theorem owns_of_buries_none {f : Framebuffer} (hf : f.handle = none)
    (hb : Buries g ext (Traced.body f) w) : Owns g ext w := by
  have hbody : Traced.body f = ⟨0, targetGrips f.colors f.depth⟩ := by simp [Traced.body, hf]
  rw [hbody] at hb
  exact hb.land

/-- A framebuffer that is in the air is deleted. -/
theorem runs_deleteFramebuffer {h : FramebufferHandle} {grips : Multiset Grip}
    (hb : Buries g ext ⟨{h.native}, grips⟩ w) :
    Runs (ask (.deleteFramebuffer h)) w (fun _ => Owns g ext) E := by
  have hb : Books g ext ⟨h.native ::ₘ 0, grips⟩ {h.native} w := hb
  refine (runs_ask_delete hb rfl rfl (g.allows_resource rfl)).imp ?_
  rintro - w' ⟨-, hb'⟩
  exact Books.land (by simpa using hb')

/-- What a framebuffer refers to, in the order in which it is given up. -/
theorem nodes_add_others (f : Framebuffer) :
    (Traced.body f).nodes + Traced.others f =
      textureNodes (f.colorAttachments.flatMap Attachment.owned) +
        (textureNodes (f.depthAttachment.toList.flatMap Attachment.owned) +
          (textureNodes f.colors + textureNodes f.depth.toList)) := by
  have hothers : Traced.others f = textureNodes f.givenRefs := rfl
  have hbody : (Traced.body f).nodes = textureNodes f.colors + textureNodes f.depth.toList :=
    nodes_targetGrips _ _
  rw [hothers, hbody, givenRefs, textureNodes_append]
  ac_rfl

instance : Interred Framebuffer where
  runs_discard {σ _ g ext w E f} hb := by
    have hreleases : ∀ w', Owns g ((Traced.body f).nodes + Traced.others f + ext) w' →
        Runs (do
          releaseAll (f.colorAttachments.flatMap Attachment.owned)
          releaseAll (f.depthAttachment.toList.flatMap Attachment.owned)
          releaseAll f.colors
          releaseOption f.depth : Render σ Unit) w' (fun _ => Owns g ext) E := by
      intro w' hb'
      rw [nodes_add_others, add_assoc, add_assoc, add_assoc] at hb'
      refine Runs.bind (runs_releaseAll hb') fun _ _ hb₁ => ?_
      refine Runs.bind (runs_releaseAll hb₁) fun _ _ hb₂ => ?_
      refine Runs.bind (runs_releaseAll hb₂) fun _ _ hb₃ => ?_
      exact runs_releaseOption hb₃
    show Runs (match f.handle with
      | some h => _
      | none => _) w _ _
    split
    · rename_i h hhandle
      have hbody : Traced.body f = ⟨{h.native}, targetGrips f.colors f.depth⟩ := by
        simp [Traced.body, hhandle]
      have hb : Buries g ((Traced.body f).nodes + Traced.others f + ext)
          ⟨{h.native}, targetGrips f.colors f.depth⟩ w := hbody ▸ hb
      exact Runs.bind (runs_deleteFramebuffer hb) fun _ w' hb' => hreleases w' hb'
    · rename_i hhandle
      exact hreleases w (owns_of_buries_none hhandle hb)

theorem runs_defaultTarget {width height : UInt32} (hb : Owns g ext w) :
    Runs (defaultTarget width height) w (fun r => Owns g (.framebuffer r ::ₘ ext)) E := by
  have hb : Books g ext (Traced.body (α := Framebuffer) ⟨none, width, height, [], none, [], none⟩)
    0 w := hb
  refine (runs_share ext hb ?_ rfl).imp fun _ _ h => h.2.2
  rw [nodes_add_others]
  simp [textureNodes]

/-- The textures that attachments bring along have owners of their own. -/
theorem runs_create {p : FramebufferPlan} (hb : Owns g ext w)
    (hcolors : ∀ r ∈ p.colors.flatMap Attachment.owned, Node.texture r ∈ g.tokens + ext)
    (hdepth : ∀ r ∈ p.depthAttachment.toList.flatMap Attachment.owned,
      Node.texture r ∈ g.tokens + ext) :
    Runs (create p) w (fun r => Owns g (.framebuffer r ::ₘ ext)) (Owns g ext) := by
  unfold create
  extract_lets make check
  have hmake : Runs (make ()) w (fun r => Owns g (.framebuffer r ::ₘ ext)) (Owns g ext) := by
    refine Runs.bind (runs_createTargets hb) fun made w₁ h₁ => Runs.bind_note ?_
    refine Runs.bind (runs_holdAll (Books.noted h₁.1 _) fun r hr => ?_) fun _ w₂ h₂ => ?_
    · have hr := hcolors r hr
      simp only [Multiset.mem_add] at hr ⊢
      tauto
    refine Runs.bind (runs_holdAll h₂ fun r hr => ?_) fun _ w₃ h₃ => ?_
    · have hr := hdepth r hr
      simp only [Multiset.mem_add] at hr ⊢
      tauto
    refine (runs_share ext h₃ ?_ rfl).imp fun _ _ h => h.2.2
    rw [nodes_add_others]
    show textureNodes _ + (textureNodes _ + _) = _
    ac_rfl
  exact Runs.reject_if (Books.noted hb _) fun _ =>
    Runs.bind_get (Runs.reject_if (Books.noted hb _) fun _ => hmake)

theorem runs_bind {r : Ref Framebuffer} (hb : Owns g ext w) (hallows : ∀ r, g.allows r) :
    Runs (bind r) w
      (fun _ w' =>
        (∃ f, w.framebuffers.get? r = some f ∧
          w' = (w.asked (.bindFramebuffer f.handle)).asked
            (.setViewport (.whole f.width f.height))) ∧ Owns g ext w') E := by
  refine Runs.bind_same runs_view fun f hget => ?_
  have hnamed : w.Fresh → ∀ x ∈ (Request.bindFramebuffer f.handle).named, x ∈ w.live :=
    fun hfresh x hx => Books.names hb hget hx hfresh
  refine Runs.bind (runs_ask_plain hb rfl (hallows _) hnamed) ?_
  rintro - _ ⟨rfl, hb₁⟩
  exact (runs_ask_plain hb₁ rfl (hallows _) (by simp [Request.named])).imp
    fun _ _ h => ⟨⟨f, hget, h.1⟩, h.2⟩

theorem runs_unbind (hb : Owns g ext w) (hallows : ∀ r, g.allows r) :
    Runs unbind w (fun _ w' => w' = w.asked (.bindFramebuffer none) ∧ Owns g ext w') E :=
  runs_ask_plain hb rfl (hallows _) (by simp [Request.named])

/-- The framebuffer in the air takes the place of the one in a cell that nobody watches. -/
theorem owns_swap {r : Ref Framebuffer} {f : Framebuffer} (change : Framebuffer → Framebuffer)
    (hb : Bears g ((Traced.body (change f)).nodes + ext) (Traced.body (change f)) w)
    (hget : (Pooled.pool w).get? r = some f)
    (hothers : Traced.others (change f) = Traced.others f)
    (hwatched : ∀ v ∈ g.watched, v.node ≠ .framebuffer r) :
    Buries g ((Traced.body f).nodes + ext) (Traced.body f) (w.altered r change) := by
  obtain ⟨s, hslot, rfl⟩ := Pool.slot?_of_get? hget
  obtain ⟨rest, hcells, haltered⟩ := cells_altered change hslot
  refine hb.setPool (by simp [Pool.update]) (fun _ hsound => ?_) (fun _ v hv _ hstays => ?_)
    fun _ x hx => ?_
  · rw [← World.altered, haltered]
    have hlinks : Node.framebuffer r ∉ Heap.links w.cells := by
      intro hmem
      obtain ⟨c, hc, hn⟩ := Multiset.mem_bind.mp hmem
      exact absurd (World.isLeaf_of_mem_links c hc _ hn) (by simp [Node.isLeaf])
    have hair : Node.framebuffer r ∉ (Traced.body (change s.value)).nodes := by
      intro hmem
      obtain ⟨grip, hgrip, hnode⟩ := Multiset.mem_map.mp hmem
      obtain ⟨t, -, htexture⟩ := mem_targetGrips hgrip
      rw [hnode] at htexture
      cases htexture
    rw [hcells] at hsound hlinks
    rw [add_left_comm] at hsound
    have hswap := hsound.swap hlinks hair
    rw [add_left_comm]
    simpa [Slot.cell, Traced.recalls, hothers] using hswap
  · rw [← World.altered, haltered]
    rw [hcells] at hstays
    exact Watch.replaceOther hstays rfl (hwatched v hv)
  · rw [← World.altered, haltered] at hx
    rw [hcells]
    exact .inl (by simpa [Traced.recalls] using hx)

theorem runs_resize_unwatched {r : Ref Framebuffer} {width height : UInt32} (hb : Owns g ext w)
    (hwatched : ∀ v ∈ g.watched, v.node ≠ .framebuffer r) :
    Runs (resize r width height) w (fun _ => Owns g ext) (Owns g ext) := by
  unfold resize
  refine Runs.reject_if (Books.noted hb _) fun _ => ?_
  refine Runs.bind_same runs_view fun f hget => ?_
  split
  · rename_i hhandle
    exact (runs_alter hb hget rfl rfl fun _ _ h => .inl h).imp fun _ _ h => h.2
  · rename_i old hhandle
    refine Runs.bind (runs_createTargets hb) fun made w₁ h₁ => ?_
    have hget₁ : (Pooled.pool w₁).get? r = some f := by
      rw [← hget]
      exact congrArg (Pool.get? · r) h₁.2
    refine Runs.bind runs_altered ?_
    rintro - w₂ rfl
    -- the new targets change places with the old ones, which are in the air from then on
    have hnew : Bears g
        (Multiset.map Grip.node (targetGrips made.colors made.depth) + ext)
        ⟨{made.handle.native}, targetGrips made.colors made.depth⟩ w₁ := by
      rw [nodes_targetGrips]
      exact h₁.1
    have hold : Traced.body f = ⟨{old.native}, targetGrips f.colors f.depth⟩ := by
      simp [Traced.body, hhandle]
    have hburies := owns_swap (fun f =>
      { f with
        handle := some made.handle
        width := width
        height := height
        colors := made.colors
        depth := made.depth }) hnew hget₁ rfl hwatched
    rw [hold] at hburies
    refine Runs.bind (runs_deleteFramebuffer hburies) fun _ w₃ hb₃ => ?_
    have hrefs : Owns g (textureNodes f.colors + (textureNodes f.depth.toList + ext)) w₃ := by
      rw [← add_assoc, ← nodes_targetGrips]
      exact hb₃
    refine Runs.bind (runs_releaseAll hrefs) fun _ w₄ hb₄ => ?_
    exact runs_releaseOption hb₄

/-- Once the books are good for nothing, it does not matter what is watched. -/
theorem runs_resize {r : Ref Framebuffer} {width height : UInt32} (hb : Owns g ext w)
    (hwatched : w.Fresh → ∀ v ∈ g.watched, v.node ≠ .framebuffer r) :
    Runs (resize r width height) w (fun _ => Owns g ext) (Owns g ext) := by
  by_cases hfresh : w.Fresh
  · exact runs_resize_unwatched hb (hwatched hfresh)
  · exact (runs_resize_unwatched (hb.stale hfresh) (by simp [Guard.stale])).mono
      (fun _ _ h => h.unstale) fun _ h => h.unstale

end Framebuffer

namespace Attachment

theorem runs_accepted {a : Attachment} (hb : Owns g ext w)
    (ha : ∀ r ∈ a.owned, Node.texture r ∈ g.tokens + ext) :
    Runs (accepted a) w
      (fun a' w' => a' = a ∧ Owns g (↑(a.owned.map Node.texture) + ext) w') (Owns g ext) := by
  unfold accepted
  split
  · exact Runs.bind_reject (Books.noted hb _)
  · exact Runs.bind (runs_holdAll hb ha) fun _ _ hb' => Runs.pure ⟨rfl, hb'⟩

theorem runs_discard {a : Attachment} (hb : Owns g (↑(a.owned.map Node.texture) + ext) w) :
    Runs a.discard w (fun _ => Owns g ext) E :=
  runs_releaseAll hb

end Attachment

end RenderKit
