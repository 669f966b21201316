import RenderKit.Proofs.Ledger.Making

set_option autoImplicit false

/-! # Books of the steps of a session

Every step keeps the books, whether it succeeds or fails: what was made under a name belongs to
the name, and what a name stood for before is given up. -/

namespace RenderKit.Session

variable {σ : Type} [InstrumentedDevice σ] {g : Guard σ} {theirs : List (Name × Object)}
  {extra : Multiset Node} {s : State σ} {name : Name} {o : Object} {E : State σ → Prop}

/-! ## Changing names -/

/-- A name stands for another object, and the books are kept for what it refers to. -/
theorem Kept.put (hs : Kept g theirs extra s) (hname : free theirs name) (ho : o.Ordered)
    {extra' : Multiset Node} {world : World σ}
    (howns : Owns g (extra' + refsOf theirs (put s.objects name o)) world) :
    Kept g theirs extra' { s with world := world, objects := Session.put s.objects name o } := by
  refine ⟨howns, fun e he => ?_, nodup_put hs.names, fun other given hgiven => ?_⟩
  · rcases mem_of_mem_put he with rfl | he
    · exact ho
    · exact hs.ordered e he
  · rw [lookup_put_of_ne (ne_of_free hname hgiven)]
    exact hs.theirs other given hgiven

/-- An object takes the place of one with the same references and maybe some more. -/
theorem Kept.put_of_lookup {old : Object} (hs : Kept g theirs 0 s) (hname : free theirs name)
    (h : s.objects.lookup name = some old) (ho : o.Ordered) {extra' : Multiset Node}
    (hrefs : old.refs = extra' + o.refs) :
    Kept g theirs extra' { s with objects := Session.put s.objects name o } := by
  have hext := refsOf_filter hname hs.names h
  refine hs.put hname ho (hs.owns.congr ?_)
  rw [refsOf_put_of_lookup hname h hext.symm, ← hext, hrefs, zero_add, add_assoc]

theorem runs_assign (hs : Kept g theirs o.refs s) (hname : free theirs name) (ho : o.Ordered) :
    Runs (assign name o) s (fun _ => Kept g theirs 0) (Kept g theirs 0) := by
  have howns := hs.owns.congr (refsOf_put (o := o) hname).symm
  refine Runs.bind_get (Runs.bind_modify ?_)
  rcases hold : s.objects.lookup name with _ | old
  all_goals
    rw [hold] at howns
    have hs' := hs.put hname ho howns
  · exact Runs.pure hs'
  · exact hs'.runs_use (runs_discard howns)

/-- A name is taken back, and what its object refers to has yet to be given up. -/
theorem Kept.drop (hs : Kept g theirs 0 s) (hname : free theirs name)
    (h : s.objects.lookup name = some o) :
    Kept g theirs o.refs { s with objects := s.objects.filter fun e => e.1 ≠ name } where
  owns := hs.owns_zero.congr (refsOf_filter hname hs.names h).symm
  ordered e he := hs.ordered e (List.mem_of_mem_filter he)
  names := hs.names.sublist (List.filter_sublist.map _)
  theirs other given hgiven :=
    (lookup_filter_of_ne (ne_of_free hname hgiven)).symm ▸ hs.theirs other given hgiven

/-- A task that makes another object of one that has a name. -/
theorem Kept.runs_exchange {α : Type} {t : Render σ α} {kind : α → Object} {answer : Answer}
    (hs : Kept g theirs 0 s) (hname : free theirs name) (h : s.objects.lookup name = some o)
    (ht : ∀ ext, refsOf theirs s.objects = o.refs + ext →
      Runs t s.world (fun a w => (kind a).Ordered ∧ Owns g ((kind a).refs + ext) w)
        (Owns g (o.refs + ext))) :
    Runs (do
      update name (kind (← inWorld t))
      return answer : Play σ Answer) s (fun _ => Kept g theirs 0) (Kept g theirs 0) := by
  have hext := (refsOf_filter hname hs.names h).symm
  have hrun : Runs (inWorld t) s
      (fun a s' => Kept g theirs 0 { s' with objects := Session.put s'.objects name (kind a) })
      (Kept g theirs 0) := by
    refine (runs_inWorld (ht _ hext)).mono ?_ ?_
    · rintro a s' ⟨hs', ho, howns⟩
      have hput := refsOf_put_of_lookup (o := kind a) hname h hext
      rw [hs']
      exact hs.put hname ho (howns.congr (by rw [hput, zero_add]))
    · rintro s' ⟨hs', howns⟩
      exact hs.of_world hs' (howns.congr (by rw [← hext, zero_add]))
  exact Runs.bind hrun fun a s' hs' => Runs.bind_modify (Runs.pure hs')

/-! ## Looking at objects -/

omit [InstrumentedDevice σ] in
theorem runs_handleOf {r : Option (Ref Buffer)} {w : World σ} {D : World σ → Prop} :
    Runs (handleOf r) w (fun _ w' => w' = w) D := by
  cases r with
  | none => exact Runs.pure rfl
  | some r => exact Runs.bind runs_view fun _ _ h => Runs.pure h.1

omit [InstrumentedDevice σ] in
theorem runs_textureHandleOf {r : Option (Ref Texture)} {w : World σ} {D : World σ → Prop} :
    Runs (textureHandleOf r) w (fun _ w' => w' = w) D := by
  cases r with
  | none => exact Runs.pure rfl
  | some r => exact Runs.bind runs_view fun _ _ h => Runs.pure h.1

theorem runs_info {w : World σ} {D : World σ → Prop} :
    Runs (info o) w (fun _ w' => w' = w) D := by
  cases o with
  | buffer r => exact Runs.bind runs_view fun _ _ h => Runs.pure h.1
  | texture r =>
      refine Runs.bind_same runs_view fun t _ => ?_
      split
      · exact Runs.pure rfl
      · exact runs_abort
  | sampler r => exact Runs.bind runs_view fun _ _ h => Runs.pure h.1
  | attachment a => exact Runs.bind runs_textureHandleOf fun _ _ h => Runs.pure h
  | framebuffer r =>
      refine Runs.bind_same runs_view fun f _ => ?_
      refine Runs.bind_same Framebuffer.runs_handles fun hs _ => ?_
      exact Runs.bind runs_textureHandleOf fun _ _ h => Runs.pure h
  | layout l => exact Runs.pure rfl
  | program r => exact Runs.bind runs_view fun _ _ h => Runs.pure h.1
  | pipeline r =>
      refine Runs.bind_same runs_view fun p _ => ?_
      refine Runs.bind_same runs_view fun program _ => ?_
      refine Runs.bind runs_handleOf ?_
      rintro vertices w rfl
      exact Runs.bind runs_handleOf fun _ _ h => Runs.pure h
  | pass p => exact Runs.bind runs_view fun _ _ h => Runs.pure h.1
  | mesh m =>
      refine Runs.bind_same runs_view fun vertices _ => ?_
      exact Runs.bind runs_handleOf fun _ _ h => Runs.pure h
  | material m => exact Runs.bind runs_view fun _ _ h => Runs.pure h.1
  | context c => exact Runs.bind_get (Runs.pure rfl)
  | commands c =>
      obtain ⟨validation, recording, pipeline, program, target⟩ := c
      rcases pipeline with _ | p
      · rcases target with _ | f
        · exact Runs.pure rfl
        · exact Runs.bind_pure (Runs.bind runs_view fun _ _ h => Runs.pure h.1)
      · refine Runs.bind_same runs_view fun p _ => ?_
        rcases target with _ | f
        · exact Runs.pure rfl
        · exact Runs.bind_pure (Runs.bind runs_view fun _ _ h => Runs.pure h.1)

omit [InstrumentedDevice σ] in
theorem runs_debugText (hE : E s) : Runs (debugText o) s (fun _ s' => s' = s) E := by
  have hview : ∀ {α : Type} [Pooled α] {r : Ref α} {f : α → String},
      Runs (do return f (← inWorld (view r)) : Play σ String) s (fun _ s' => s' = s) E :=
    Runs.bind (runs_look runs_view) fun _ _ h => Runs.pure h.1
  cases o with
  | buffer r | texture r | sampler r | framebuffer r | program r => exact hview
  | pipeline r =>
      refine Runs.bind_same (runs_look runs_view) fun p _ => ?_
      exact hview
  | material m => exact hview
  | context c => exact Runs.pure rfl
  | attachment _ | layout _ | pass _ | mesh _ | commands _ => exact runs_noObject hE

omit [InstrumentedDevice σ] in
theorem runs_getMaterial {m : Material} {query : MaterialQuery} :
    Runs (getMaterial m query) s (fun _ s' => s' = s) E := by
  cases query with
  | uniform name =>
      simp only [getMaterial]
      split
      · exact Runs.pure rfl
      · exact Runs.pure rfl
  | texture slot =>
      simp only [getMaterial]
      split
      · exact Runs.bind (runs_look runs_view) fun _ _ h => Runs.pure h.1
      · exact Runs.pure rfl
  | sampler slot =>
      simp only [getMaterial]
      split
      · exact Runs.bind (runs_look runs_view) fun _ _ h => Runs.pure h.1
      · exact Runs.pure rfl

/-! ## Using objects -/

theorem runs_bind {slot : UInt32} (hs : Kept g theirs 0 s) (hallows : ∀ r, g.allows r) :
    Runs (bind o slot) s (fun _ => Kept g theirs 0) (Kept g theirs 0) := by
  have howns := hs.owns_zero
  unfold Session.bind
  cases o with
  | buffer r => exact hs.runs_use (Buffer.runs_bind howns hallows)
  | texture r => exact hs.runs_use ((Texture.runs_bind howns hallows).imp fun _ _ h => h.2)
  | sampler r => exact hs.runs_use (Sampler.runs_bind howns fun _ _ => hallows _)
  | framebuffer r => exact hs.runs_use ((Framebuffer.runs_bind howns hallows).imp fun _ _ h => h.2)
  | program r => exact hs.runs_use ((Program.runs_bind howns hallows).imp fun _ _ h => h.2)
  | pipeline r => exact hs.runs_use ((Pipeline.runs_bind howns hallows).imp fun _ _ h => h.2)
  | attachment _ | layout _ | pass _ | mesh _ | material _ | context _ | commands _ =>
      exact runs_noObject hs

theorem runs_unbind {slot : UInt32} (hs : Kept g theirs 0 s) (hallows : ∀ r, g.allows r) :
    Runs (unbind o slot) s (fun _ => Kept g theirs 0) (Kept g theirs 0) := by
  have howns := hs.owns_zero
  unfold unbind
  cases o with
  | buffer r => exact hs.runs_use (Buffer.runs_unbind howns hallows)
  | texture r => exact hs.runs_use (Texture.runs_unbind howns hallows)
  | sampler r => exact hs.runs_use (Sampler.runs_unbind howns hallows)
  | framebuffer r =>
      exact hs.runs_use ((Framebuffer.runs_unbind howns hallows).imp fun _ _ h => h.2)
  | program r => exact hs.runs_use (Program.runs_unbind howns hallows)
  | pipeline r => exact hs.runs_use (Pipeline.runs_unbind howns hallows)
  | attachment _ | layout _ | pass _ | mesh _ | material _ | context _ | commands _ =>
      exact runs_noObject hs

/-- What an instruction does with any command buffer of the session. -/
def Commanded (g : Guard σ) (tokens : Multiset Node) (i : Instruction) : Prop :=
  ∀ (c : CommandBuffer) (ext : Multiset Node) (w : World σ),
    tokens = c.refs + ext → Owns g (c.refs + ext) w →
      Runs (i.perform c) w (fun c' => Owns g (c'.refs + ext)) (Owns g (c.refs + ext))

theorem runs_command {c : Command} (hs : Kept g theirs 0 s) (hallows : ∀ r, g.allows r) :
    Runs (command c) s (fun i s' => s' = s ∧ Commanded g (refsOf theirs s.objects) i)
      (Kept g theirs 0) := by
  have hsteady : ∀ r : Request, r.isSteady → g.allows r := fun r _ => hallows r
  cases c with
  | start =>
      exact Runs.pure ⟨rfl, fun _ _ _ _ hb =>
        (CommandBuffer.runs_start hb).imp fun _ _ h => h.2⟩
  | finish => exact Runs.pure ⟨rfl, fun _ _ _ _ hb => CommandBuffer.runs_finish hb hallows⟩
  | beginPass name =>
      refine Runs.bind_same (runs_passNamed hs) fun pass hpass => ?_
      refine Runs.pure ⟨rfl, fun c ext w htokens hb => CommandBuffer.runs_beginPass hb hallows ?_⟩
      rw [← htokens]
      exact hs.mem hpass (Multiset.mem_singleton_self _)
  | endPass => exact Runs.pure ⟨rfl, fun _ _ _ _ hb => CommandBuffer.runs_endPass hb hallows⟩
  | setPipeline name =>
      refine Runs.bind_same (runs_pipelineNamed hs) fun r hr => ?_
      refine Runs.pure ⟨rfl, fun c ext w htokens hb => CommandBuffer.runs_setPipeline hb hallows ?_⟩
      rw [← htokens]
      exact hs.mem hr (Multiset.mem_singleton_self _)
  | setViewport area =>
      exact Runs.pure ⟨rfl, fun _ _ _ _ hb =>
        (CommandBuffer.runs_setViewport hb hsteady).imp fun _ _ h => h.2⟩
  | setScissor area =>
      exact Runs.pure ⟨rfl, fun _ _ _ _ hb =>
        (CommandBuffer.runs_setScissor hb hsteady).imp fun _ _ h => h.2⟩
  | setUniform name value =>
      exact Runs.pure ⟨rfl, fun _ _ _ _ hb =>
        (CommandBuffer.runs_setUniform hb hsteady).imp fun _ _ h => h.2⟩
  | setTexture slot name =>
      refine Runs.bind_same (runs_textureNamed hs) fun r _ => ?_
      exact Runs.pure ⟨rfl, fun _ _ _ _ hb => CommandBuffer.runs_setTexture hb hallows⟩
  | setSampler slot name =>
      refine Runs.bind_same (runs_samplerNamed hs) fun r _ => ?_
      exact Runs.pure ⟨rfl, fun _ _ _ _ hb =>
        (CommandBuffer.runs_setSampler hb hsteady).imp fun _ _ h => h.2⟩
  | bindUniformBuffer binding name =>
      refine Runs.bind_same (runs_bufferNamed hs) fun r _ => ?_
      exact Runs.pure ⟨rfl, fun _ _ _ _ hb =>
        (CommandBuffer.runs_bindUniformBuffer hb hsteady).imp fun _ _ h => h.2⟩
  | setVertexBuffer name =>
      refine Runs.bind_same (runs_bufferNamed hs) fun r _ => ?_
      exact Runs.pure ⟨rfl, fun _ _ _ _ hb =>
        (CommandBuffer.runs_setVertexBuffer hb).imp fun _ _ h => h.2⟩
  | setIndexBuffer name =>
      refine Runs.bind_same (runs_bufferNamed hs) fun r _ => ?_
      exact Runs.pure ⟨rfl, fun _ _ _ _ hb =>
        (CommandBuffer.runs_setIndexBuffer hb).imp fun _ _ h => h.2⟩
  | draw count first =>
      exact Runs.pure ⟨rfl, fun _ _ _ _ hb =>
        (CommandBuffer.runs_draw hb hallows).imp fun _ _ h => h.2⟩
  | drawIndexed count first base =>
      exact Runs.pure ⟨rfl, fun _ _ _ _ hb =>
        (CommandBuffer.runs_drawIndexed hb hallows).imp fun _ _ h => h.2⟩
  | drawMesh name =>
      refine Runs.bind_same (runs_meshNamed hs) fun m _ => ?_
      exact Runs.pure ⟨rfl, fun _ _ _ _ hb =>
        (CommandBuffer.runs_drawMesh hb hallows).imp fun _ _ h => h.2⟩

theorem runs_setMaterial {setting : MaterialSetting} (hs : Kept g theirs 0 s)
    (hname : free theirs name) :
    Runs (setMaterial name setting) s (fun _ => Kept g theirs 0) (Kept g theirs 0) := by
  have howns := hs.owns_zero
  cases setting with
  | program part =>
      refine Runs.bind_same (runs_programNamed hs) fun r hr => ?_
      refine Runs.bind_same (runs_materialNamed hs) fun m hm => ?_
      refine hs.runs_exchange hname hm fun ext hext => ?_
      have hmem := hs.mem hr (Multiset.mem_singleton_self _)
      rw [hext] at hmem howns
      refine (Material.runs_setProgram howns hmem).imp ?_
      rintro m' w ⟨hordered, hb⟩
      exact ⟨hordered (hs.ordered_of_lookup hm), hb⟩
  | uniform key value =>
      refine Runs.bind_same (runs_materialNamed hs) fun m hm => ?_
      have hordered : m.Ordered := hs.ordered_of_lookup hm
      have hs' := hs.put_of_lookup (o := .material (m.setUniform key value)) hname hm hordered
        (zero_add _).symm
      exact Runs.bind_modify (Runs.pure hs')
  | texture slot part =>
      refine Runs.bind_same (runs_textureNamed hs) fun r hr => ?_
      refine Runs.bind_same (runs_materialNamed hs) fun m hm => ?_
      refine hs.runs_exchange hname hm fun ext hext => ?_
      have hmem := hs.mem hr (Multiset.mem_singleton_self _)
      rw [hext] at hmem howns
      exact Material.runs_setTexture (hs.ordered_of_lookup hm) howns hmem
  | sampler slot part =>
      refine Runs.bind_same (runs_samplerNamed hs) fun r hr => ?_
      refine Runs.bind_same (runs_materialNamed hs) fun m hm => ?_
      refine hs.runs_exchange hname hm fun ext hext => ?_
      have hmem := hs.mem hr (Multiset.mem_singleton_self _)
      rw [hext] at hmem howns
      exact Material.runs_setSampler (hs.ordered_of_lookup hm) howns hmem
  | removeTexture slot =>
      refine Runs.bind_same (runs_materialNamed hs) fun m hm => ?_
      have hordered := hs.ordered_of_lookup hm
      have hs' : Kept g theirs ↑((m.texture? slot).toList.map Traced.node) _ :=
        hs.put_of_lookup (o := .material (m.removeTexture slot).2) hname hm
          (Material.ordered_removeTexture hordered slot)
          (Material.refs_removeTexture hordered slot)
      refine Runs.bind_modify ?_
      rcases hremoved : m.texture? slot with _ | r
      all_goals rw [hremoved] at hs'
      · exact Runs.pure hs'
      · refine Runs.bind (runs_look runs_view) ?_
        rintro t s' ⟨rfl, -⟩
        have howns := hs'.owns.congr (Multiset.singleton_add _ _)
        exact Runs.bind (hs'.runs_use (runs_release howns)) fun _ _ h => Runs.pure h

/-! ## Steps -/

/-- Whether a step is left to the session by a guard. Steps that change an object have to be about
    a name of the session, and nobody else asks the device. -/
def Permits (g : Guard σ) (theirs : List (Name × Object)) : Step σ → Prop
  | .make name recipe => free theirs name ∧ recipe.Named
  | .drop name | .setMaterial name _ | .resize name .. => free theirs name
  | .command name _ => free theirs name ∧ ∀ r, g.allows r
  | .bind .. | .unbind .. | .apply _ => ∀ r, g.allows r
  | .applyState .. => ∀ r : Request, r.isSteady → g.allows r
  | .setUniform .. => ∀ location value, g.allows (.setUniform location value)
  | .adjust change => g.Tolerates change
  | .message m => g.Tolerates fun device => (InstrumentedDevice.deliver m device).2.2
  | .ask _ => False
  | _ => True

/-- The device is another one, and the guard has nothing against it. -/
theorem Kept.device (hs : Kept g theirs 0 s) {change : σ → σ} (hchange : g.Tolerates change)
    {journal : Journal} :
    Kept g theirs 0
      { s with world := { s.world with device := change s.world.device, journal := journal } } := by
  have hb := hs.owns
  refine hs.of_world rfl ?_
  exact ⟨⟨hb.base, hb.allowed, hchange.law _ _ hb.law, hb.lawful, hb.answered⟩, hb.sound,
    hb.watched, fun hfresh x hx => hchange.believes _ x (hb.believed hfresh x hx)⟩

/-- Who has an owner among the guard and one among the session has two. -/
theorem Kept.two_owners (hs : Kept g theirs 0 s) {r : Ref Framebuffer} (hname : free theirs name)
    (h : s.objects.lookup name = some (.framebuffer r)) (htoken : Node.framebuffer r ∈ g.tokens)
    (hfresh : s.world.Fresh) : 1 < s.world.framebuffers.owners r := by
  have hsound := hs.owns_zero.sound hfresh
  have hmem : Traced.node r ∈ refsOf theirs s.objects :=
    mem_refsOf hname (mem_of_lookup h) (Multiset.mem_singleton_self _)
  obtain ⟨slot, hslot⟩ := exists_slot_of_node_mem
    (hs.owns_zero.mem_nodes (Multiset.mem_add.mpr (.inr hmem)) hfresh)
  have htoken : 0 < g.tokens.count (Traced.node r) := Multiset.count_pos.mpr htoken
  have hrefs : 0 < (refsOf theirs s.objects).count (Traced.node r) := Multiset.count_pos.mpr hmem
  have hcount : slot.owners = _ := hsound.counted _ (mem_cells_of_slot? hslot)
  rw [Slot.node_cell, Multiset.count_add, Multiset.count_add] at hcount
  have hslot : s.world.framebuffers.slot? r = some slot := hslot
  have howners : s.world.framebuffers.owners r = slot.owners := by simp [Pool.owners, hslot]
  omega

/-- A request of the session that is about no object. -/
theorem Kept.runs_ask (hs : Kept g theirs 0 s) {r : Request} (hr : r.isPlain)
    (hnamed : r.named = [])
    (hallows : g.allows r) :
    Runs (inWorld (ask r)) s (fun _ => Kept g theirs 0) (Kept g theirs 0) := by
  have hask := runs_ask_plain (E := Owns g (refsOf theirs s.objects)) hs.owns_zero hr hallows
    (by simp [hnamed])
  exact hs.runs_use (hask.imp fun _ _ h => h.2)

theorem runs_applyState [Toolchain] [ImageCodec] {rasterizer : Option Rasterizer}
    {depthStencil : Option DepthStencil} {blend : Option (Blend × UInt32)} (hs : Kept g theirs 0 s)
    (hallows : ∀ r : Request, r.isSteady → g.allows r) :
    Runs (play (.applyState rasterizer depthStencil blend)) s (fun _ => Kept g theirs 0)
      (Kept g theirs 0) := by
  have hblend : ∀ s', Kept g theirs 0 s' →
      Runs (play (.applyState none none blend)) s' (fun _ => Kept g theirs 0)
        (Kept g theirs 0) := by
    intro s' hs'
    rcases blend with _ | ⟨b, count⟩
    · exact Runs.pure hs'
    · exact Runs.bind (hs'.runs_ask rfl rfl (hallows _ rfl)) fun _ _ h => Runs.pure h
  have hdepthStencil : ∀ s', Kept g theirs 0 s' →
      Runs (play (.applyState none depthStencil blend)) s' (fun _ => Kept g theirs 0)
        (Kept g theirs 0) := by
    intro s' hs'
    rcases depthStencil with _ | d
    · exact hblend s' hs'
    · exact Runs.bind (hs'.runs_ask rfl rfl (hallows _ rfl)) fun _ => hblend
  rcases rasterizer with _ | r
  · exact hdepthStencil s hs
  · exact Runs.bind (hs.runs_ask rfl rfl (hallows _ rfl)) fun _ => hdepthStencil

/-- A task in the world that leaves the books as they are, and its value is the answer. -/
theorem Kept.runs_answer {α : Type} {t : Render σ α} {answer : α → Answer}
    (hs : Kept g theirs extra s)
    (ht : Runs t s.world (fun _ => Owns g (refsOf theirs s.objects))
      (Owns g (refsOf theirs s.objects))) :
    Runs (do return answer (← inWorld t) : Play σ Answer) s (fun _ => Kept g theirs 0)
      (Kept g theirs 0) :=
  Runs.bind (hs.runs_use ht) fun _ _ h => Runs.pure h

/-- A step keeps the books, whether it succeeds or fails. A framebuffer that is watched has an
    owner among the guard. -/
theorem runs_play [Toolchain] [ImageCodec] {step : Step σ} (hs : Kept g theirs 0 s)
    (hstep : Permits g theirs step)
    (hwatched : ∀ v ∈ g.watched, ∀ r, v.node = .framebuffer r → v.node ∈ g.tokens) :
    Runs (play step) s (fun _ => Kept g theirs 0) (Kept g theirs 0) := by
  have hinfo : ∀ (o : Object) (s' : State σ), Kept g theirs 0 s' →
      Runs (do return .info (← inWorld (info o)) : Play σ Answer) s' (fun _ => Kept g theirs 0)
        (Kept g theirs 0) := by
    intro o s' hs'
    exact hs'.runs_answer (runs_info.imp fun _ w hw => hw ▸ hs'.owns_zero)
  cases step with
  | make name recipe =>
      refine Runs.bind (runs_make hs hstep.2) ?_
      rintro o s₁ ⟨-, ho, hs₁⟩
      refine Runs.bind (runs_assign hs₁ hstep.1 ho) fun _ s₂ hs₂ => ?_
      exact hinfo o s₂ hs₂
  | drop name =>
      refine Runs.bind_same (runs_object hs) fun o ho => ?_
      have hs₁ := hs.drop hstep ho
      exact Runs.bind_modify (hs₁.runs_answer (runs_discard hs₁.owns))
  | info name =>
      refine Runs.bind_same (runs_object hs) fun o _ => ?_
      exact hinfo o s hs
  | debug name =>
      refine Runs.bind_same (runs_object hs) fun o _ => ?_
      refine Runs.bind (runs_debugText hs) ?_
      rintro text s rfl
      exact Runs.pure hs
  | bind name slot =>
      refine Runs.bind_same (runs_object hs) fun o _ => ?_
      exact Runs.bind (runs_bind hs hstep) fun _ _ h => Runs.pure h
  | unbind name slot =>
      refine Runs.bind_same (runs_object hs) fun o _ => ?_
      exact Runs.bind (runs_unbind hs hstep) fun _ _ h => Runs.pure h
  | write name offset data =>
      refine Runs.bind_same (runs_bufferNamed hs) fun r _ => ?_
      exact hs.runs_answer (Buffer.runs_write hs.owns_zero)
  | read name offset length =>
      refine Runs.bind_same (runs_bufferNamed hs) fun r _ => ?_
      exact hs.runs_answer (Buffer.runs_read hs.owns_zero)
  | resize name width height =>
      refine Runs.bind_same (runs_framebufferNamed hs) fun r hr => ?_
      refine Runs.bind_get ?_
      split
      · exact Runs.bind (P := fun _ _ => False) (.inr hs) fun _ _ h => h.elim
      · rename_i howners
        have hresize : Runs (Framebuffer.resize r width height) s.world _ _ :=
          Framebuffer.runs_resize hs.owns_zero fun hfresh v hv hnode =>
            howners (hs.two_owners hstep hr (hnode ▸ hwatched v hv r hnode) hfresh)
        exact Runs.bind (hs.runs_use hresize) fun _ => hinfo (.framebuffer r)
  | uniformLocation name key =>
      refine Runs.bind_same (runs_programNamed hs) fun r _ => ?_
      exact hs.runs_answer (Program.runs_uniformLocation hs.owns_zero)
  | attributeLocation name key =>
      refine Runs.bind_same (runs_programNamed hs) fun r _ => ?_
      exact hs.runs_answer (Program.runs_attributeLocation hs.owns_zero)
  | reflection name stage key =>
      refine Runs.bind_same (runs_programNamed hs) fun r _ => ?_
      refine Runs.bind_same (runs_look runs_view) fun p _ => ?_
      exact Runs.pure hs
  | setUniform name key value =>
      refine Runs.bind_same (runs_programNamed hs) fun r _ => ?_
      exact hs.runs_answer (Program.runs_setUniform hs.owns_zero fun l => hstep l _)
  | setVertexBuffer name part =>
      refine Runs.bind_same (runs_bufferNamed hs) fun b _ => ?_
      refine Runs.bind_same (runs_pipelineNamed hs) fun r _ => ?_
      exact hs.runs_answer (Pipeline.runs_setVertexBuffer hs.owns_zero)
  | setIndexBuffer name part =>
      refine Runs.bind_same (runs_bufferNamed hs) fun b _ => ?_
      refine Runs.bind_same (runs_pipelineNamed hs) fun r _ => ?_
      exact hs.runs_answer (Pipeline.runs_setIndexBuffer hs.owns_zero)
  | attachMesh name part =>
      refine Runs.bind_same (runs_pipelineNamed hs) fun r _ => ?_
      refine Runs.bind_same (runs_meshNamed hs) fun m _ => ?_
      exact hs.runs_answer (Mesh.runs_attach hs.owns_zero)
  | apply name =>
      refine Runs.bind_same (runs_materialNamed hs) fun m _ => ?_
      exact hs.runs_answer (Material.runs_apply hs.owns_zero hstep)
  | getMaterial name query =>
      refine Runs.bind_same (runs_materialNamed hs) fun m _ => ?_
      exact runs_getMaterial.imp fun _ _ h => h ▸ hs
  | setMaterial name setting => exact runs_setMaterial hs hstep
  | command name c =>
      refine Runs.bind_same (runs_command hs hstep.2) fun i hi => ?_
      refine Runs.bind_same (runs_commandsNamed hs) fun buffer hbuffer => ?_
      refine hs.runs_exchange hstep.1 hbuffer fun ext hext => ?_
      refine (hi buffer ext s.world hext (hs.owns_zero.congr hext)).imp ?_
      exact fun _ _ h => ⟨trivial, h⟩
  | applyState rasterizer depthStencil blend => exact runs_applyState hs hstep
  | contextActive => exact Runs.bind_get (Runs.pure hs)
  | capabilities => exact Runs.bind_get (Runs.pure hs)
  | deviceDebug =>
      refine Runs.bind_get ?_
      split
      · exact Runs.pure hs
      · exact runs_noObject hs
  | adjust change => exact Runs.bind_modify (Runs.pure (hs.device hstep))
  | message m => exact Runs.bind_get (Runs.bind_set (Runs.pure (hs.device hstep)))
  | counts => exact Runs.bind_get (Runs.pure hs)
  | ask r => exact hstep.elim

end RenderKit.Session
