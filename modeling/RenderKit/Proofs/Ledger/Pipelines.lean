import RenderKit.Pipeline.Pipeline
import RenderKit.Proofs.Ledger.Programs

set_option autoImplicit false

/-! # Books of pipelines

A vertex array holds the buffers that are attached to it, each in a role of its own. Whoever takes
the place of an attached buffer is held before that one is given up. -/

namespace RenderKit.Pipeline

variable {σ : Type} [GraphicsDevice σ] {g : Guard σ} {ext : Multiset Node} {w : World σ}
  {E : World σ → Prop}

/-- The places of a buffer that may be missing. -/
def bufferNodes (b : Option (Ref Buffer)) : Multiset Node := ↑(b.toList.map Node.buffer)

theorem nodes_bufferGrips (role : Role) (b : Option (Ref Buffer)) :
    Multiset.map Grip.node (bufferGrips role b) = bufferNodes b := by
  cases b <;> rfl

/-- A request that attaches a buffer to a vertex array in a role. -/
structure Attaches (r : Request) (role : Role) (array buffer : Native) : Prop where
  resource : r.isResource
  named : r.named = [array, buffer]
  deleted : r.deleted = []
  issued : ∀ reply, r.issued reply = []
  bonds : ∀ bonds reply, r.bondsAfter bonds reply = Request.rebond bonds array role buffer

/-- A change of a pipeline that puts a buffer into a role in place of an old one. -/
structure Replaces (change : Pipeline → Pipeline) (p : Pipeline) (role : Role)
    (buffer : Ref Buffer) (old : Option (Ref Buffer)) : Prop where
  array : (change p).array = p.array
  program : (change p).program = p.program
  mem : ⟨role, .buffer buffer⟩ ∈ (Traced.body (change p)).grips
  grips : bufferGrips role old + (Traced.body (change p)).grips =
    ⟨role, .buffer buffer⟩ ::ₘ (Traced.body p).grips

section Attached

variable {r : Request} {role : Role} {buffer : Ref Buffer} {b : Buffer} {pipeline : Ref Pipeline}
  {p : Pipeline} {old : Option (Ref Buffer)} {change : Pipeline → Pipeline} {reply : r.Reply}

theorem log_attached (hb : Owns g ext w) (hbuffer : (Pooled.pool w).get? buffer = some b)
    (hpipeline : (Pooled.pool w).get? pipeline = some p)
    (hr : Attaches r role p.array.native b.handle.native)
    (hreply : (GraphicsDevice.perform r w.device).reply = some reply) : Log g (w.asked r) := by
  refine hb.toLog.asked (g.allows_resource hr.resource) hreply fun hfresh => ⟨?_, ?_⟩
  · intro x hx
    have hx : x = p.array.native ∨ x = b.handle.native := by simpa [hr.named] using hx
    rcases hx with rfl | rfl
    · exact Books.names hb hpipeline (by simp [Traced.body]) hfresh
    · exact Books.names hb hbuffer (by simp [Traced.body, Body.single]) hfresh
  · intro x hx
    simp [Call.deleted, hr.deleted] at hx

theorem live_attached (hr : Attaches r role p.array.native b.handle.native)
    (hreply : (GraphicsDevice.perform r w.device).reply = some reply) :
    (w.asked r).live = w.live := by
  rw [World.live, history_asked hreply, Calls.live_concat]
  simp [Call.issued, Call.deleted, hr.issued, hr.deleted, World.live]

theorem bonds_attached (hr : Attaches r role p.array.native b.handle.native)
    (hreply : (GraphicsDevice.perform r w.device).reply = some reply) :
    (w.asked r).bonds = Request.rebond w.bonds p.array.native role b.handle.native := by
  rw [World.bonds, history_asked hreply, Calls.bonds_concat, hr.bonds]
  rfl

section Cells

variable {s : Slot Buffer} {t : Slot Pipeline}

/-- The buffer gets one more owner, and then the pipeline another body. -/
theorem exists_cells_attached (hs : (Pooled.pool w).slot? buffer = some s)
    (ht : (Pooled.pool w).slot? pipeline = some t)
    (hchange : Replaces change t.value role buffer old) :
    ∃ rest rest' : Heap, w.cells = s.cell buffer ::ₘ rest ∧
      { s.cell buffer with owners := s.owners + 1 } ::ₘ rest = t.cell pipeline ::ₘ rest' ∧
      (((w.asked r).held buffer).altered pipeline change).cells =
        { t.cell pipeline with body := Traced.body (change t.value) } ::ₘ rest' := by
  obtain ⟨rest, hcells, hheld⟩ := cells_held (w := w.asked r) hs
  obtain ⟨rest', hcells', haltered⟩ := cells_altered (w := (w.asked r).held buffer) change ht
  refine ⟨rest, rest', hcells, hheld.symm.trans hcells', haltered.trans ?_⟩
  simp [Slot.cell, Traced.others, Traced.recalls, hchange.program]

theorem sound_attached {tokens : Multiset Node} {live : Multiset Native} {bonds : List Bond}
    (hs : (Pooled.pool w).slot? buffer = some s) (ht : (Pooled.pool w).slot? pipeline = some t)
    (hchange : Replaces change t.value role buffer old)
    (hsound : Heap.Sound w.cells tokens .empty live bonds) :
    Heap.Sound (((w.asked r).held buffer).altered pipeline change).cells
      (bufferNodes old + tokens) .empty live
      (Request.rebond bonds t.value.array.native role s.value.handle.native) := by
  obtain ⟨rest, rest', hcells, hheld, haltered⟩ := exists_cells_attached (r := r) hs ht hchange
  have hholding : Heap.Sound (t.cell pipeline ::ₘ rest') (.buffer buffer ::ₘ tokens)
      .empty live bonds := by
    rw [← hheld]
    exact Heap.Sound.hold (c := s.cell buffer) (hcells ▸ hsound)
  have hnatives : (Traced.body (change t.value)).natives = (Traced.body t.value).natives := by
    simp [Traced.body, hchange.array]
  rw [haltered, ← nodes_bufferGrips role]
  refine hholding.rebond rfl hnatives hchange.grips (fun grip hgrip => ?_) hchange.mem ?_
  · obtain ⟨_, -, rfl⟩ := List.mem_map.mp hgrip
    rfl
  · refine ⟨{ s.cell buffer with owners := s.owners + 1 }, ?_, ?_, rfl⟩
    · rw [← hheld]
      exact Multiset.mem_cons_self _ _
    · simp [Traced.body, Body.single]

/-- An attachment neither makes nor deletes what is watched. -/
theorem watched_attached {v : Watch} {deleted : List Native}
    (hs : (Pooled.pool w).slot? buffer = some s) (ht : (Pooled.pool w).slot? pipeline = some t)
    (hchange : Replaces change t.value role buffer old)
    (hv : v.Stays w.cells deleted ∨ v.Gone w.cells deleted 0) :
    v.Stays (((w.asked r).held buffer).altered pipeline change).cells deleted ∨
      v.Gone (((w.asked r).held buffer).altered pipeline change).cells deleted 0 := by
  obtain ⟨rest, rest', hcells, hheld, haltered⟩ := exists_cells_attached (r := r) hs ht hchange
  have hheld : v.Stays (t.cell pipeline ::ₘ rest') deleted ∨
      v.Gone (t.cell pipeline ::ₘ rest') deleted 0 := by
    rw [← hheld]
    rw [hcells] at hv
    exact Watch.replace hv rfl rfl rfl
  rw [haltered]
  refine Watch.replace hheld rfl ?_ rfl
  simp [Traced.body, hchange.array]

/-- Neither the owners of the buffer nor the pipeline have to do with what is remembered. -/
theorem recalls_attached (hs : (Pooled.pool w).slot? buffer = some s)
    (ht : (Pooled.pool w).slot? pipeline = some t)
    (hchange : Replaces change t.value role buffer old) :
    (((w.asked r).held buffer).altered pipeline change).cells.recalls = w.cells.recalls := by
  obtain ⟨rest, rest', hcells, hheld, haltered⟩ := exists_cells_attached (r := r) hs ht hchange
  have hrecalls := congrArg Heap.recalls hheld
  rw [haltered, hcells]
  simp only [Heap.recalls_cons, Slot.recalls_cell] at hrecalls ⊢
  exact hrecalls.symm

end Cells

theorem owns_attached (hb : Owns g ext w) (hbuffer : (Pooled.pool w).get? buffer = some b)
    (hpipeline : (Pooled.pool w).get? pipeline = some p)
    (hr : Attaches r role p.array.native b.handle.native)
    (hchange : Replaces change p role buffer old)
    (hreply : (GraphicsDevice.perform r w.device).reply = some reply) :
    Owns g (bufferNodes old + ext) (((w.asked r).held buffer).altered pipeline change) := by
  have hlog := log_attached hb hbuffer hpipeline hr hreply
  have hlive := live_attached hr hreply
  have hbonds := bonds_attached hr hreply
  obtain ⟨s, hs, rfl⟩ := Pool.slot?_of_get? hbuffer
  obtain ⟨t, ht, rfl⟩ := Pool.slot?_of_get? hpipeline
  have hhistory : (((w.asked r).held buffer).altered pipeline change).history =
      (w.asked r).history := by
    rw [World.altered, World.held, history_setPool, history_setPool]
  have hfresh' : (((w.asked r).held buffer).altered pipeline change).Fresh → (w.asked r).Fresh :=
    fun hfresh => by rwa [World.Fresh, hhistory] at hfresh
  refine ⟨(hlog.setPool _).setPool _, fun hfresh => ?_, fun hfresh v hv => ?_,
    fun hfresh x hx => ?_⟩
  · have hsound := hb.sound (fresh_asked hreply (hfresh' hfresh)).1
    rw [World.live, World.bonds, hhistory, ← World.live, ← World.bonds, hlive, hbonds,
      add_left_comm]
    exact sound_attached hs ht hchange hsound
  · obtain ⟨hused, hwatch⟩ := hb.watched (fresh_asked hreply (hfresh' hfresh)).1 v hv
    have hdeleted : g.deleted (((w.asked r).held buffer).altered pipeline change) =
        g.deleted w := by
      rw [Guard.deleted, hhistory, ← Guard.deleted, deleted_asked hb.base, hr.deleted,
        List.append_nil]
    refine ⟨?_, ?_⟩
    · refine Housed.used_setPool _ _ _ (by simp [Pool.update]) ?_
      exact Housed.used_setPool (w.asked r) _ _ (by simp [Pool.retain]) hused
    · rw [hdeleted]
      exact watched_attached hs ht hchange hwatch
  · rw [recalls_attached hs ht hchange] at hx
    rw [World.altered, Housed.device_setPool, World.held, Housed.device_setPool]
    refine hb.believes_asked hreply (hfresh' hfresh) (fun y hy => ?_) x hx
    rw [hlive, (hb.sound (fresh_asked hreply (hfresh' hfresh)).1).balance]
    exact Multiset.mem_add.mpr (.inl hy)

/-- Attach a buffer, own it and give up the one in its place. -/
theorem runs_attach (hb : Owns g ext w) (hbuffer : (Pooled.pool w).get? buffer = some b)
    (hpipeline : (Pooled.pool w).get? pipeline = some p)
    (hr : Attaches r role p.array.native b.handle.native)
    (hchange : Replaces change p role buffer old) :
    Runs (do
      let _ ← ask r
      hold buffer
      alter pipeline change
      releaseOption old : Render σ Unit) w (fun _ => Owns g ext) (Owns g ext) := by
  refine Runs.bind runs_ask ?_
  rintro reply w₁ ⟨rfl, hreply⟩
  refine Runs.bind_modify (Runs.bind_modify ?_)
  exact runs_releaseOption (owns_attached hb hbuffer hpipeline hr hchange hreply)

end Attached

theorem attaches_vertexBuffer (array : VertexArrayHandle) (buffer : BufferHandle)
    (layout : VertexLayout) :
    Attaches (.attachVertexBuffer array buffer layout) .vertices array.native buffer.native :=
  ⟨rfl, rfl, rfl, fun _ => rfl, fun _ _ => rfl⟩

theorem attaches_indexBuffer (array : VertexArrayHandle) (buffer : BufferHandle) :
    Attaches (.attachIndexBuffer array buffer) .indices array.native buffer.native :=
  ⟨rfl, rfl, rfl, fun _ => rfl, fun _ _ => rfl⟩

theorem replaces_vertexBuffer (p : Pipeline) (buffer : Ref Buffer) :
    Replaces (fun p => { p with vertexBuffer := some buffer }) p .vertices buffer
      p.vertexBuffer := by
  refine ⟨rfl, rfl, ?_, ?_⟩
  · simp [Traced.body, bufferGrips]
  · simp only [Traced.body, bufferGrips, Option.toList_some, List.map_cons, List.map_nil]
    rw [add_left_comm]
    rfl

theorem replaces_indexBuffer (p : Pipeline) (buffer : Ref Buffer) :
    Replaces (fun p => { p with indexBuffer := some buffer }) p .indices buffer
      p.indexBuffer := by
  refine ⟨rfl, rfl, ?_, ?_⟩
  · simp [Traced.body, bufferGrips]
  · simp only [Traced.body, bufferGrips, Option.toList_some, List.map_cons, List.map_nil]
    have hcons : ∀ (x : Grip) (old others : Multiset Grip),
        old + (others + ↑[x]) = x ::ₘ (others + old) := by
      intro x old others
      rw [← add_assoc, add_comm, add_comm old, ← Multiset.singleton_add]
      rfl
    exact hcons _ _ _

theorem runs_setVertexBuffer {r : Ref Pipeline} {buffer : Ref Buffer} (hb : Owns g ext w) :
    Runs (setVertexBuffer r buffer) w (fun _ => Owns g ext) (Owns g ext) := by
  refine Runs.bind_same runs_view fun b hbuffer => ?_
  refine Runs.reject_if (Books.noted hb _) fun _ => ?_
  refine Runs.bind_same runs_view fun p hpipeline => ?_
  exact runs_attach hb hbuffer hpipeline (attaches_vertexBuffer _ _ _)
    (replaces_vertexBuffer p buffer)

theorem runs_setIndexBuffer {r : Ref Pipeline} {buffer : Ref Buffer} (hb : Owns g ext w) :
    Runs (setIndexBuffer r buffer) w (fun _ => Owns g ext) (Owns g ext) := by
  refine Runs.bind_same runs_view fun b hbuffer => ?_
  refine Runs.reject_if (Books.noted hb _) fun _ => ?_
  refine Runs.bind_same runs_view fun p hpipeline => ?_
  exact runs_attach hb hbuffer hpipeline (attaches_indexBuffer _ _) (replaces_indexBuffer p buffer)

theorem runs_attachAll {r : Ref Pipeline} {plan : PipelinePlan} (hb : Owns g ext w) :
    Runs (attachAll r plan) w (fun _ => Owns g ext) (Owns g ext) := by
  unfold attachAll
  extract_lets attachIndices
  have hindices : ∀ w', Owns g ext w' →
      Runs (attachIndices ()) w' (fun _ => Owns g ext) (Owns g ext) := by
    intro w' hb'
    unfold attachIndices
    split
    · exact runs_setIndexBuffer hb'
    · exact Runs.pure hb'
  split
  · exact Runs.bind (runs_setVertexBuffer hb) fun _ => hindices
  · exact hindices w hb

/-! ## Pipelines -/

/-- What a pipeline refers to, in the order in which it is given up. -/
theorem nodes_add_others (p : Pipeline) :
    (Traced.body p).nodes + Traced.others p =
      .program p.program ::ₘ (bufferNodes p.vertexBuffer + bufferNodes p.indexBuffer) := by
  have hbody : (Traced.body p).nodes =
      bufferNodes p.vertexBuffer + bufferNodes p.indexBuffer := by
    rw [← nodes_bufferGrips .vertices, ← nodes_bufferGrips .indices, ← Multiset.map_add]
    rfl
  rw [hbody, ← Multiset.singleton_add, add_comm]
  rfl

instance : Interred Pipeline where
  runs_discard {σ _ g ext w E p} hb := by
    have hb : Books g ((Traced.body p).nodes + Traced.others p + ext)
        ⟨p.array.native ::ₘ 0, (Traced.body p).grips⟩ {p.array.native} w := hb
    refine Runs.bind (runs_ask_delete hb rfl rfl (g.allows_resource rfl)) ?_
    rintro - w₁ ⟨-, hb₁⟩
    have hb₁ : Owns g (.program p.program ::ₘ (bufferNodes p.vertexBuffer +
        (bufferNodes p.indexBuffer + ext))) w₁ := by
      rw [← add_assoc, ← Multiset.cons_add, ← nodes_add_others]
      exact Books.land (by simpa using hb₁)
    refine Runs.bind (runs_release hb₁) fun _ _ hb₂ => ?_
    refine Runs.bind (runs_releaseOption hb₂) fun _ _ hb₃ => ?_
    exact runs_releaseOption hb₃

theorem runs_create {plan : PipelinePlan} (hb : Owns g ext w)
    (hprogram : ∀ r ∈ plan.program, Node.program r ∈ g.tokens + ext) :
    Runs (create plan) w (fun r => Owns g (.pipeline r ::ₘ ext)) (Owns g ext) := by
  unfold create
  split
  · exact runs_reject (Books.noted hb _)
  · rename_i program hplan
    refine Runs.bind (runs_ask_create hb rfl (g.allows_resource rfl) (by simp [Request.named])) ?_
    rintro reply w₁ ⟨-, hb₁⟩
    refine Runs.bind_settle ?_ ?_
    · rintro array rfl
      refine Runs.bind (runs_hold hb₁ (Books.mem_nodes hb₁ (hprogram program hplan))) ?_
      rintro - w₂ ⟨-, hb₂⟩
      refine Runs.bind (runs_share ext hb₂ ?_ rfl) ?_
      · rw [nodes_add_others]
        simp [bufferNodes, Traced.node]
      · rintro r w₃ ⟨-, -, hb₃⟩
        refine Runs.bind (runs_attempt (runs_attachAll hb₃)) ?_
        rintro (e | _) w₄ hb₄
        · exact Runs.bind (runs_release hb₄) fun _ _ hb₅ => runs_raise hb₅
        · exact Runs.bind_note (Runs.pure (Books.noted hb₄ _))
    · rintro e rfl
      exact hb₁

theorem runs_bind {r : Ref Pipeline} (hb : Owns g ext w) (hallows : ∀ r, g.allows r) :
    Runs (bind r) w
      (fun _ w' =>
        (∃ p q, w.pipelines.get? r = some p ∧ w.programs.get? p.program = some q ∧
          w' = ((((w.asked (.useProgram (some q.handle))).asked
            (.bindVertexArray (some p.array))).asked (.applyRasterizer p.rasterizer)).asked
              (.applyDepthStencil p.depthStencil)).asked
                (.applyBlend p.blend (min p.attachments maxBlendAttachments.toUInt32))) ∧
          Owns g ext w') E := by
  refine Runs.bind_same runs_view fun p hget => ?_
  refine Runs.bind (Program.runs_bind hb hallows) ?_
  rintro - _ ⟨⟨q, hq, rfl⟩, hb₁⟩
  refine Runs.bind (runs_ask_plain hb₁ rfl (hallows _) (hb₁.names_single hget rfl)) ?_
  rintro - _ ⟨rfl, hb₂⟩
  refine Runs.bind (runs_ask_plain hb₂ rfl (hallows _) (by simp [Request.named])) ?_
  rintro - _ ⟨rfl, hb₃⟩
  refine Runs.bind (runs_ask_plain hb₃ rfl (hallows _) (by simp [Request.named])) ?_
  rintro - _ ⟨rfl, hb₄⟩
  exact (runs_ask_plain hb₄ rfl (hallows _) (by simp [Request.named])).imp
    fun _ _ h => ⟨⟨p, q, hget, hq, h.1⟩, h.2⟩

theorem runs_unbind (hb : Owns g ext w) (hallows : ∀ r, g.allows r) :
    Runs unbind w (fun _ => Owns g ext) E := by
  refine Runs.bind (runs_ask_plain hb rfl (hallows _) (by simp [Request.named])) ?_
  rintro - w₁ ⟨-, hb₁⟩
  exact Program.runs_unbind hb₁ hallows

end RenderKit.Pipeline
