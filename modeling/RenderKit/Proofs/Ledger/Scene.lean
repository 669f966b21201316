import RenderKit.Context
import RenderKit.Proofs.Keys
import RenderKit.Proofs.Ledger.Pipelines
import RenderKit.Proofs.Ledger.Targets

set_option autoImplicit false

/-! # Books of meshes, materials, passes and command buffers

These stand for nothing on the device. They own what they refer to. -/

namespace RenderKit

variable {σ : Type} [GraphicsDevice σ] {g : Guard σ} {ext : Multiset Node} {w : World σ}
  {E : World σ → Prop}

/-! ## Meshes -/

namespace Mesh

open Pipeline (bufferNodes)

def refs (m : Mesh) : Multiset Node := .buffer m.vertexBuffer ::ₘ bufferNodes m.indexBuffer

theorem runs_create {plan : MeshPlan} (hb : Owns g ext w)
    (hvertices : ∀ r ∈ plan.vertexBuffer, Node.buffer r ∈ g.tokens + ext)
    (hindices : ∀ r ∈ plan.indexBuffer, Node.buffer r ∈ g.tokens + ext) :
    Runs (create plan) w (fun m => Owns g (m.refs + ext)) (Owns g ext) := by
  unfold create
  split
  · exact runs_reject (Books.noted hb _)
  · rename_i vertexBuffer hplan
    refine Runs.bind_same runs_view fun vertices _ => ?_
    extract_lets make check
    have hfinish : ∀ w₁ vertexCount indexCount, Owns g ext w₁ →
        Runs (do
          note .debug "cbox::mesh"
            ("Created mesh (" ++ toString (UInt32.toNat vertexCount) ++ " vertices, "
              ++ toString (UInt32.toNat indexCount) ++ " indices, " ++ nameOf plan.topology ++ ")")
          hold vertexBuffer
          holdAll plan.indexBuffer.toList
          return (⟨vertexBuffer, plan.indexBuffer, plan.layout, plan.topology, vertexCount,
            indexCount⟩ : Mesh) : Render σ Mesh) w₁ (fun m => Owns g (m.refs + ext))
          (Owns g ext) := by
      intro w₁ vertexCount indexCount hb₁
      have hvertex := Books.mem_nodes hb₁ (hvertices _ hplan)
      refine Runs.bind_note ?_
      refine Runs.bind (runs_hold (Books.noted hb₁ _) hvertex) ?_
      rintro - w₂ ⟨-, hb₂⟩
      refine Runs.bind (runs_holdAll hb₂ fun r hr => ?_) fun _ w₃ hb₃ => Runs.pure ?_
      · rw [Multiset.add_cons]
        exact Multiset.mem_cons_of_mem (hindices r (Option.mem_toList.mp hr))
      · rw [refs, Multiset.cons_add, ← Multiset.add_cons]
        exact hb₃
    have hmake : Runs (make ()) w (fun m => Owns g (m.refs + ext)) (Owns g ext) := by
      refine Runs.bind ((quiet_accept _).books hb) fun vertexCount w₁ hb₁ => ?_
      split
      · exact hfinish _ _ _ hb₁
      · refine Runs.bind runs_view ?_
        rintro indices w₁ ⟨rfl, -⟩
        refine Runs.reject_if (Books.noted hb₁ _) fun _ => ?_
        exact Runs.bind ((quiet_accept _).books hb₁) fun indexCount w₂ hb₂ => hfinish _ _ _ hb₂
    exact Runs.reject_if (Books.noted hb _) fun _ =>
      Runs.reject_if (Books.noted hb _) fun _ => hmake

theorem runs_attach {m : Mesh} {pipeline : Ref Pipeline} (hb : Owns g ext w) :
    Runs (m.attach pipeline) w (fun _ => Owns g ext) (Owns g ext) := by
  refine Runs.bind_same runs_view fun p _ => ?_
  refine Runs.reject_if (Books.noted hb _) fun _ => ?_
  refine Runs.bind (Pipeline.runs_setVertexBuffer hb) fun _ w₁ hb₁ => ?_
  split
  · exact Pipeline.runs_setIndexBuffer hb₁
  · exact Runs.pure hb₁

theorem runs_discard {m : Mesh} (hb : Owns g (m.refs + ext) w) :
    Runs m.discard w (fun _ => Owns g ext) E := by
  rw [refs, Multiset.cons_add] at hb
  exact Runs.bind (runs_release hb) fun _ _ hb₁ => runs_releaseOption hb₁

end Mesh

/-! ## Render passes -/

namespace RenderPass

def refs (p : RenderPass) : Multiset Node := {.framebuffer p.framebuffer}

theorem runs_create {framebuffer : Ref Framebuffer} {plan : PassPlan} (hb : Owns g ext w)
    (hframebuffer : Node.framebuffer framebuffer ∈ g.tokens + ext) :
    Runs (create framebuffer plan) w (fun p => Owns g (p.refs + ext)) (Owns g ext) := by
  unfold create
  split
  · exact runs_reject (Books.noted hb _)
  · refine Runs.bind (runs_hold hb (Books.mem_nodes hb hframebuffer)) ?_
    rintro - w₁ ⟨-, hb₁⟩
    exact Runs.pure hb₁

theorem runs_discard {p : RenderPass} (hb : Owns g (p.refs + ext) w) :
    Runs p.discard w (fun _ => Owns g ext) E :=
  runs_release hb

end RenderPass

/-! ## Materials -/

/-- The values of entries. -/
def slotNodes {α : Type} [Traced α] (entries : List (UInt32 × Ref α)) : Multiset Node :=
  ↑(entries.map fun e => Traced.node e.2)

/-- Entries in ascending order of their slots. -/
def Ascending {α : Type} (entries : List (UInt32 × α)) : Prop :=
  entries.Pairwise fun a b => a.1 < b.1

section Slots

variable {α : Type}

theorem mem_of_mem_putSlot {entries : List (UInt32 × α)} {slot : UInt32} {a : α}
    {e : UInt32 × α} (h : e ∈ putSlot entries slot a) : e = (slot, a) ∨ e ∈ entries := by
  induction entries with
  | nil => exact .inl (List.mem_singleton.mp h)
  | cons first rest ih =>
      unfold putSlot at h
      split at h
      · exact (List.mem_cons.mp h).imp_right (List.mem_cons_of_mem _)
      · split at h
        · exact List.mem_cons.mp h
        · rcases List.mem_cons.mp h with rfl | h
          · exact .inr List.mem_cons_self
          · exact (ih h).imp_right (List.mem_cons_of_mem _)

theorem ascending_putSlot {entries : List (UInt32 × α)} (h : Ascending entries) (slot : UInt32)
    (a : α) : Ascending (putSlot entries slot a) := by
  induction entries with
  | nil => exact List.pairwise_singleton _ _
  | cons first rest ih =>
      obtain ⟨hfirst, hrest⟩ := List.pairwise_cons.mp h
      unfold putSlot
      split
      · rename_i heq
        exact List.pairwise_cons.mpr ⟨fun e he => heq ▸ hfirst e he, hrest⟩
      · rename_i hne
        split
        · rename_i hlt
          refine List.pairwise_cons.mpr ⟨fun e he => ?_, h⟩
          rcases List.mem_cons.mp he with rfl | he
          · exact hlt
          · exact UInt32.lt_trans hlt (hfirst e he)
        · rename_i hge
          refine List.pairwise_cons.mpr ⟨fun e he => ?_, ih hrest⟩
          rcases mem_of_mem_putSlot he with rfl | he
          · exact UInt32.lt_of_le_of_ne (UInt32.not_lt.mp hge) hne
          · exact hfirst e he

/-- Nothing is found in a slot below all others. -/
theorem lookup_eq_none_of_lt {entries : List (UInt32 × α)} {slot : UInt32}
    (h : ∀ e ∈ entries, slot < e.1) : entries.lookup slot = none := by
  rw [List.lookup_eq_none_iff]
  intro e he
  have hlt := h e he
  have hne : slot ≠ e.1 := by
    rintro rfl
    exact UInt32.lt_irrefl _ hlt
  simpa using hne

/-- Who is put into a slot takes the place of the one found there. -/
theorem slotNodes_putSlot [Traced α] {entries : List (UInt32 × Ref α)} (h : Ascending entries)
    (slot : UInt32) (r : Ref α) :
    Traced.node r ::ₘ slotNodes entries =
      ↑((entries.lookup slot).toList.map Traced.node) + slotNodes (putSlot entries slot r) := by
  induction entries with
  | nil => simp [slotNodes, putSlot]
  | cons first rest ih =>
      obtain ⟨hfirst, hrest⟩ := List.pairwise_cons.mp h
      obtain ⟨key, old⟩ := first
      by_cases heq : key = slot
      · subst heq
        simp [slotNodes, putSlot, ← Multiset.cons_coe]
      · by_cases hlt : slot < key
        · have hnone : List.lookup slot ((key, old) :: rest) = none := by
            refine lookup_eq_none_of_lt fun e he => ?_
            rcases List.mem_cons.mp he with rfl | he
            · exact hlt
            · exact UInt32.lt_trans hlt (hfirst e he)
          rw [hnone]
          simp [slotNodes, putSlot, heq, hlt, ← Multiset.cons_coe]
        · have hlookup : List.lookup slot ((key, old) :: rest) = rest.lookup slot :=
            lookup_cons_of_ne (Ne.symm heq)
          have := congrArg (Multiset.cons (Traced.node old)) (ih hrest)
          rw [hlookup]
          simp only [slotNodes, putSlot, heq, hlt, if_false, List.map_cons, ← Multiset.cons_coe]
            at this ⊢
          rw [Multiset.cons_swap, this, Multiset.add_cons]

theorem ascending_filter {entries : List (UInt32 × α)} (h : Ascending entries)
    (p : UInt32 × α → Bool) : Ascending (entries.filter p) := List.Pairwise.filter p h

/-- Who is taken out of a slot is the one found there. -/
theorem slotNodes_filter [Traced α] {entries : List (UInt32 × Ref α)} (h : Ascending entries)
    (slot : UInt32) :
    slotNodes entries = ↑((entries.lookup slot).toList.map Traced.node) +
      slotNodes (entries.filter fun e => e.1 ≠ slot) := by
  induction entries with
  | nil => simp [slotNodes]
  | cons first rest ih =>
      obtain ⟨hfirst, hrest⟩ := List.pairwise_cons.mp h
      obtain ⟨key, old⟩ := first
      by_cases heq : key = slot
      · subst heq
        have hall : rest.filter (fun e => e.1 ≠ key) = rest := by
          refine List.filter_eq_self.mpr fun e he => ?_
          have hlt : key < e.1 := hfirst e he
          have hne : e.1 ≠ key := by
            rintro heq
            exact UInt32.lt_irrefl _ (heq ▸ hlt)
          simpa using hne
        rw [List.filter_cons_of_neg (by simp), hall]
        simp [slotNodes, ← Multiset.cons_coe]
      · have hlookup : List.lookup slot ((key, old) :: rest) = rest.lookup slot :=
          lookup_cons_of_ne (Ne.symm heq)
        have := congrArg (Multiset.cons (Traced.node old)) (ih hrest)
        rw [hlookup, List.filter_cons_of_pos (by simpa using heq)]
        simp only [slotNodes, List.map_cons, ← Multiset.cons_coe] at this ⊢
        rw [this, Multiset.add_cons]

end Slots

namespace Material

def refs (m : Material) : Multiset Node :=
  .program m.program ::ₘ (slotNodes m.textures + slotNodes m.samplers)

/-- The slots of a material are in order. -/
def Ordered (m : Material) : Prop := Ascending m.textures ∧ Ascending m.samplers

/-- What a plan refers to has owners already. -/
def Available (plan : MaterialPlan) (tokens : Multiset Node) : Prop :=
  (∀ r ∈ plan.program, Node.program r ∈ tokens) ∧
    (∀ r ∈ plan.textures.map (·.2), Node.texture r ∈ tokens) ∧
    ∀ r ∈ plan.samplers.map (·.2), Node.sampler r ∈ tokens

theorem runs_create {plan : MaterialPlan} (hb : Owns g ext w)
    (havailable : Available plan (g.tokens + ext)) :
    Runs (create plan) w
      (fun m w' => m.textures = plan.textures ∧ m.samplers = plan.samplers ∧
        Owns g (m.refs + ext) w') (Owns g ext) := by
  obtain ⟨hprogram, htextures, hsamplers⟩ := havailable
  unfold create
  split
  · exact runs_reject (Books.noted hb _)
  · rename_i program hplan
    refine Runs.bind (runs_hold hb (Books.mem_nodes hb (hprogram _ hplan))) ?_
    rintro - w₁ ⟨-, hb₁⟩
    refine Runs.bind (runs_holdAll hb₁ fun r hr => ?_) fun _ w₂ hb₂ => ?_
    · have hr := htextures r hr
      simp only [Multiset.mem_add, Multiset.mem_cons] at hr ⊢
      tauto
    refine Runs.bind (runs_holdAll hb₂ fun r hr => ?_) fun _ w₃ hb₃ => ?_
    · have hr := hsamplers r hr
      simp only [Multiset.mem_add, Multiset.mem_cons] at hr ⊢
      tauto
    refine Runs.pure ⟨rfl, rfl, Books.congr hb₃ ?_⟩
    rw [refs, slotNodes, slotNodes, ← Multiset.singleton_add, ← Multiset.singleton_add,
      List.map_map, List.map_map]
    show _ + (_ + ({Node.program program} + ext)) = _
    ac_rfl

theorem runs_discard {m : Material} (hb : Owns g (m.refs + ext) w) :
    Runs m.discard w (fun _ => Owns g ext) E := by
  rw [refs, Multiset.cons_add, add_assoc] at hb
  refine Runs.bind (runs_release hb) fun _ w₁ hb₁ => ?_
  have hb₁ : Owns g (↑((m.textures.map (·.2)).map Traced.node) +
      (slotNodes m.samplers + ext)) w₁ := by
    rw [List.map_map]
    exact hb₁
  refine Runs.bind (runs_releaseAll hb₁) fun _ w₂ hb₂ => ?_
  have hb₂ : Owns g (↑((m.samplers.map (·.2)).map Traced.node) + ext) w₂ := by
    rw [List.map_map]
    exact hb₂
  exact runs_releaseAll hb₂

/-! Applying a material only asks for bindings and uniforms. -/

theorem runs_applyUniforms {program : Ref Program} {uniforms : List (String × UniformValue)}
    (hb : Owns g ext w) (hallows : ∀ r, g.allows r) :
    Runs (applyUniforms program uniforms) w (fun _ => Owns g ext) E := by
  induction uniforms generalizing w with
  | nil => exact Runs.pure hb
  | cons u rest ih =>
      exact Runs.bind (Program.runs_setUniform hb fun _ => hallows _) fun _ w₁ hb₁ => ih hb₁

theorem runs_applyTextures {textures : List (UInt32 × Ref Texture)} (hb : Owns g ext w)
    (hallows : ∀ r, g.allows r) :
    Runs (applyTextures textures) w (fun _ => Owns g ext) E := by
  induction textures generalizing w with
  | nil => exact Runs.pure hb
  | cons t rest ih => exact Runs.bind (Texture.runs_bind hb hallows) fun _ w₁ hb₁ => ih hb₁.2

theorem runs_applySamplers {samplers : List (UInt32 × Ref Sampler)} (hb : Owns g ext w)
    (hallows : ∀ r, g.allows r) :
    Runs (applySamplers samplers) w (fun _ => Owns g ext) E := by
  induction samplers generalizing w with
  | nil => exact Runs.pure hb
  | cons t rest ih =>
      exact Runs.bind (Sampler.runs_bind hb fun _ _ => hallows _) fun _ w₁ hb₁ => ih hb₁

theorem runs_apply {m : Material} (hb : Owns g ext w) (hallows : ∀ r, g.allows r) :
    Runs m.apply w (fun _ => Owns g ext) E := by
  refine Runs.bind (Program.runs_bind hb hallows) fun _ w₁ hb₁ => ?_
  refine Runs.bind (runs_applyUniforms hb₁.2 hallows) fun _ w₂ hb₂ => ?_
  refine Runs.bind (runs_applyTextures hb₂ hallows) fun _ w₃ hb₃ => ?_
  exact runs_applySamplers hb₃ hallows

/-! Whoever comes into a material is held before the one in its place is given up. -/

theorem runs_setProgram {m : Material} {r : Ref Program} (hb : Owns g (m.refs + ext) w)
    (hr : Node.program r ∈ g.tokens + (m.refs + ext)) :
    Runs (m.setProgram r) w
      (fun m' w' => (m.Ordered → m'.Ordered) ∧ Owns g (m'.refs + ext) w') E := by
  refine Runs.bind (runs_hold hb (Books.mem_nodes hb hr)) ?_
  rintro - w₁ ⟨-, hb₁⟩
  rw [refs, Multiset.cons_add, Multiset.cons_swap] at hb₁
  refine Runs.bind (runs_release hb₁) fun _ w₂ hb₂ => Runs.pure ⟨id, ?_⟩
  rw [refs, Multiset.cons_add]
  exact hb₂

/-- What a material refers to before and after an exchange in one of its slots. -/
theorem refs_exchange {program new old textures textures' samplers ext : Multiset Node}
    (h : new + textures = old + textures') :
    new + (program + (textures + samplers) + ext) =
      old + (program + (textures' + samplers) + ext) := by
  calc new + (program + (textures + samplers) + ext)
      = (new + textures) + (program + samplers + ext) := by ac_rfl
    _ = (old + textures') + (program + samplers + ext) := by rw [h]
    _ = old + (program + (textures' + samplers) + ext) := by ac_rfl

theorem runs_setTexture {m : Material} {slot : UInt32} {r : Ref Texture}
    (hm : m.Ordered) (hb : Owns g (m.refs + ext) w)
    (hr : Node.texture r ∈ g.tokens + (m.refs + ext)) :
    Runs (m.setTexture slot r) w
      (fun m' w' => m'.Ordered ∧ Owns g (m'.refs + ext) w') E := by
  refine Runs.bind (runs_hold hb (Books.mem_nodes hb hr)) ?_
  rintro - w₁ ⟨-, hb₁⟩
  have hb₁ : Owns g (↑((m.texture? slot).toList.map Traced.node) +
      (refs { m with textures := putSlot m.textures slot r } + ext)) w₁ := by
    refine Books.congr hb₁ ?_
    simp only [refs, ← Multiset.singleton_add]
    refine refs_exchange ?_
    rw [Multiset.singleton_add]
    exact slotNodes_putSlot hm.1 slot r
  refine Runs.bind (runs_releaseOption hb₁) fun _ w₂ hb₂ => Runs.pure ⟨?_, hb₂⟩
  exact ⟨ascending_putSlot hm.1 slot r, hm.2⟩

theorem runs_setSampler {m : Material} {slot : UInt32} {r : Ref Sampler}
    (hm : m.Ordered) (hb : Owns g (m.refs + ext) w)
    (hr : Node.sampler r ∈ g.tokens + (m.refs + ext)) :
    Runs (m.setSampler slot r) w
      (fun m' w' => m'.Ordered ∧ Owns g (m'.refs + ext) w') E := by
  refine Runs.bind (runs_hold hb (Books.mem_nodes hb hr)) ?_
  rintro - w₁ ⟨-, hb₁⟩
  have hb₁ : Owns g (↑((m.sampler? slot).toList.map Traced.node) +
      (refs { m with samplers := putSlot m.samplers slot r } + ext)) w₁ := by
    refine Books.congr hb₁ ?_
    simp only [refs, ← Multiset.singleton_add, add_comm (slotNodes m.textures)]
    refine refs_exchange ?_
    rw [Multiset.singleton_add]
    exact slotNodes_putSlot hm.2 slot r
  refine Runs.bind (runs_releaseOption hb₁) fun _ w₂ hb₂ => Runs.pure ⟨?_, hb₂⟩
  exact ⟨hm.1, ascending_putSlot hm.2 slot r⟩

/-- The texture that is taken out goes to the caller. -/
theorem refs_removeTexture {m : Material} (hm : m.Ordered) (slot : UInt32) :
    m.refs =
      ↑((m.removeTexture slot).1.toList.map Traced.node) + (m.removeTexture slot).2.refs := by
  have h := slotNodes_filter hm.1 slot
  simp only [refs, removeTexture, texture?, ← Multiset.singleton_add]
  rw [h]
  ac_rfl

theorem ordered_removeTexture {m : Material} (hm : m.Ordered) (slot : UInt32) :
    (m.removeTexture slot).2.Ordered :=
  ⟨ascending_filter hm.1 _, hm.2⟩

end Material

/-! ## Contexts -/

namespace RenderContext

theorem runs_create {config : ContextConfig} (hb : Owns g ext w) :
    Runs (create config) w (fun _ => Owns g ext) (Owns g ext) := by
  refine Runs.bind_get ?_
  split
  · exact runs_reject (Books.noted hb _)
  · have hactive : Owns g ext { w with contextActive := true } :=
      ⟨⟨hb.base, hb.allowed, hb.law, hb.lawful, hb.answered⟩, hb.sound, hb.watched, hb.believed⟩
    exact Runs.bind_set (Runs.bind_note (Runs.pure (Books.noted hactive _)))

theorem runs_discard {c : RenderContext} (hb : Owns g ext w) :
    Runs c.discard w (fun _ => Owns g ext) E := by
  have hactive : Owns g ext { w with contextActive := false } :=
    ⟨⟨hb.base, hb.allowed, hb.law, hb.lawful, hb.answered⟩, hb.sound, hb.watched, hb.believed⟩
  exact Runs.bind_modify (runs_note (Books.noted hactive _))

end RenderContext

end RenderKit
