import RenderKit.Proofs.Ledger.Books
import RenderKit.Proofs.Pipelines.Attributes
import RenderKit.Proofs.Targets.Slots
import RenderKit.Resource.Mesh

set_option autoImplicit false

/-! # Meshes in the bounds of their buffers

No attribute of a layout reaches past its stride, and as many strides as a mesh has vertices fit into
the vertex buffer. So every attribute of every vertex that is drawn lies in the buffer, and so does
every index. -/

namespace RenderKit

/-! ## Attributes and strides -/

namespace VertexLayout

theorem foldl_max_le {as : List VertexAttribute} {top bound : Nat} :
    as.foldl (fun top a => Nat.max top a.fullEnd) top ≤ bound ↔
      top ≤ bound ∧ ∀ a ∈ as, a.fullEnd ≤ bound := by
  induction as generalizing top with
  | nil => simp
  | cons a rest ih =>
    rw [List.foldl_cons, ih, List.forall_mem_cons, Nat.max_le, and_assoc]

theorem packed_le_iff {as : List VertexAttribute} {bound : Nat} :
    packed as ≤ bound ↔ ∀ a ∈ as, a.fullEnd ≤ bound := by
  rw [packed, foldl_max_le, and_iff_right (Nat.zero_le bound)]

/-- Without a stride of its own, a layout has room for the end of the last attribute. -/
theorem toNat_packed {as : List VertexAttribute} (fits : as.all VertexAttribute.endFits) :
    (packed as).toUInt32.toNat = packed as := by
  -- every end fits into a word, so the largest one does
  have hle : packed as ≤ UInt32.size - 1 := by
    rw [packed_le_iff]
    intro a ha
    have hend : a.fullEnd < UInt32.size := by
      simpa [VertexAttribute.endFits] using List.all_eq_true.1 fits a ha
    omega
  have hlt : packed as < UInt32.size := Nat.lt_of_le_of_lt hle (by decide)
  simpa [Nat.toUInt32] using Nat.mod_eq_of_lt hlt

/-- Every attribute ends within the stride. -/
theorem Constructed.fullEnd_le {l : VertexLayout} (h : l.Constructed) :
    ∀ a ∈ l.attributes, a.fullEnd ≤ l.stride.toNat := by
  obtain ⟨attributes, stride?, journal, journal', hmake⟩ := h
  unfold make at hmake
  split at hmake
  · cases hmake
  split at hmake
  · rename_i fits
    rw [← packed_le_iff]
    cases stride? with
    | none =>
      cases hmake
      exact Nat.le_of_eq (toNat_packed fits).symm
    | some stride =>
      dsimp only at hmake
      split at hmake
      · cases hmake
      · rename_i wide
        cases hmake
        exact Nat.le_of_not_lt wide
  · cases hmake

end VertexLayout

/-! ## Counts -/

namespace Mesh

variable {what : ElementKind} {requested : Option UInt32} {capacity : Nat} {n : UInt32}

/-- A count that is not given is as large as possible, and none is larger. -/
structure Counted (requested : Option UInt32) (capacity : Nat) (n : UInt32) : Prop where
  le : n.toNat ≤ capacity
  full : requested = none → n.toNat = capacity
  given : ∀ given ∈ requested, n = given

theorem counted_count (h : count what requested capacity = .ok n) :
    Counted requested capacity n := by
  cases requested with
  | none =>
    by_cases room : capacity < UInt32.size
    · simp only [count, room, if_true, Except.ok.injEq] at h
      have hn : n.toNat = capacity := by
        rw [← h]
        simpa [Nat.toUInt32] using Nat.mod_eq_of_lt room
      exact ⟨Nat.le_of_eq hn, fun _ => hn, nofun⟩
    · simp [count, room] at h
  | some given =>
    by_cases past : given.toNat > capacity
    · simp [count, past] at h
    · simp only [count, past, if_false, Except.ok.injEq] at h
      subst h
      exact ⟨Nat.le_of_not_lt past, nofun, by simp⟩

/-- As many strides as are counted fit, and so does the attribute of any vertex. -/
theorem reach_le {size stride last v count : Nat} (counted : count ≤ size / stride) (hv : v < count)
    (hlast : last ≤ stride) : v * stride + last ≤ size := by
  calc
    v * stride + last ≤ v * stride + stride := Nat.add_le_add_left hlast _
    _ = (v + 1) * stride := (Nat.succ_mul v stride).symm
    _ ≤ size / stride * stride := Nat.mul_le_mul_right stride (Nat.le_trans hv counted)
    _ ≤ size := Nat.div_mul_le_self size stride

/-! ## New meshes -/

variable {σ : Type} {w w' : World σ}

/-- A buffer of a kind has as many bytes for each as it takes for what is counted. -/
def Stocks (w : World σ) (r : Ref Buffer) (kind : BufferKind) (requested : Option UInt32)
    (each : Nat) (n : UInt32) : Prop :=
  ∃ b : Buffer, (Pooled.pool w).get? r = some b ∧ b.kind = kind ∧
    Counted requested (b.size.toNat / each) n

/-- What a mesh is in the world that it was created in: its buffers are there, it has the layout
    of its plan, and its counts are those that the sizes of the buffers allow. -/
structure Planned (plan : MeshPlan) (w : World σ) (m : Mesh) : Prop where
  layout : m.layout = plan.layout
  topology : m.topology = plan.topology
  vertexBuffer : plan.vertexBuffer = some m.vertexBuffer
  indexBuffer : plan.indexBuffer = m.indexBuffer
  stride_ne_zero : m.layout.stride.toNat ≠ 0
  vertices : Stocks w m.vertexBuffer .vertex plan.vertexCount m.layout.stride.toNat m.vertexCount
  indices : ∀ r ∈ m.indexBuffer, Stocks w r .index plan.indexCount indexSize m.indexCount
  unindexed : m.indexBuffer = none → m.indexCount = 0

/-- All buffers are as they were. -/
def BuffersKept (w w' : World σ) : Prop :=
  ∀ r : Ref Buffer, (Pooled.pool w').get? r = (Pooled.pool w).get? r

theorem Stocks.kept {r : Ref Buffer} {kind : BufferKind} {requested : Option UInt32} {each : Nat}
    {n : UInt32} (h : Stocks w r kind requested each n) (kept : BuffersKept w w') :
    Stocks w' r kind requested each n := by
  obtain ⟨b, hb, hcount⟩ := h
  exact ⟨b, (kept r).trans hb, hcount⟩

/-- Whoever becomes an owner of a buffer leaves all buffers as they are. -/
theorem kept_hold {r : Ref Buffer} {E : World σ → Prop} :
    Runs (hold r) w (fun _ => BuffersKept w) E :=
  Runs.modify (Pool.get?_retain _ r)

theorem kept_holdAll {rs : List (Ref Buffer)} {E : World σ → Prop} :
    Runs (holdAll rs) w (fun _ => BuffersKept w) E := by
  induction rs generalizing w with
  | nil => exact Runs.pure fun _ => rfl
  | cons r rest ih =>
    refine Runs.bind kept_hold fun _ w₁ kept₁ => ih.imp ?_
    intro _ w₂ kept₂ r'
    exact (kept₂ r').trans (kept₁ r')

/-- When the counts are known, all that is left is to become an owner of the buffers. -/
theorem planned_finish {plan : MeshPlan} {vertexBuffer : Ref Buffer}
    {vertexCount indexCount : UInt32} {text : String} {E : World σ → Prop}
    (h : Planned plan w ⟨vertexBuffer, plan.indexBuffer, plan.layout, plan.topology, vertexCount,
      indexCount⟩) :
    Runs (do
      note .debug "cbox::mesh" text
      hold vertexBuffer
      holdAll plan.indexBuffer.toList
      return (⟨vertexBuffer, plan.indexBuffer, plan.layout, plan.topology, vertexCount,
        indexCount⟩ : Mesh) : Render σ Mesh) w (fun m w' => Planned plan w' m) E := by
  refine Runs.bind_note (Runs.bind kept_hold fun _ w₁ kept₁ => ?_)
  refine Runs.bind kept_holdAll fun _ w₂ kept₂ => Runs.pure ?_
  exact { h with
    vertices := (h.vertices.kept kept₁).kept kept₂
    indices := fun r hr => ((h.indices r hr).kept kept₁).kept kept₂ }

theorem planned_create [GraphicsDevice σ] {plan : MeshPlan} :
    Runs (create plan) w (fun m w' => Planned plan w' m) (fun _ => True) := by
  unfold create
  split
  · exact runs_reject trivial
  rename_i vertexBuffer hplan
  refine Runs.bind_same runs_view fun vertices hvertices => ?_
  refine Runs.reject_if trivial fun hkind => Runs.reject_if trivial fun hlayout => ?_
  have stride : plan.layout.stride.toNat ≠ 0 := by
    intro hzero
    have hstride : plan.layout.stride = 0 := UInt32.toNat_inj.1 hzero
    simp [hstride] at hlayout
  refine Runs.bind runs_accept ?_
  rintro vertexCount w ⟨hcount, rfl⟩
  have stocked : Stocks w vertexBuffer .vertex plan.vertexCount plan.layout.stride.toNat
      vertexCount :=
    ⟨vertices, hvertices, Decidable.not_not.1 hkind, counted_count hcount⟩
  extract_lets finish
  split
  · rename_i hindex
    exact planned_finish ⟨rfl, rfl, hplan, rfl, stride, stocked, by simp [hindex], fun _ => rfl⟩
  · rename_i indexBuffer hindex
    refine Runs.bind_same runs_view fun indices hindices => ?_
    refine Runs.reject_if trivial fun hkind => Runs.bind runs_accept ?_
    rintro indexCount w ⟨hcount, rfl⟩
    refine planned_finish ⟨rfl, rfl, hplan, rfl, stride, stocked, ?_, by simp [hindex]⟩
    intro r hr
    obtain rfl : indexBuffer = r := Option.some.inj (hindex.symm.trans hr)
    exact ⟨indices, hindices, Decidable.not_not.1 hkind, counted_count hcount⟩

section Planned

variable {plan : MeshPlan} {m : Mesh}

/-- Every attribute of every vertex that is counted lies in the vertex buffer. -/
theorem Planned.vertex_le (h : Planned plan w m) (constructed : plan.layout.Constructed) :
    ∃ b : Buffer, (Pooled.pool w).get? m.vertexBuffer = some b ∧
      (plan.vertexCount = none → m.vertexCount.toNat = b.size.toNat / m.layout.stride.toNat) ∧
      ∀ v < m.vertexCount.toNat, ∀ a ∈ m.layout.attributes,
        v * m.layout.stride.toNat + a.offset.toNat + a.format.size ≤ b.size.toNat := by
  obtain ⟨b, hb, _, counted⟩ := h.vertices
  refine ⟨b, hb, counted.full, ?_⟩
  intro v hv a ha
  have hend : a.fullEnd ≤ m.layout.stride.toNat := by
    rw [h.layout] at ha ⊢
    exact constructed.fullEnd_le a ha
  rw [Nat.add_assoc]
  exact reach_le counted.le hv hend

/-- Every index that is counted lies in the index buffer. -/
theorem Planned.index_le (h : Planned plan w m) :
    ∀ r ∈ m.indexBuffer, ∃ b : Buffer, (Pooled.pool w).get? r = some b ∧
      (plan.indexCount = none → m.indexCount.toNat = b.size.toNat / 4) ∧
      4 * m.indexCount.toNat ≤ b.size.toNat := by
  intro r hr
  obtain ⟨b, hb, _, counted⟩ := h.indices r hr
  have hle : m.indexCount.toNat ≤ b.size.toNat / 4 := counted.le
  exact ⟨b, hb, counted.full, by omega⟩

end Planned

end Mesh

end RenderKit
