import RenderKit.Proofs.Ledger.Heap
import RenderKit.Target.Attachment

set_option autoImplicit false

/-! # The heap of a world

The objects in the pools of a world are the cells of its heap. -/

namespace RenderKit

/-- A type whose objects are cells. -/
class Traced (α : Type) where
  node : Ref α → Node
  body : α → Body
  others : α → Multiset Node
  recalls : α → List Recall
  node_injective : Function.Injective node

/-- A body that stands for one object and holds nothing. -/
def Body.single (x : Native) : Body := ⟨{x}, 0⟩

@[simp] theorem Body.nodes_single (x : Native) : (Body.single x).nodes = 0 := rfl

namespace Framebuffer

/-- The textures that its attachments brought along. -/
def givenRefs (f : Framebuffer) : List (Ref Texture) :=
  f.colorAttachments.flatMap Attachment.owned ++ f.depthAttachment.toList.flatMap Attachment.owned

end Framebuffer

/-- The grips on the textures a framebuffer draws into. -/
def targetGrips (colors : List (Ref Texture)) (depth : Option (Ref Texture)) : Multiset Grip :=
  ↑(colors.zipIdx.map fun c => (⟨.color c.2, .texture c.1⟩ : Grip)) +
    ↑(depth.toList.map fun r => (⟨.depth, .texture r⟩ : Grip))

/-- A framebuffer holds textures, each in a role of its own. -/
theorem mem_targetGrips {colors : List (Ref Texture)} {depth : Option (Ref Texture)} {grip : Grip}
    (h : grip ∈ targetGrips colors depth) :
    ∃ r, r ∈ colors ++ depth.toList ∧ grip.node = .texture r := by
  rcases Multiset.mem_add.mp h with h | h
  · obtain ⟨⟨r, place⟩, hr, rfl⟩ := List.mem_map.mp h
    exact ⟨r, List.mem_append_left _ (List.fst_mem_of_mem_zipIdx hr), rfl⟩
  · obtain ⟨r, hr, rfl⟩ := List.mem_map.mp h
    exact ⟨r, List.mem_append_right _ hr, rfl⟩

/-- There is one grip for each place of the colors. -/
theorem exists_color_grip_iff {colors : List (Ref Texture)} {depth : Option (Ref Texture)}
    {place : Nat} :
    (∃ grip ∈ targetGrips colors depth, grip.role = .color place) ↔ place < colors.length := by
  constructor
  · rintro ⟨grip, hgrip, hrole⟩
    rcases Multiset.mem_add.mp hgrip with hgrip | hgrip
    · obtain ⟨⟨t, i⟩, ht, rfl⟩ := List.mem_map.mp hgrip
      obtain rfl : i = place := by simpa using hrole
      simpa using List.snd_lt_of_mem_zipIdx ht
    · obtain ⟨_, -, rfl⟩ := List.mem_map.mp hgrip
      cases hrole
  · intro hplace
    have hmem : (colors[place], place) ∈ colors.zipIdx :=
      List.mk_mem_zipIdx_iff_getElem?.mpr (List.getElem?_eq_getElem hplace)
    exact ⟨_, Multiset.mem_add.mpr (.inl (List.mem_map_of_mem hmem)), rfl⟩

/-- The grip on the buffer that is attached to a vertex array in a role. -/
def bufferGrips (role : Role) (b : Option (Ref Buffer)) : Multiset Grip :=
  ↑(b.toList.map fun r => (⟨role, .buffer r⟩ : Grip))

instance : Traced Buffer := ⟨.buffer, fun b => .single b.handle.native, fun _ => 0, fun _ => [],
  fun _ _ h => by simpa using h⟩

instance : Traced Texture := ⟨.texture, fun t => .single t.handle.native, fun _ => 0, fun _ => [],
  fun _ _ h => by simpa using h⟩

instance : Traced Sampler := ⟨.sampler, fun s => .single s.handle.native, fun _ => 0, fun _ => [],
  fun _ _ h => by simpa using h⟩

instance : Traced Framebuffer :=
  ⟨.framebuffer,
   fun f => ⟨↑(f.handle.toList.map Handle.native), targetGrips f.colors f.depth⟩,
   fun f => ↑(f.givenRefs.map Node.texture),
   fun _ => [],
   fun _ _ h => by simpa using h⟩

instance : Traced Program :=
  ⟨.program,
   fun p => .single p.handle.native,
   fun _ => 0,
   fun p => p.locations.map fun e => ⟨p.handle, e.1, e.2⟩,
   fun _ _ h => by simpa using h⟩

instance : Traced Pipeline :=
  ⟨.pipeline,
   fun p => ⟨{p.array.native},
     bufferGrips .vertices p.vertexBuffer + bufferGrips .indices p.indexBuffer⟩,
   fun p => {.program p.program},
   fun _ => [],
   fun _ _ h => by simpa using h⟩

/-! ## Pools -/

namespace Pool

variable {α : Type} {p : Pool α} {r : Ref α} {s : Slot α}

theorem slot?_eq_some_iff : p.slot? r = some s ↔ p.slots[r.place]? = some (some s) := by
  rw [slot?, Option.join_eq_some_iff]

/-- The slots before and after a place that is in use. -/
theorem exists_split (h : p.slot? r = some s) :
    ∃ front back, p.slots = front ++ some s :: back ∧ front.length = r.place := by
  obtain ⟨hlt, hget⟩ := List.getElem?_eq_some_iff.mp (slot?_eq_some_iff.mp h)
  refine ⟨p.slots.take r.place, p.slots.drop (r.place + 1), ?_, ?_⟩
  · rw [← hget, List.getElem_cons_drop hlt, List.take_append_drop]
  · rw [List.length_take]
    omega

theorem slot?_of_get? {a : α} (h : p.get? r = some a) : ∃ s, p.slot? r = some s ∧ s.value = a := by
  simpa [get?] using h

theorem modify_eq_set {f : Option (Slot α) → Option (Slot α)} (h : p.slot? r = some s) :
    p.slots.modify r.place f = p.slots.set r.place (f (some s)) := by
  have hget := slot?_eq_some_iff.mp h
  apply List.ext_getElem?
  intro i
  rw [List.getElem?_modify, List.getElem?_set]
  split
  · rename_i hi
    subst hi
    obtain ⟨hlt, hvalue⟩ := List.getElem?_eq_some_iff.mp hget
    simp [hlt, hvalue]
  · simp

theorem retain_eq_set (h : p.slot? r = some s) :
    p.retain r = ⟨p.slots.set r.place (some { s with owners := s.owners + 1 })⟩ := by
  rw [retain, modify_eq_set h]
  rfl

theorem update_eq_set (f : α → α) (h : p.slot? r = some s) :
    p.update r f = ⟨p.slots.set r.place (some { s with value := f s.value })⟩ := by
  rw [update, modify_eq_set h]
  rfl

theorem release_of_none (h : p.slot? r = none) : p.release r = (none, p) := by
  rw [release, h]

theorem release_of_last (h : p.slot? r = some s) (howners : s.owners ≤ 1) :
    p.release r = (some s.value, ⟨p.slots.set r.place none⟩) := by
  rw [release, h]
  exact if_pos howners

theorem release_of_others (h : p.slot? r = some s) (howners : ¬ s.owners ≤ 1) :
    p.release r = (none, ⟨p.slots.set r.place (some { s with owners := s.owners - 1 })⟩) := by
  rw [release, h]
  exact if_neg howners

end Pool

section Cells

variable {α : Type} [Traced α]

/-- The cell of an object. -/
def Slot.cell (s : Slot α) (r : Ref α) : Cell :=
  ⟨Traced.node r, s.owners, Traced.body s.value, Traced.others s.value, Traced.recalls s.value⟩

@[simp] theorem Slot.node_cell (r : Ref α) (s : Slot α) : (s.cell r).node = Traced.node r := rfl

@[simp] theorem Slot.body_cell (r : Ref α) (s : Slot α) :
    (s.cell r).body = Traced.body s.value := rfl

@[simp] theorem Slot.others_cell (r : Ref α) (s : Slot α) :
    (s.cell r).others = Traced.others s.value := rfl

@[simp] theorem Slot.recalls_cell (r : Ref α) (s : Slot α) :
    (s.cell r).recalls = Traced.recalls s.value := rfl

/-- The cells of a row of places that begins at some place. -/
def cellsFrom (start : Nat) (slots : List (Option (Slot α))) : Heap :=
  ↑((slots.zipIdx start).filterMap fun e => e.1.map (Slot.cell · ⟨e.2⟩))

theorem cellsFrom_append (start : Nat) (front back : List (Option (Slot α))) :
    cellsFrom start (front ++ back) =
      cellsFrom start front + cellsFrom (start + front.length) back := by
  simp [cellsFrom, List.zipIdx_append]

theorem cellsFrom_cons (start : Nat) (s : Option (Slot α)) (rest : List (Option (Slot α))) :
    cellsFrom start (s :: rest) =
      ↑(s.map (Slot.cell · ⟨start⟩)).toList + cellsFrom (start + 1) rest := by
  cases s <;> simp [cellsFrom]

namespace Pool

def cells (p : Pool α) : Heap := cellsFrom 0 p.slots

variable {p : Pool α} {r : Ref α} {s : Slot α}

theorem mem_cells {c : Cell} : c ∈ p.cells ↔ ∃ r s, p.slot? r = some s ∧ c = s.cell r := by
  simp only [cells, cellsFrom, Multiset.mem_coe, List.mem_filterMap, slot?_eq_some_iff]
  constructor
  · rintro ⟨⟨o, place⟩, hmem, hcell⟩
    obtain ⟨s, rfl, rfl⟩ := Option.map_eq_some_iff.mp hcell
    exact ⟨⟨place⟩, s, List.mk_mem_zipIdx_iff_getElem?.mp hmem, rfl⟩
  · rintro ⟨r, s, hslot, rfl⟩
    exact ⟨(some s, r.place), List.mk_mem_zipIdx_iff_getElem?.mpr hslot, rfl⟩

/-- Exchanging what is at a place exchanges one cell. -/
theorem cells_set (h : p.slot? r = some s) :
    ∃ rest : Heap, p.cells = s.cell r ::ₘ rest ∧
      ∀ o : Option (Slot α),
        cells ⟨p.slots.set r.place o⟩ = ↑(o.map (Slot.cell · r)).toList + rest := by
  obtain ⟨front, back, hslots, hplace⟩ := exists_split h
  have hcells : ∀ o : Option (Slot α), cells ⟨front ++ o :: back⟩ =
      ↑(o.map (Slot.cell · r)).toList + (cellsFrom 0 front + cellsFrom (r.place + 1) back) := by
    intro o
    rw [cells, cellsFrom_append, cellsFrom_cons, Nat.zero_add, hplace, add_left_comm]
  refine ⟨cellsFrom 0 front + cellsFrom (r.place + 1) back, ?_, ?_⟩
  · have := hcells (some s)
    rw [← hslots] at this
    simpa using this
  · intro o
    rw [hslots, ← hplace, List.set_append_right _ _ (le_refl _)]
    simpa [hplace] using hcells o

theorem cells_add (a : α) : (p.add a).2.cells = Slot.cell ⟨a, 1⟩ (p.add a).1 ::ₘ p.cells := by
  show cellsFrom 0 (p.slots ++ [some ⟨a, 1⟩]) = _
  rw [cellsFrom_append, cellsFrom_cons, add_comm]
  simp [cellsFrom, cells, add]

@[simp] theorem cells_empty : (empty : Pool α).cells = 0 := rfl

theorem exists_node {n : Node} (h : n ∈ p.cells.nodes) : ∃ r : Ref α, Traced.node r = n := by
  obtain ⟨c, hc, rfl⟩ := Heap.mem_nodes.mp h
  obtain ⟨r, s, -, rfl⟩ := mem_cells.mp hc
  exact ⟨r, rfl⟩

end Pool

end Cells

/-! ## Worlds -/

namespace World

variable {σ : Type}

def cells (w : World σ) : Heap :=
  w.buffers.cells + w.textures.cells + w.samplers.cells + w.framebuffers.cells +
    w.programs.cells + w.pipelines.cells

/-- Whether a place was given out already. -/
def Used (w : World σ) : Node → Prop
  | .buffer r => r.place < w.buffers.slots.length
  | .texture r => r.place < w.textures.slots.length
  | .sampler r => r.place < w.samplers.slots.length
  | .framebuffer r => r.place < w.framebuffers.slots.length
  | .program r => r.place < w.programs.slots.length
  | .pipeline r => r.place < w.pipelines.slots.length

/-- Two worlds with the same objects. -/
structure Alike (w w' : World σ) : Prop where
  buffers : w'.buffers = w.buffers
  textures : w'.textures = w.textures
  samplers : w'.samplers = w.samplers
  framebuffers : w'.framebuffers = w.framebuffers
  programs : w'.programs = w.programs
  pipelines : w'.pipelines = w.pipelines

end World

/-- A type whose objects are some of the cells of a world. -/
class Housed (α : Type) [Pooled α] [Traced α] : Prop where
  pool_setPool {σ : Type} (w : World σ) (p : Pool α) : Pooled.pool (Pooled.setPool w p) = p
  setPool_pool {σ : Type} (w : World σ) : Pooled.setPool w (Pooled.pool w : Pool α) = w
  calls_setPool {σ : Type} (w : World σ) (p : Pool α) : (Pooled.setPool w p).calls = w.calls
  device_setPool {σ : Type} (w : World σ) (p : Pool α) : (Pooled.setPool w p).device = w.device
  cells_setPool {σ : Type} (w : World σ) (p : Pool α) :
    (Pooled.setPool w p).cells = p.cells + (Pooled.setPool w (Pool.empty : Pool α)).cells
  not_mem_rest {σ : Type} (w : World σ) (r : Ref α) :
    Traced.node r ∉ (Pooled.setPool w (Pool.empty : Pool α)).cells.nodes
  used_node {σ : Type} (w : World σ) (r : Ref α) :
    w.Used (Traced.node r) ↔ r.place < (Pooled.pool w : Pool α).slots.length
  used_setPool {σ : Type} (w : World σ) (p : Pool α) (n : Node)
    (h : (Pooled.pool w : Pool α).slots.length ≤ p.slots.length) :
    w.Used n → (Pooled.setPool w p).Used n
  pool_alike {σ : Type} {w w' : World σ} (h : w.Alike w') :
    (Pooled.pool w' : Pool α) = Pooled.pool w

instance : Housed Buffer where
  pool_setPool _ _ := rfl
  setPool_pool _ := rfl
  calls_setPool _ _ := rfl
  device_setPool _ _ := rfl
  cells_setPool w p := by
    simp [World.cells, Pooled.setPool]
    ac_rfl
  not_mem_rest w r h := by
    simp [World.cells, Pooled.setPool, or_assoc] at h
    rcases h with h | h | h | h | h <;> obtain ⟨_, h⟩ := Pool.exists_node h <;> cases h
  used_node _ _ := Iff.rfl
  used_setPool w p n h := by
    cases n <;> first | exact id | exact fun hlt => hlt.trans_le h
  pool_alike h := h.buffers

instance : Housed Texture where
  pool_setPool _ _ := rfl
  setPool_pool _ := rfl
  calls_setPool _ _ := rfl
  device_setPool _ _ := rfl
  cells_setPool w p := by
    simp [World.cells, Pooled.setPool]
    ac_rfl
  not_mem_rest w r h := by
    simp [World.cells, Pooled.setPool, or_assoc] at h
    rcases h with h | h | h | h | h <;> obtain ⟨_, h⟩ := Pool.exists_node h <;> cases h
  used_node _ _ := Iff.rfl
  used_setPool w p n h := by
    cases n <;> first | exact id | exact fun hlt => hlt.trans_le h
  pool_alike h := h.textures

instance : Housed Sampler where
  pool_setPool _ _ := rfl
  setPool_pool _ := rfl
  calls_setPool _ _ := rfl
  device_setPool _ _ := rfl
  cells_setPool w p := by
    simp [World.cells, Pooled.setPool]
    ac_rfl
  not_mem_rest w r h := by
    simp [World.cells, Pooled.setPool, or_assoc] at h
    rcases h with h | h | h | h | h <;> obtain ⟨_, h⟩ := Pool.exists_node h <;> cases h
  used_node _ _ := Iff.rfl
  used_setPool w p n h := by
    cases n <;> first | exact id | exact fun hlt => hlt.trans_le h
  pool_alike h := h.samplers

instance : Housed Framebuffer where
  pool_setPool _ _ := rfl
  setPool_pool _ := rfl
  calls_setPool _ _ := rfl
  device_setPool _ _ := rfl
  cells_setPool w p := by
    simp [World.cells, Pooled.setPool]
    ac_rfl
  not_mem_rest w r h := by
    simp [World.cells, Pooled.setPool, or_assoc] at h
    rcases h with h | h | h | h | h <;> obtain ⟨_, h⟩ := Pool.exists_node h <;> cases h
  used_node _ _ := Iff.rfl
  used_setPool w p n h := by
    cases n <;> first | exact id | exact fun hlt => hlt.trans_le h
  pool_alike h := h.framebuffers

instance : Housed Program where
  pool_setPool _ _ := rfl
  setPool_pool _ := rfl
  calls_setPool _ _ := rfl
  device_setPool _ _ := rfl
  cells_setPool w p := by
    simp [World.cells, Pooled.setPool]
    ac_rfl
  not_mem_rest w r h := by
    simp [World.cells, Pooled.setPool, or_assoc] at h
    rcases h with h | h | h | h | h <;> obtain ⟨_, h⟩ := Pool.exists_node h <;> cases h
  used_node _ _ := Iff.rfl
  used_setPool w p n h := by
    cases n <;> first | exact id | exact fun hlt => hlt.trans_le h
  pool_alike h := h.programs

instance : Housed Pipeline where
  pool_setPool _ _ := rfl
  setPool_pool _ := rfl
  calls_setPool _ _ := rfl
  device_setPool _ _ := rfl
  cells_setPool w p := by
    simp [World.cells, Pooled.setPool]
    ac_rfl
  not_mem_rest w r h := by
    simp [World.cells, Pooled.setPool, or_assoc] at h
    rcases h with h | h | h | h | h <;> obtain ⟨_, h⟩ := Pool.exists_node h <;> cases h
  used_node _ _ := Iff.rfl
  used_setPool w p n h := by
    cases n <;> first | exact id | exact fun hlt => hlt.trans_le h
  pool_alike h := h.pipelines

/-! ## References -/

/-- Whether a place is one of an object that refers to nothing. -/
def Node.isLeaf : Node → Bool
  | .buffer _ | .texture _ | .sampler _ | .program _ => true
  | .framebuffer _ | .pipeline _ => false

namespace World

variable {σ : Type} {w : World σ}

/-- The cells of a world, type by type. -/
theorem cells_induction {P : Cell → Prop} (hbuffer : ∀ r (s : Slot Buffer), P (s.cell r))
    (htexture : ∀ r (s : Slot Texture), P (s.cell r))
    (hsampler : ∀ r (s : Slot Sampler), P (s.cell r))
    (hframebuffer : ∀ r (s : Slot Framebuffer), P (s.cell r))
    (hprogram : ∀ r (s : Slot Program), P (s.cell r))
    (hpipeline : ∀ r (s : Slot Pipeline), P (s.cell r)) : ∀ c ∈ w.cells, P c := by
  intro c hc
  simp only [cells, Multiset.mem_add, Pool.mem_cells] at hc
  rcases hc with ((((⟨r, s, -, rfl⟩ | ⟨r, s, -, rfl⟩) | ⟨r, s, -, rfl⟩) | ⟨r, s, -, rfl⟩) |
    ⟨r, s, -, rfl⟩) | ⟨r, s, -, rfl⟩
  · exact hbuffer r s
  · exact htexture r s
  · exact hsampler r s
  · exact hframebuffer r s
  · exact hprogram r s
  · exact hpipeline r s

/-- References lead to objects that refer to nothing. -/
theorem isLeaf_of_mem_links : ∀ c ∈ w.cells, ∀ n ∈ c.links, n.isLeaf := by
  apply cells_induction
  case hframebuffer =>
    intro r s n hn
    simp only [Cell.links, Slot.body_cell, Slot.others_cell, Multiset.mem_add] at hn
    rcases hn with hn | hn
    · obtain ⟨grip, hgrip, rfl⟩ := Multiset.mem_map.mp hn
      obtain ⟨t, -, ht⟩ := mem_targetGrips hgrip
      rw [ht]
      rfl
    · obtain ⟨t, -, rfl⟩ := List.mem_map.mp hn
      rfl
  case hpipeline =>
    intro r s n hn
    simp only [Cell.links, Slot.body_cell, Slot.others_cell, Multiset.mem_add] at hn
    rcases hn with hn | hn
    · obtain ⟨grip, hgrip, rfl⟩ := Multiset.mem_map.mp hn
      rcases Multiset.mem_add.mp hgrip with hgrip | hgrip
      all_goals
        obtain ⟨b, -, rfl⟩ := List.mem_map.mp hgrip
        rfl
    · rw [Multiset.mem_singleton.mp hn]
      rfl
  all_goals
    intro r s n hn
    exact absurd hn (Multiset.notMem_zero n)

/-- What is remembered is about the program that remembers it. -/
theorem native_of_mem_recalls :
    ∀ c ∈ w.cells, ∀ x ∈ c.recalls, x.program.native ∈ c.body.natives := by
  apply cells_induction
  case hprogram =>
    intro r s x hx
    obtain ⟨e, -, rfl⟩ := List.mem_map.mp hx
    exact Multiset.mem_singleton_self _
  all_goals
    intro r s x hx
    exact absurd hx List.not_mem_nil

theorem links_of_isLeaf : ∀ c ∈ w.cells, c.node.isLeaf → c.links = 0 := by
  apply cells_induction
  case hframebuffer => exact fun _ _ h => by cases h
  case hpipeline => exact fun _ _ h => by cases h
  all_goals exact fun _ _ _ => rfl

end World

section Housed

variable {σ α : Type} [Pooled α] [Traced α] [Housed α]

/-- The object at a place has a cell. -/
theorem mem_cells_of_slot? {w : World σ} {r : Ref α} {s : Slot α}
    (h : (Pooled.pool w).slot? r = some s) : s.cell r ∈ w.cells := by
  rw [← Housed.setPool_pool (α := α) w, Housed.cells_setPool, Multiset.mem_add]
  exact .inl (Pool.mem_cells.mpr ⟨r, s, h, rfl⟩)

theorem node_mem_of_get? {w : World σ} {r : Ref α} {a : α} (h : (Pooled.pool w).get? r = some a) :
    Traced.node r ∈ w.cells.nodes := by
  obtain ⟨s, hslot, -⟩ := Pool.slot?_of_get? h
  exact Heap.node_mem (mem_cells_of_slot? hslot)

/-- What an object remembers is remembered in a world. -/
theorem mem_recalls_of_get? {w : World σ} {r : Ref α} {a : α} {x : Recall}
    (h : (Pooled.pool w).get? r = some a) (hx : x ∈ Traced.recalls a) : x ∈ w.cells.recalls := by
  obtain ⟨s, hslot, rfl⟩ := Pool.slot?_of_get? h
  exact Multiset.mem_bind.mpr ⟨s.cell r, mem_cells_of_slot? hslot, Multiset.mem_coe.mpr hx⟩

/-- A cell at the place of a reference is the cell of an object. -/
theorem exists_slot_of_mem {w : World σ} {r : Ref α} {c : Cell} (hc : c ∈ w.cells)
    (hnode : c.node = Traced.node r) : ∃ s, (Pooled.pool w).slot? r = some s ∧ c = s.cell r := by
  rw [← Housed.setPool_pool (α := α) w, Housed.cells_setPool, Multiset.mem_add] at hc
  rcases hc with hc | hc
  · obtain ⟨r', s, hslot, rfl⟩ := Pool.mem_cells.mp hc
    obtain rfl : r' = r := Traced.node_injective hnode
    exact ⟨s, hslot, rfl⟩
  · exact absurd (hnode ▸ Heap.node_mem hc) (Housed.not_mem_rest w r)

theorem exists_slot_of_node_mem {w : World σ} {r : Ref α} (h : Traced.node r ∈ w.cells.nodes) :
    ∃ s, (Pooled.pool w).slot? r = some s := by
  obtain ⟨c, hc, hnode⟩ := Heap.mem_nodes.mp h
  obtain ⟨s, hslot, -⟩ := exists_slot_of_mem hc hnode
  exact ⟨s, hslot⟩

/-- An object has a place that was given out. -/
theorem used_of_get? {w : World σ} {r : Ref α} {a : α} (h : (Pooled.pool w).get? r = some a) :
    w.Used (Traced.node r) := by
  obtain ⟨s, hslot, -⟩ := Pool.slot?_of_get? h
  obtain ⟨hlt, -⟩ := List.getElem?_eq_some_iff.mp (Pool.slot?_eq_some_iff.mp hslot)
  exact (Housed.used_node w r).mpr hlt

/-- Exchanging what is at a place exchanges one cell of a world. -/
theorem cells_setPool_set {w : World σ} {r : Ref α} {s : Slot α}
    (h : (Pooled.pool w).slot? r = some s) :
    ∃ rest : Heap, w.cells = s.cell r ::ₘ rest ∧ ∀ o : Option (Slot α),
      (Pooled.setPool w (⟨(Pooled.pool w).slots.set r.place o⟩ : Pool α)).cells =
        ↑(o.map (Slot.cell · r)).toList + rest := by
  obtain ⟨rest, hcells, hset⟩ := Pool.cells_set h
  refine ⟨rest + (Pooled.setPool w (Pool.empty : Pool α)).cells, ?_, fun o => ?_⟩
  · conv_lhs => rw [← Housed.setPool_pool (α := α) w]
    rw [Housed.cells_setPool, hcells, Multiset.cons_add]
  · rw [Housed.cells_setPool, hset, add_assoc]

end Housed

end RenderKit
