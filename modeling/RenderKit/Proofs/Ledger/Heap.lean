import Mathlib.Data.Multiset.Bind
import RenderKit.Objects
import RenderKit.Proofs.Ledger.Calls

set_option autoImplicit false

/-! # Counting owners

A heap is seen as a collection of cells. A cell has owners, it stands for objects of the device,
and it refers to other cells. Besides the cells there are tokens, which are references that the
operation at work or its caller owns, and there is a body in the air, which belongs to an object
that is just being made or taken apart.

The books are balanced if every cell has as many owners as there are references to it, and if what
lives on the device is what the cells and the body in the air stand for. Then objects leave the
heap exactly when nothing refers to them, and whatever holds an object of the device keeps its cell
in the heap. -/

namespace RenderKit

/-- A place in one of the pools. -/
inductive Node where
  | buffer (r : Ref Buffer)
  | texture (r : Ref Texture)
  | sampler (r : Ref Sampler)
  | framebuffer (r : Ref Framebuffer)
  | program (r : Ref Program)
  | pipeline (r : Ref Pipeline)
deriving DecidableEq

/-- A reference through which an object of the device is held. -/
structure Grip where
  role : Role
  node : Node
deriving DecidableEq

/-- What an object stands for on the device, and the references to what that holds. -/
structure Body where
  natives : Multiset Native
  grips : Multiset Grip

namespace Body

def empty : Body := ⟨0, 0⟩

def nodes (b : Body) : Multiset Node := b.grips.map Grip.node

/-- Whether a body has the holder of a bond and refers to a node for it. -/
def Keeps (b : Body) (bond : Bond) (n : Node) : Prop :=
  bond.holder ∈ b.natives ∧ ⟨bond.role, n⟩ ∈ b.grips

/-- Whether some bond tells of everything a body holds. -/
def Bonded (b : Body) (bonds : List Bond) : Prop :=
  ∀ x ∈ b.natives, ∀ grip ∈ b.grips, ∃ bond ∈ bonds, bond.holder = x ∧ bond.role = grip.role

@[simp] theorem nodes_empty : empty.nodes = 0 := rfl

theorem bonded_empty (bonds : List Bond) : empty.Bonded bonds := by
  intro x hx
  cases hx

theorem Bonded.append {b : Body} {bonds : List Bond} (h : b.Bonded bonds) (new : List Bond) :
    b.Bonded (bonds ++ new) := by
  intro x hx grip hgrip
  obtain ⟨bond, hmem, hbond⟩ := h x hx grip hgrip
  exact ⟨bond, List.mem_append_left _ hmem, hbond⟩

/-- Bonds of others can go. -/
theorem Bonded.filter {b : Body} {bonds : List Bond} (h : b.Bonded bonds) {p : Bond → Bool}
    (hp : ∀ bond, bond.holder ∈ b.natives → p bond) : b.Bonded (bonds.filter p) := by
  intro x hx grip hgrip
  obtain ⟨bond, hmem, hholder, hrole⟩ := h x hx grip hgrip
  exact ⟨bond, List.mem_filter.mpr ⟨hmem, hp bond (hholder ▸ hx)⟩, hholder, hrole⟩

theorem not_keeps_of_natives_eq_zero {b : Body} {bond : Bond} {n : Node} (h : b.natives = 0) :
    ¬ b.Keeps bond n := by
  intro hk
  have := hk.1
  simp [h] at this

end Body

/-- A location of a program that is remembered, so that the device need not be asked again. -/
structure Recall where
  program : ProgramHandle
  name : String
  location : Int32
deriving DecidableEq

structure Cell where
  node : Node
  owners : Nat
  body : Body
  /-- References that have nothing to do with what is held on the device. -/
  others : Multiset Node
  recalls : List Recall

def Cell.links (c : Cell) : Multiset Node := c.body.nodes + c.others

abbrev Heap := Multiset Cell

namespace Heap

def nodes (h : Heap) : Multiset Node := h.map Cell.node

def natives (h : Heap) : Multiset Native := h.bind fun c => c.body.natives

def links (h : Heap) : Multiset Node := h.bind Cell.links

/-- Everything that is remembered of the device. -/
def recalls (h : Heap) : Multiset Recall := h.bind fun c => ↑c.recalls

section

variable {c : Cell} {h : Heap} {n : Node} {x : Native}

@[simp] theorem nodes_zero : nodes 0 = 0 := rfl

@[simp] theorem nodes_cons : nodes (c ::ₘ h) = c.node ::ₘ nodes h := by simp [nodes]

@[simp] theorem natives_cons : natives (c ::ₘ h) = c.body.natives + natives h := by
  simp [natives]

@[simp] theorem links_cons : links (c ::ₘ h) = c.links + links h := by simp [links]

@[simp] theorem recalls_cons : recalls (c ::ₘ h) = ↑c.recalls + recalls h := by simp [recalls]

@[simp] theorem nodes_add {k : Heap} : nodes (h + k) = nodes h + nodes k := by simp [nodes]

theorem mem_nodes : n ∈ nodes h ↔ ∃ c ∈ h, c.node = n := by simp [nodes]

theorem mem_natives : x ∈ natives h ↔ ∃ c ∈ h, x ∈ c.body.natives := by simp [natives]

theorem node_mem (hc : c ∈ h) : c.node ∈ nodes h := mem_nodes.mpr ⟨c, hc, rfl⟩

theorem links_mem (hc : c ∈ h) (hn : n ∈ c.links) : n ∈ links h := by
  simp only [links, Multiset.mem_bind]
  exact ⟨c, hc, hn⟩

end

/-- The books. -/
structure Balanced (h : Heap) (tokens : Multiset Node) (air : Body) (live : Multiset Native) :
    Prop where
  /-- No two cells are at one place. -/
  nodup : h.nodes.Nodup
  counted : ∀ c ∈ h, c.owners = (h.links + tokens).count c.node
  owned : ∀ c ∈ h, 0 < c.owners
  /-- Every reference leads to a cell. -/
  closed : ∀ n ∈ h.links + tokens, n ∈ h.nodes
  /-- The references of the body in the air are tokens for the time being. -/
  aired : air.nodes ≤ tokens
  balance : live = h.natives + air.natives
  /-- No two cells stand for one object of the device. -/
  distinct : live.Nodup

/-- Some cell stands for what a bond is on, and whoever has the holder of the bond refers to it. -/
def Covered (h : Heap) (air : Body) (b : Bond) : Prop :=
  ∃ d ∈ h, b.on ∈ d.body.natives ∧ (air.Keeps b d.node ∨ ∃ c ∈ h, c.body.Keeps b d.node)

structure Sound (h : Heap) (tokens : Multiset Node) (air : Body) (live : Multiset Native)
    (bonds : List Bond) : Prop extends Balanced h tokens air live where
  covered : ∀ b ∈ bonds, Covered h air b
  /-- Bonds tell of everything that is held. -/
  bonded : ∀ c ∈ h, c.body.Bonded bonds
  airBonded : air.Bonded bonds

variable {c : Cell} {h rest : Heap} {n : Node} {tokens tokens' others : Multiset Node}
  {air air' body : Body} {live natives : Multiset Native} {grips : Multiset Grip}
  {bonds : List Bond} {x : Native} {known : List Recall}

theorem sound_empty : Sound 0 0 .empty 0 [] := by
  constructor
  · constructor <;> simp [nodes, links, Heap.natives, Body.empty, Body.nodes]
  · simp
  · simp
  · exact Body.bonded_empty _

/-- A cell that is replaced by one at the same place with the same body covers the same bonds. -/
theorem Covered.replace {c c' : Cell} {b : Bond} (hb : Covered (c ::ₘ rest) air b)
    (hnode : c'.node = c.node) (hbody : c'.body = c.body) : Covered (c' ::ₘ rest) air b := by
  have hcell : ∀ d ∈ c ::ₘ rest, ∃ d' ∈ c' ::ₘ rest, d'.node = d.node ∧ d'.body = d.body := by
    intro d hd
    rcases Multiset.mem_cons.mp hd with rfl | hd
    · exact ⟨c', Multiset.mem_cons_self _ _, hnode, hbody⟩
    · exact ⟨d, Multiset.mem_cons_of_mem hd, rfl, rfl⟩
  obtain ⟨d, hd, hon, hk⟩ := hb
  obtain ⟨d', hd', hdn, hdb⟩ := hcell d hd
  refine ⟨d', hd', hdb ▸ hon, hdn ▸ hk.imp_right ?_⟩
  rintro ⟨e, he, hke⟩
  obtain ⟨e', he', -, heb⟩ := hcell e he
  exact ⟨e', he', heb ▸ hke⟩

/-! ## Becoming and ceasing to be an owner -/

/-- The owners of a cell are counted anew when some of them come or go. -/
theorem Sound.recount {owners : Nat} (hs : Sound (c ::ₘ rest) tokens air live bonds)
    (hpos : 0 < owners)
    (hcount : owners + tokens.count c.node = c.owners + tokens'.count c.node)
    (hsame : ∀ m, m ≠ c.node → tokens'.count m = tokens.count m) (haired : air.nodes ≤ tokens') :
    Sound ({ c with owners := owners } ::ₘ rest) tokens' air live bonds := by
  have hnodup := hs.nodup
  simp only [nodes_cons, Multiset.nodup_cons] at hnodup
  have hlinks : links ({ c with owners := owners } ::ₘ rest) = links (c ::ₘ rest) := by
    simp [Cell.links]
  refine ⟨⟨by simpa using hs.nodup, ?_, ?_, ?_, haired, by simpa using hs.balance, hs.distinct⟩,
    fun b hb => (hs.covered b hb).replace rfl rfl,
    Multiset.forall_mem_cons.mpr (Multiset.forall_mem_cons.mp hs.bonded), hs.airBonded⟩
  · intro d hd
    rw [hlinks, Multiset.count_add]
    rcases Multiset.mem_cons.mp hd with rfl | hd
    · have hcounted := hs.counted c (Multiset.mem_cons_self _ _)
      rw [Multiset.count_add] at hcounted
      dsimp only
      omega
    · -- a token that comes or goes is none of another cell
      have hne : d.node ≠ c.node := fun he => hnodup.1 (he ▸ node_mem hd)
      rw [hsame _ hne, ← Multiset.count_add]
      exact hs.counted d (Multiset.mem_cons_of_mem hd)
  · exact Multiset.forall_mem_cons.mpr ⟨hpos, (Multiset.forall_mem_cons.mp hs.owned).2⟩
  · intro m hm
    by_cases heq : m = c.node
    · simp [heq]
    · have hbefore : m ∈ links (c ::ₘ rest) + tokens := by
        rw [hlinks, Multiset.mem_add] at hm
        refine Multiset.mem_add.mpr (hm.imp_right fun h => ?_)
        rw [← Multiset.count_pos, ← hsame m heq]
        exact Multiset.count_pos.mpr h
      simpa using hs.closed m hbefore

/-- What is remembered is nothing to anybody else. -/
theorem Sound.remember (hs : Sound (c ::ₘ rest) tokens air live bonds) :
    Sound ({ c with recalls := known } ::ₘ rest) tokens air live bonds := by
  have hcounted := hs.counted
  rw [links_cons] at hcounted
  refine ⟨⟨by simpa using hs.nodup, ?_, ?_, by simpa [Cell.links] using hs.closed, hs.aired,
    by simpa using hs.balance, hs.distinct⟩, fun b hb => (hs.covered b hb).replace rfl rfl,
    Multiset.forall_mem_cons.mpr (Multiset.forall_mem_cons.mp hs.bonded), hs.airBonded⟩
  · rw [links_cons]
    exact Multiset.forall_mem_cons.mpr (Multiset.forall_mem_cons.mp hcounted)
  · exact Multiset.forall_mem_cons.mpr (Multiset.forall_mem_cons.mp hs.owned)

theorem Sound.hold (hs : Sound (c ::ₘ rest) tokens air live bonds) :
    Sound ({ c with owners := c.owners + 1 } ::ₘ rest) (c.node ::ₘ tokens) air live bonds := by
  refine hs.recount (Nat.succ_pos _) ?_ (fun m hm => Multiset.count_cons_of_ne hm _)
    (hs.aired.trans (Multiset.le_cons_self _ _))
  rw [Multiset.count_cons_self]
  omega

/-- One owner of several leaves. -/
theorem Sound.leave (hs : Sound (c ::ₘ rest) (c.node ::ₘ tokens) .empty live bonds)
    (howners : 1 < c.owners) :
    Sound ({ c with owners := c.owners - 1 } ::ₘ rest) tokens .empty live bonds := by
  refine hs.recount (Nat.sub_pos_of_lt howners) ?_
    (fun m hm => (Multiset.count_cons_of_ne hm _).symm) (Multiset.zero_le _)
  rw [Multiset.count_cons_self]
  omega

/-- Nothing refers to a cell any more whose last owner leaves. -/
theorem Sound.last (hs : Sound (c ::ₘ rest) (c.node ::ₘ tokens) .empty live bonds)
    (howners : c.owners ≤ 1) : c.node ∉ links (c ::ₘ rest) + tokens := by
  have := hs.counted c (Multiset.mem_cons_self _ _)
  simp only [Multiset.count_add, Multiset.count_cons_self] at this
  rw [← Multiset.count_eq_zero, Multiset.count_add]
  omega

/-- The last owner leaves, takes the cell out of the heap and has its references now. -/
theorem Sound.take (hs : Sound (c ::ₘ rest) (c.node ::ₘ tokens) .empty live bonds)
    (howners : c.owners ≤ 1) : Sound rest (c.links + tokens) c.body live bonds := by
  have hlast := hs.last howners
  have hnodup := hs.nodup
  simp only [nodes_cons, Multiset.nodup_cons] at hnodup
  refine ⟨⟨hnodup.2, ?_, ?_, ?_, ?_, ?_, hs.distinct⟩, ?_,
    fun d hd => hs.bonded d (Multiset.mem_cons_of_mem hd), hs.bonded c (Multiset.mem_cons_self _ _)⟩
  · intro d hd
    have hne : d.node ≠ c.node := fun he => hnodup.1 (he ▸ node_mem hd)
    have := hs.counted d (Multiset.mem_cons_of_mem hd)
    simp only [links_cons, Multiset.count_add, Multiset.count_cons_of_ne hne] at this ⊢
    omega
  · exact fun d hd => hs.owned d (Multiset.mem_cons_of_mem hd)
  · intro m hm
    have hmem : m ∈ links (c ::ₘ rest) + tokens := by
      simp only [links_cons, Multiset.mem_add] at hm ⊢
      tauto
    have hne : m ≠ c.node := fun he => hlast (he ▸ hmem)
    have hclosed := hs.closed m
    simp only [nodes_cons, Multiset.mem_add, Multiset.mem_cons] at hmem hclosed
    tauto
  · exact (Multiset.le_add_right _ _).trans (Multiset.le_add_right _ _)
  · rw [hs.balance, natives_cons]
    simp [Body.empty, add_comm]
  · intro b hb
    obtain ⟨d, hd, hon, hk⟩ := hs.covered b hb
    have hkeep : ∃ e ∈ c ::ₘ rest, e.body.Keeps b d.node :=
      hk.resolve_left (Body.not_keeps_of_natives_eq_zero rfl)
    obtain ⟨e, he, hke⟩ := hkeep
    -- what is held is not the cell that goes, because nothing refers to that one
    have hlink : d.node ∈ links (c ::ₘ rest) := by
      refine links_mem he ?_
      exact Multiset.mem_add.mpr (.inl (Multiset.mem_map.mpr ⟨_, hke.2, rfl⟩))
    have hrest : d ∈ rest := by
      rcases Multiset.mem_cons.mp hd with rfl | hd
      · exact absurd (Multiset.mem_add.mpr (.inl hlink)) hlast
      · exact hd
    refine ⟨d, hrest, hon, ?_⟩
    rcases Multiset.mem_cons.mp he with rfl | he
    · exact .inl hke
    · exact .inr ⟨e, he, hke⟩

/-! ## Objects of the device -/

/-- The device returned an object, which may hold some of those that the tokens lead to. -/
theorem Sound.issue (hs : Sound h tokens ⟨natives, 0⟩ live bonds) (hx : x ∉ live)
    {new : List Bond} (haired : Multiset.map Grip.node grips ≤ tokens)
    (hnew : ∀ b ∈ new, b.holder = x ∧ ∃ d ∈ h, b.on ∈ d.body.natives ∧ ⟨b.role, d.node⟩ ∈ grips)
    (hbonded : (⟨x ::ₘ natives, grips⟩ : Body).Bonded new) :
    Sound h tokens ⟨x ::ₘ natives, grips⟩ (x ::ₘ live) (bonds ++ new) := by
  refine ⟨⟨hs.nodup, hs.counted, hs.owned, hs.closed, haired, ?_, ?_⟩, ?_,
    fun c hc => (hs.bonded c hc).append new, fun y hy grip hgrip => ?_⟩
  · rw [hs.balance]
    simp
  · exact Multiset.nodup_cons.mpr ⟨hx, hs.distinct⟩
  · intro b hb
    rcases List.mem_append.mp hb with hb | hb
    · obtain ⟨d, hd, hon, hk⟩ := hs.covered b hb
      refine ⟨d, hd, hon, hk.imp_left fun hk => ?_⟩
      exact absurd hk.2 (Multiset.notMem_zero _)
    · obtain ⟨hholder, d, hd, hon, hgrip⟩ := hnew b hb
      exact ⟨d, hd, hon, .inl ⟨by simp [hholder], hgrip⟩⟩
  · obtain ⟨b, hb, hbond⟩ := hbonded y hy grip hgrip
    exact ⟨b, List.mem_append_right _ hb, hbond⟩

/-- What is in the air stands for no object that something holds. -/
theorem Sound.free (hs : Sound h tokens air live bonds) (hx : x ∈ air.natives) :
    ∀ b ∈ bonds, b.on ≠ x := by
  rintro b hb rfl
  obtain ⟨d, hd, hon, -⟩ := hs.covered b hb
  have hdistinct := hs.distinct
  rw [hs.balance, Multiset.nodup_add] at hdistinct
  exact Multiset.disjoint_left.mp hdistinct.2.2 (mem_natives.mpr ⟨d, hd, hon⟩) hx

/-- An object in the air is deleted. -/
theorem Sound.delete (hs : Sound h tokens ⟨x ::ₘ natives, grips⟩ live bonds) :
    Sound h tokens ⟨natives, grips⟩ (live - {x}) (bonds.filter fun b => b.holder ≠ x) := by
  have hdistinct := hs.distinct
  rw [hs.balance, Multiset.nodup_add, Multiset.nodup_cons] at hdistinct
  obtain ⟨-, ⟨hnatives, -⟩, hdisjoint⟩ := hdistinct
  refine ⟨⟨hs.nodup, hs.counted, hs.owned, hs.closed, hs.aired, ?_, ?_⟩, ?_, fun c hc => ?_, ?_⟩
  · rw [hs.balance]
    simp
  · exact Multiset.nodup_of_le (Multiset.sub_le_self _ _) hs.distinct
  · intro b hb
    obtain ⟨hb, hne⟩ := List.mem_filter.mp hb
    obtain ⟨d, hd, hon, hk⟩ := hs.covered b hb
    refine ⟨d, hd, hon, hk.imp_left fun hk => ⟨?_, hk.2⟩⟩
    exact (Multiset.mem_cons.mp hk.1).resolve_left (by simpa using hne)
  · refine (hs.bonded c hc).filter fun b hb => ?_
    have hne : b.holder ≠ x := by
      rintro rfl
      exact Multiset.disjoint_left.mp hdisjoint (mem_natives.mpr ⟨c, hc, hb⟩)
        (Multiset.mem_cons_self _ _)
    simpa using hne
  · have hair : (⟨natives, grips⟩ : Body).Bonded bonds := fun y hy =>
      hs.airBonded y (Multiset.mem_cons_of_mem hy)
    refine hair.filter fun b hb => ?_
    have hne : b.holder ≠ x := by
      rintro rfl
      exact hnatives hb
    simpa using hne

/-- A body that stands for nothing any more is gone. -/
theorem Sound.land (hs : Sound h tokens ⟨0, grips⟩ live bonds) :
    Sound h tokens .empty live bonds := by
  refine ⟨⟨hs.nodup, hs.counted, hs.owned, hs.closed, Multiset.zero_le _, hs.balance,
    hs.distinct⟩, ?_, hs.bonded, Body.bonded_empty _⟩
  intro b hb
  obtain ⟨d, hd, hon, hk⟩ := hs.covered b hb
  exact ⟨d, hd, hon, .inr (hk.resolve_left (Body.not_keeps_of_natives_eq_zero rfl))⟩

/-! ## Cells -/

/-- The body in the air becomes a cell of its own. -/
theorem Sound.share (hs : Sound h (air.nodes + others + tokens) air live bonds)
    (hn : n ∉ h.nodes) :
    Sound (⟨n, 1, air, others, known⟩ ::ₘ h) (n ::ₘ tokens) .empty live bonds := by
  have hnew : n ∉ h.links + (air.nodes + others + tokens) := fun hm => hn (hs.closed n hm)
  refine ⟨⟨?_, ?_, ?_, ?_, Multiset.zero_le _, ?_, hs.distinct⟩, ?_,
    Multiset.forall_mem_cons.mpr ⟨hs.airBonded, hs.bonded⟩, Body.bonded_empty _⟩
  · simpa using ⟨hn, hs.nodup⟩
  · intro d hd
    rcases Multiset.mem_cons.mp hd with rfl | hd
    · rw [← Multiset.count_eq_zero] at hnew
      simp only [links_cons, Cell.links, Multiset.count_add, Multiset.count_cons_self] at hnew ⊢
      omega
    · have hne : d.node ≠ n := fun he => hn (he ▸ node_mem hd)
      have := hs.counted d hd
      simp only [links_cons, Cell.links, Multiset.count_add, Multiset.count_cons_of_ne hne]
        at this ⊢
      omega
  · intro d hd
    rcases Multiset.mem_cons.mp hd with rfl | hd
    · exact Nat.one_pos
    · exact hs.owned d hd
  · intro m hm
    have hclosed := hs.closed m
    simp only [links_cons, nodes_cons, Cell.links, Multiset.mem_add, Multiset.mem_cons]
      at hm hclosed ⊢
    tauto
  · rw [hs.balance]
    simp [Body.empty, add_comm]
  · intro b hb
    obtain ⟨d, hd, hon, hk⟩ := hs.covered b hb
    refine ⟨d, Multiset.mem_cons_of_mem hd, hon, .inr ?_⟩
    rcases hk with hk | ⟨e, he, hk⟩
    · exact ⟨_, Multiset.mem_cons_self _ _, hk⟩
    · exact ⟨e, Multiset.mem_cons_of_mem he, hk⟩

/-- A cell exchanges parts of its body for tokens and for what is in the air. -/
theorem Balanced.rewire (hs : Balanced (c ::ₘ rest) tokens air live)
    (hlinks : c.body.nodes + tokens = body.nodes + tokens')
    (hnatives : body.natives + air'.natives = c.body.natives + air.natives)
    (haired : air'.nodes ≤ tokens') :
    Balanced ({ c with body := body } ::ₘ rest) tokens' air' live := by
  have hrefs :
      links ({ c with body := body } ::ₘ rest) + tokens' = links (c ::ₘ rest) + tokens := by
    ext m
    have := congrArg (Multiset.count m) hlinks
    simp only [links_cons, Cell.links, Multiset.count_add] at this ⊢
    omega
  refine ⟨by simpa using hs.nodup, ?_, ?_, ?_, haired, ?_, hs.distinct⟩
  · intro d hd
    rw [hrefs]
    rcases Multiset.mem_cons.mp hd with rfl | hd
    · exact hs.counted c (Multiset.mem_cons_self _ _)
    · exact hs.counted d (Multiset.mem_cons_of_mem hd)
  · intro d hd
    rcases Multiset.mem_cons.mp hd with rfl | hd
    · exact hs.owned c (Multiset.mem_cons_self _ _)
    · exact hs.owned d (Multiset.mem_cons_of_mem hd)
  · intro m hm
    rw [hrefs] at hm
    simpa using hs.closed m hm
  · rw [hs.balance]
    ext y
    have := congrArg (Multiset.count y) hnatives
    simp only [natives_cons, Multiset.count_add] at this ⊢
    omega

/-- A cell to which nothing refers exchanges its body for the one in the air. -/
theorem Sound.swap (hs : Sound (c ::ₘ rest) (air.nodes + tokens) air live bonds)
    (hlinks : c.node ∉ links (c ::ₘ rest)) (hair : c.node ∉ air.nodes) :
    Sound ({ c with body := air } ::ₘ rest) (c.body.nodes + tokens) c.body live bonds := by
  obtain ⟨hcell, hrest⟩ := Multiset.forall_mem_cons.mp hs.bonded
  refine ⟨hs.toBalanced.rewire ?_ (add_comm _ _) (Multiset.le_add_right _ _), ?_,
    Multiset.forall_mem_cons.mpr ⟨hs.airBonded, hrest⟩, hcell⟩
  · rw [← add_assoc, ← add_assoc, add_comm air.nodes]
  · intro b hb
    obtain ⟨d, hd, hon, hk⟩ := hs.covered b hb
    have hrest : d ∈ rest := by
      refine (Multiset.mem_cons.mp hd).resolve_left ?_
      rintro rfl
      rcases hk with hk | ⟨e, he, hk⟩
      · exact hair (Multiset.mem_map.mpr ⟨_, hk.2, rfl⟩)
      · have hnode : d.node ∈ e.body.nodes := Multiset.mem_map.mpr ⟨_, hk.2, rfl⟩
        exact hlinks (links_mem he (Multiset.mem_add.mpr (.inl hnode)))
    refine ⟨d, Multiset.mem_cons_of_mem hrest, hon, ?_⟩
    rcases hk with hk | ⟨e, he, hk⟩
    · exact .inr ⟨_, Multiset.mem_cons_self _ _, hk⟩
    · rcases Multiset.mem_cons.mp he with rfl | he
      · exact .inl hk
      · exact .inr ⟨e, Multiset.mem_cons_of_mem he, hk⟩

/-- A holder of its own exchanges what it holds in one role. -/
theorem Covered.rebond {holder on : Native} {role : Role}
    (hbonds : ∀ b ∈ bonds, Covered (c ::ₘ rest) .empty b)
    (hholder : c.body.natives = {holder}) (hnatives : body.natives = c.body.natives)
    (hkeep : ∀ grip ∈ c.body.grips, grip.role ≠ role → grip ∈ body.grips)
    (hon : ∃ d ∈ c ::ₘ rest, on ∈ d.body.natives ∧ ⟨role, d.node⟩ ∈ body.grips) :
    ∀ b ∈ Request.rebond bonds holder role on,
      Covered ({ c with body := body } ::ₘ rest) .empty b := by
  have hcell : ∀ d ∈ c ::ₘ rest, ∃ d' ∈ { c with body := body } ::ₘ rest,
      d'.node = d.node ∧ d'.body.natives = d.body.natives := by
    intro d hd
    rcases Multiset.mem_cons.mp hd with rfl | hd
    · exact ⟨_, Multiset.mem_cons_self _ _, rfl, hnatives⟩
    · exact ⟨d, Multiset.mem_cons_of_mem hd, rfl, rfl⟩
  intro b hb
  rcases List.mem_append.mp hb with hb | hb
  · obtain ⟨hb, hne⟩ := List.mem_filter.mp hb
    obtain ⟨d, hd, hbon, hk⟩ := hbonds b hb
    obtain ⟨e, he, hke⟩ := hk.resolve_left (Body.not_keeps_of_natives_eq_zero rfl)
    obtain ⟨d', hd', hnode, hdn⟩ := hcell d hd
    refine ⟨d', hd', hdn ▸ hbon, .inr ?_⟩
    rw [hnode]
    rcases Multiset.mem_cons.mp he with rfl | he
    · -- a bond of the holder that is left has another role, so the cell refers to it still
      have hb' : b.holder = holder := by simpa [hholder] using hke.1
      have hrole : b.role ≠ role := by simpa [hb'] using hne
      exact ⟨_, Multiset.mem_cons_self _ _, hnatives ▸ hke.1, hkeep _ hke.2 hrole⟩
    · exact ⟨e, Multiset.mem_cons_of_mem he, hke⟩
  · obtain rfl := List.mem_singleton.mp hb
    obtain ⟨d, hd, hdon, hgrip⟩ := hon
    obtain ⟨d', hd', hnode, hdn⟩ := hcell d hd
    refine ⟨d', hd', hdn ▸ hdon, .inr ⟨_, Multiset.mem_cons_self _ _, ?_, hnode ▸ hgrip⟩⟩
    simp [hnatives, hholder]

/-- Bonds tell of what a holder of its own has exchanged, and of what the others hold. -/
theorem bonded_rebond {holder on : Native} {role : Role}
    (hnodup : (Heap.natives (c ::ₘ rest)).Nodup)
    (hbonded : ∀ d ∈ c ::ₘ rest, d.body.Bonded bonds)
    (hholder : c.body.natives = {holder}) (hnatives : body.natives = c.body.natives)
    (hkept : ∀ grip ∈ body.grips, grip.role ≠ role → grip ∈ c.body.grips) :
    ∀ d ∈ { c with body := body } ::ₘ rest,
      d.body.Bonded (Request.rebond bonds holder role on) := by
  obtain ⟨hcell, hrest⟩ := Multiset.forall_mem_cons.mp hbonded
  refine Multiset.forall_mem_cons.mpr ⟨fun x hx grip hgrip => ?_, fun d hd => ?_⟩
  · have hx : x ∈ c.body.natives := hnatives ▸ hx
    have hxholder : x = holder := by simpa [hholder] using hx
    by_cases hrole : grip.role = role
    · exact ⟨⟨holder, role, on⟩, by simp [Request.rebond], hxholder.symm, hrole.symm⟩
    · obtain ⟨b, hb, hbx, hbrole⟩ := hcell x hx grip (hkept grip hgrip hrole)
      refine ⟨b, List.mem_append_left _ (List.mem_filter.mpr ⟨hb, ?_⟩), hbx, hbrole⟩
      simp [hbrole, hrole]
  · -- no other cell stands for the holder
    refine ((hrest d hd).filter fun b hb => ?_).append _
    have hne : b.holder ≠ holder := by
      rintro rfl
      rw [natives_cons, Multiset.nodup_add, hholder] at hnodup
      exact Multiset.disjoint_left.mp hnodup.2.2 (Multiset.mem_singleton_self _)
        (mem_natives.mpr ⟨d, hd, hb⟩)
    simp [hne]

/-- A cell refers to another one in a role, in place of what it referred to in that role. Whoever
    had the new reference has the old ones then. -/
theorem Sound.rebond {holder on : Native} {role : Role} {old : Multiset Grip}
    (hs : Sound (c ::ₘ rest) (n ::ₘ tokens) .empty live bonds) (hholder : c.body.natives = {holder})
    (hnatives : body.natives = c.body.natives)
    (hgrips : old + body.grips = ⟨role, n⟩ ::ₘ c.body.grips)
    (hold : ∀ grip ∈ old, grip.role = role) (hnew : ⟨role, n⟩ ∈ body.grips)
    (hon : ∃ d ∈ c ::ₘ rest, on ∈ d.body.natives ∧ d.node = n) :
    Sound ({ c with body := body } ::ₘ rest) (old.map Grip.node + tokens) .empty live
      (Request.rebond bonds holder role on) := by
  have hnodes : c.body.nodes + n ::ₘ tokens = body.nodes + (old.map Grip.node + tokens) := by
    have hmapped := congrArg (Multiset.map Grip.node) hgrips
    rw [Multiset.map_add, Multiset.map_cons] at hmapped
    calc c.body.nodes + n ::ₘ tokens
        = n ::ₘ c.body.nodes + tokens := by rw [Multiset.add_cons, Multiset.cons_add]
      _ = old.map Grip.node + body.nodes + tokens := congrArg (· + tokens) hmapped.symm
      _ = body.nodes + (old.map Grip.node + tokens) := by ac_rfl
  have hdistinct := hs.distinct
  rw [hs.balance, Multiset.nodup_add] at hdistinct
  refine ⟨hs.toBalanced.rewire hnodes (by rw [hnatives]) (Multiset.zero_le _), ?_,
    bonded_rebond hdistinct.1 hs.bonded hholder hnatives ?_, Body.bonded_empty _⟩
  · refine Covered.rebond hs.covered hholder hnatives (fun grip hgrip hne => ?_) ?_
    · have hmem : grip ∈ old + body.grips := hgrips ▸ Multiset.mem_cons_of_mem hgrip
      exact (Multiset.mem_add.mp hmem).resolve_left fun h => hne (hold grip h)
    · obtain ⟨d, hd, hon, rfl⟩ := hon
      exact ⟨d, hd, hon, hnew⟩
  · intro grip hgrip hne
    have hmem : grip ∈ ⟨role, n⟩ ::ₘ c.body.grips :=
      hgrips ▸ Multiset.mem_add.mpr (.inr hgrip)
    refine (Multiset.mem_cons.mp hmem).resolve_left ?_
    rintro rfl
    exact hne rfl

/-! ## What bonds tell -/

/-- Whoever is the holder of a bond refers to what the bond is on. -/
theorem Sound.held (hs : Sound h tokens .empty live bonds) (hc : c ∈ h) {b : Bond} (hb : b ∈ bonds)
    (hholder : b.holder ∈ c.body.natives) :
    ∃ d ∈ h, b.on ∈ d.body.natives ∧ ⟨b.role, d.node⟩ ∈ c.body.grips := by
  obtain ⟨d, hd, hon, hk⟩ := hs.covered b hb
  obtain ⟨e, he, hke⟩ := hk.resolve_left (Body.not_keeps_of_natives_eq_zero rfl)
  have hsame : e = c := by
    by_contra hne
    obtain ⟨rest, rfl⟩ := Multiset.exists_cons_of_mem hc
    have hrest : e ∈ rest := (Multiset.mem_cons.mp he).resolve_left hne
    have hdistinct := hs.distinct
    rw [hs.balance, natives_cons, Multiset.nodup_add, Multiset.nodup_add] at hdistinct
    exact Multiset.disjoint_left.mp hdistinct.1.2.2 hholder (mem_natives.mpr ⟨e, hrest, hke.1⟩)
  exact ⟨d, hd, hon, hsame ▸ hke.2⟩

/-- Something is held in a role if and only if some bond says so. -/
theorem Sound.exists_bond_iff (hs : Sound h tokens .empty live bonds) (hc : c ∈ h)
    (hx : x ∈ c.body.natives) {role : Role} :
    (∃ b ∈ bonds, b.holder = x ∧ b.role = role) ↔ ∃ grip ∈ c.body.grips, grip.role = role := by
  constructor
  · rintro ⟨b, hb, rfl, rfl⟩
    obtain ⟨d, -, -, hgrip⟩ := hs.held hc hb hx
    exact ⟨_, hgrip, rfl⟩
  · rintro ⟨grip, hgrip, rfl⟩
    exact hs.bonded c hc x hx grip hgrip

/-! ## In the end -/

/-- Without tokens nothing is left, if no cell that has references is referred to itself. -/
theorem Balanced.eq_zero (hs : Balanced h 0 .empty live)
    (hflat : ∀ c ∈ h, ∀ d ∈ h, d.node ∈ c.links → d.links = 0) : h = 0 := by
  rw [Multiset.eq_zero_iff_forall_notMem]
  have hlinked : ∀ c ∈ h, ∃ d ∈ h, c.node ∈ d.links := by
    intro c hc
    have hpos := hs.owned c hc
    rw [hs.counted c hc, add_zero, Multiset.count_pos] at hpos
    simpa [links] using hpos
  intro c hc
  obtain ⟨d, hd, hcd⟩ := hlinked c hc
  obtain ⟨e, he, hde⟩ := hlinked d hd
  have hnone := hflat e he d hd hde
  simp [hnone] at hcd

end Heap

end RenderKit
