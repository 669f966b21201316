import RenderKit.Proofs.Targets.Slots

set_option autoImplicit false

/-! # Textures that are held for a while

An operation that needs some textures makes itself an owner of those that are given, and makes the
others. As long as it holds them, the pool is what it was before apart from them, and giving all of
them up leads back to it: each texture that was made is deleted, and no other. -/

namespace RenderKit

/-- A texture an operation holds: one that was given, or one that was made for it. -/
inductive Holding where
  | given (r : Ref Texture)
  | made (r : Ref Texture) (t : Texture)
deriving DecidableEq

namespace Holding

def ref : Holding → Ref Texture
  | .given r => r
  | .made r _ => r

/-- The place of a texture that was made. -/
def new? : Holding → Option (Ref Texture)
  | .given _ => none
  | .made r _ => some r

/-- The object of the device that was made with it. -/
def native? : Holding → Option Native
  | .given _ => none
  | .made _ t => some t.handle.native

/-- The texture, where those that are given are in some pool. -/
def texture? (p : Pool Texture) : Holding → Option Texture
  | .given r => p.get? r
  | .made _ t => some t

/-- The objects of the device that were made with some holdings. -/
def natives (hs : List Holding) : List Native := hs.filterMap native?

theorem natives_cons (x : Holding) (xs : List Holding) :
    natives (x :: xs) = x.native?.toList ++ natives xs := by
  cases x <;> rfl

theorem kind_of_mem_natives {xs : List Holding} {x : Native} (h : x ∈ natives xs) :
    x.kind = .texture := by
  obtain ⟨_ | ⟨r, t⟩, -, hx⟩ := List.mem_filterMap.mp h
  · cases hx
  · cases hx
    rfl

theorem natives_append (xs ys : List Holding) :
    natives (xs ++ ys) = natives xs ++ natives ys :=
  List.filterMap_append

end Holding

/-- A pool is another one with some holdings. -/
structure Holds (p : Pool Texture) (hs : List Holding) (p' : Pool Texture) : Prop where
  kept : ∀ r s, p.slot? r = some s →
    p'.slot? r = some { s with owners := s.owners + hs.count (.given r) }
  made : ∀ r t, .made r t ∈ hs → p.slot? r = none ∧ p'.slot? r = some ⟨t, 1⟩
  absent : ∀ r, p.slot? r = none → r ∉ hs.filterMap Holding.new? → p'.slot? r = none
  given : ∀ r, .given r ∈ hs → 0 < p.owners r
  distinct : (hs.filterMap Holding.new?).Nodup

namespace Holds

variable {p p' : Pool Texture} {hs hs' : List Holding} {r : Ref Texture} {t : Texture}

theorem refl (p : Pool Texture) : Holds p [] p where
  kept _ _ h := by simpa using h
  made _ _ h := by cases h
  absent _ h _ := h
  given _ h := by cases h
  distinct := List.nodup_nil

/-- Without holdings the pool is what it was. -/
theorem slot?_eq (h : Holds p [] p') (r : Ref Texture) : p'.slot? r = p.slot? r := by
  rcases hslot : p.slot? r with _ | s
  · exact h.absent r hslot List.not_mem_nil
  · simpa using h.kept r s hslot

theorem perm (h : Holds p hs p') (hperm : hs.Perm hs') : Holds p hs' p' where
  kept r s hslot := hperm.count_eq (.given r) ▸ h.kept r s hslot
  made r t hmem := h.made r t (hperm.mem_iff.mpr hmem)
  absent r hslot hmem := h.absent r hslot fun hr =>
    hmem ((hperm.filterMap Holding.new?).mem_iff.mp hr)
  given r hmem := h.given r (hperm.mem_iff.mpr hmem)
  distinct := (hperm.filterMap Holding.new?).nodup_iff.mp h.distinct

theorem mem_new?_iff : r ∈ hs.filterMap Holding.new? ↔ ∃ t, .made r t ∈ hs := by
  rw [List.mem_filterMap]
  constructor
  · rintro ⟨_ | ⟨r', t⟩, hmem, hnew⟩
    · cases hnew
    · cases hnew
      exact ⟨t, hmem⟩
  · rintro ⟨t, hmem⟩
    exact ⟨_, hmem, rfl⟩

/-- Every texture that is held is in the pool. -/
theorem get?_ref (h : Holds p hs p') {x : Holding} (hx : x ∈ hs) :
    p'.get? x.ref = x.texture? p := by
  cases x with
  | given r =>
      obtain ⟨s, hslot, -⟩ := Pool.exists_slot_of_owners (h.given r hx)
      have hget := Pool.get?_of_slot? (h.kept r s hslot)
      exact hget.trans (Pool.get?_of_slot? hslot).symm
  | made r t => exact Pool.get?_of_slot? (h.made r t hx).2

theorem isSome_get?_ref (h : Holds p hs p') {x : Holding} (hx : x ∈ hs) :
    (p'.get? x.ref).isSome := by
  cases x with
  | given r =>
      obtain ⟨s, hslot, -⟩ := Pool.exists_slot_of_owners (h.given r hx)
      rw [h.get?_ref hx, Holding.texture?, Pool.get?_of_slot? hslot]
      rfl
  | made r t =>
      rw [h.get?_ref hx]
      rfl

/-- Nothing happens to a texture that was there before. -/
theorem get?_of_some (h : Holds p hs p') (ht : p.get? r = some t) : p'.get? r = some t := by
  obtain ⟨s, hslot, rfl⟩ := Pool.slot?_of_get? ht
  have hget := Pool.get?_of_slot? (h.kept r s hslot)
  exact hget

/-- A place counts once for each time it was given and once for being new. -/
theorem count_ref (hs : List Holding) (r : Ref Texture) :
    (hs.map Holding.ref).count r =
      hs.count (.given r) + (hs.filterMap Holding.new?).count r := by
  induction hs with
  | nil => rfl
  | cons x rest ih =>
      cases x with
      | given r' =>
          have hcount : (Holding.given r' :: rest).count (.given r) =
              rest.count (.given r) + if r' = r then 1 else 0 := by
            simp [List.count_cons]
          simp only [List.map_cons, Holding.ref, List.count_cons, ih, hcount, beq_iff_eq,
            List.filterMap_cons, Holding.new?]
          omega
      | made r' t =>
          have hcount : (Holding.made r' t :: rest).count (.given r) = rest.count (.given r) :=
            List.count_cons_of_ne (by simp)
          simp only [List.map_cons, Holding.ref, List.count_cons, ih, hcount, beq_iff_eq,
            List.filterMap_cons, Holding.new?]
          omega

/-- Each holding counts as an owner. -/
theorem owners_eq (h : Holds p hs p') (r : Ref Texture) :
    p'.owners r = p.owners r + (hs.map Holding.ref).count r := by
  rw [count_ref]
  rcases hslot : p.slot? r with _ | s
  · -- a place that was free is now held by a single new texture, or still free
    have hbefore : p.owners r = 0 := by simp [Pool.owners, hslot]
    have hgiven : hs.count (.given r) = 0 := by
      refine List.count_eq_zero.mpr fun hmem => ?_
      have := h.given r hmem
      omega
    by_cases hmem : r ∈ hs.filterMap Holding.new?
    · obtain ⟨t, ht⟩ := mem_new?_iff.mp hmem
      rw [Pool.owners_of_slot? (h.made r t ht).2, hbefore, hgiven,
        List.count_eq_one_of_mem h.distinct hmem]
    · rw [List.count_eq_zero.mpr hmem, hbefore, hgiven]
      simp [Pool.owners, h.absent r hslot hmem]
  · -- new textures never take a place that is in use
    have hnew : r ∉ hs.filterMap Holding.new? := by
      intro hmem
      obtain ⟨t, ht⟩ := mem_new?_iff.mp hmem
      rw [(h.made r t ht).1] at hslot
      cases hslot
    rw [Pool.owners_of_slot? (h.kept r s hslot), Pool.owners_of_slot? hslot,
      List.count_eq_zero.mpr hnew]
    rfl

/-! ### Taking -/

/-- One more owner of a texture that is given. -/
theorem retain (h : Holds p hs p') (hr : 0 < p.owners r) :
    Holds p (hs ++ [.given r]) (p'.retain r) := by
  obtain ⟨s, hslot, -⟩ := Pool.exists_slot_of_owners hr
  have hslot' := h.kept r s hslot
  have hne : ∀ r', p.slot? r' = none → r' ≠ r := fun _ => Pool.ne_of_slot? hslot
  refine ⟨fun r' s' hs' => ?_, fun r' t' hmem => ?_, fun r' hnone hmem => ?_, fun r' hmem => ?_, ?_⟩
  · rw [Pool.slot?_retain hslot']
    by_cases heq : r' = r
    · subst heq
      obtain rfl : s = s' := by simpa [hslot] using hs'
      simp [Nat.add_assoc]
    · have hcount : [Holding.given r].count (.given r') = 0 := by
        simp [List.count_eq_zero, heq]
      rw [if_neg heq, List.count_append, hcount, h.kept r' s' hs']
      rfl
  · obtain ⟨hnone, hmade⟩ := h.made r' t' (by simpa using hmem)
    rw [Pool.slot?_retain hslot', if_neg (hne r' hnone)]
    exact ⟨hnone, hmade⟩
  · rw [Pool.slot?_retain hslot', if_neg (hne r' hnone)]
    exact h.absent r' hnone (by simpa [Holding.new?] using hmem)
  · rcases List.mem_append.mp hmem with hmem | hmem
    · exact h.given r' hmem
    · obtain rfl : r' = r := by simpa using hmem
      exact hr
  · rw [List.filterMap_append, List.filterMap_cons_none rfl, List.filterMap_nil, List.append_nil]
    exact h.distinct

/-- A new texture. -/
theorem add (h : Holds p hs p') (t : Texture) :
    Holds p (hs ++ [.made ⟨p'.slots.length⟩ t]) (p'.add t).2 := by
  have hnext := p'.slot?_next
  have hbefore : p.slot? ⟨p'.slots.length⟩ = none := by
    rcases hslot : p.slot? ⟨p'.slots.length⟩ with _ | s
    · rfl
    · rw [h.kept _ s hslot] at hnext
      cases hnext
  have hnew : (⟨p'.slots.length⟩ : Ref Texture) ∉ hs.filterMap Holding.new? := by
    intro hmem
    obtain ⟨t', hmem⟩ := mem_new?_iff.mp hmem
    rw [(h.made _ t' hmem).2] at hnext
    cases hnext
  refine ⟨fun r s hslot => ?_, fun r t' hmem => ?_, fun r hnone hmem => ?_, fun r hmem => ?_, ?_⟩
  · rw [Pool.slot?_add, if_neg (Pool.ne_of_slot? hslot hbefore).symm, h.kept r s hslot]
    simp
  · rw [Pool.slot?_add]
    rcases List.mem_append.mp hmem with hmem | hmem
    · have hne : r ≠ ⟨p'.slots.length⟩ := by
        rintro rfl
        exact hnew (mem_new?_iff.mpr ⟨t', hmem⟩)
      rw [if_neg hne]
      exact h.made r t' hmem
    · obtain ⟨rfl, rfl⟩ : r = ⟨p'.slots.length⟩ ∧ t' = t := by simpa using hmem
      exact ⟨hbefore, if_pos rfl⟩
  · have hmem : r ∉ hs.filterMap Holding.new? ∧ r ≠ ⟨p'.slots.length⟩ := by
      simpa [Holding.new?, not_or] using hmem
    rw [Pool.slot?_add, if_neg hmem.2]
    exact h.absent r hnone hmem.1
  · exact h.given r (by simpa using hmem)
  · rw [List.filterMap_append]
    exact h.distinct.append (List.nodup_singleton _) (by simpa [Holding.new?] using hnew)

/-! ### Giving up -/

/-- A texture that was given has other owners. -/
theorem release_given (h : Holds p (.given r :: hs) p') :
    (p'.release r).1 = none ∧ Holds p hs (p'.release r).2 := by
  obtain ⟨s, hslot, hpos⟩ := Pool.exists_slot_of_owners (h.given r List.mem_cons_self)
  have hslot' := h.kept r s hslot
  -- it had an owner before, and this holding is another one
  have hothers : ¬s.owners + (Holding.given r :: hs).count (.given r) ≤ 1 := by
    rw [List.count_cons_self]
    omega
  have hne : ∀ r', p.slot? r' = none → r' ≠ r := fun _ => Pool.ne_of_slot? hslot
  rw [Pool.release_of_others hslot' hothers]
  refine ⟨rfl, fun r' s' hs' => ?_, fun r' t' hmem => ?_, fun r' hnone hmem => ?_,
    fun r' hmem => h.given r' (List.mem_cons_of_mem _ hmem), h.distinct⟩
  · rw [Pool.slot?_set hslot']
    by_cases heq : r' = r
    · subst heq
      obtain rfl : s = s' := by simpa [hslot] using hs'
      simp
    · have hcount : (Holding.given r :: hs).count (.given r') = hs.count (.given r') :=
        List.count_cons_of_ne (by simpa using Ne.symm heq)
      rw [if_neg heq, h.kept r' s' hs', hcount]
  · obtain ⟨hnone, hmade⟩ := h.made r' t' (List.mem_cons_of_mem _ hmem)
    rw [Pool.slot?_set hslot', if_neg (hne r' hnone)]
    exact ⟨hnone, hmade⟩
  · rw [Pool.slot?_set hslot', if_neg (hne r' hnone)]
    exact h.absent r' hnone (by simpa [Holding.new?] using hmem)

/-- A texture that was made has no other owner. -/
theorem release_made (h : Holds p (.made r t :: hs) p') :
    (p'.release r).1 = some t ∧ Holds p hs (p'.release r).2 := by
  obtain ⟨hbefore, hslot'⟩ := h.made r t List.mem_cons_self
  have hdistinct : r ∉ hs.filterMap Holding.new? ∧ (hs.filterMap Holding.new?).Nodup := by
    simpa [Holding.new?] using h.distinct
  rw [Pool.release_of_last hslot' (le_refl 1)]
  refine ⟨rfl, fun r' s' hs' => ?_, fun r' t' hmem => ?_, fun r' hnone hmem => ?_,
    fun r' hmem => h.given r' (List.mem_cons_of_mem _ hmem), hdistinct.2⟩
  · have hne : r' ≠ r := (Pool.ne_of_slot? hs' hbefore).symm
    have hcount : (Holding.made r t :: hs).count (.given r') = hs.count (.given r') :=
      List.count_cons_of_ne (by simp)
    rw [Pool.slot?_set hslot', if_neg hne, h.kept r' s' hs', hcount]
  · have hne : r' ≠ r := by
      rintro rfl
      exact hdistinct.1 (mem_new?_iff.mpr ⟨t', hmem⟩)
    rw [Pool.slot?_set hslot', if_neg hne]
    exact h.made r' t' (List.mem_cons_of_mem _ hmem)
  · rw [Pool.slot?_set hslot']
    split
    · rfl
    · rename_i hne
      exact h.absent r' hnone (by simpa [Holding.new?, hne] using hmem)

end Holds

end RenderKit
