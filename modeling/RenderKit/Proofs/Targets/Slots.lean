import RenderKit.Proofs.Ledger.Cells

set_option autoImplicit false

/-! # Slots of pools

What an operation on a pool does is said place by place: which object is there afterwards, and how
many owners it has. -/

namespace RenderKit

namespace Pool

variable {α : Type} {p : Pool α} {r : Ref α} {s : Slot α}

section Places

variable [DecidableEq α]

theorem slot?_set (h : p.slot? r = some s) (o : Option (Slot α)) (r' : Ref α) :
    (⟨p.slots.set r.place o⟩ : Pool α).slot? r' = if r' = r then o else p.slot? r' := by
  obtain ⟨hlt, -⟩ := List.getElem?_eq_some_iff.mp (slot?_eq_some_iff.mp h)
  obtain ⟨place⟩ := r
  obtain ⟨place'⟩ := r'
  by_cases hplace : place' = place
  · subst hplace
    simp [slot?, hlt]
  · simp [slot?, List.getElem?_set_ne (Ne.symm hplace), hplace]

theorem slot?_retain (h : p.slot? r = some s) (r' : Ref α) :
    (p.retain r).slot? r' =
      if r' = r then some { s with owners := s.owners + 1 } else p.slot? r' := by
  rw [retain_eq_set h, slot?_set h]

theorem slot?_update (h : p.slot? r = some s) (f : α → α) (r' : Ref α) :
    (p.update r f).slot? r' =
      if r' = r then some { s with value := f s.value } else p.slot? r' := by
  rw [update_eq_set f h, slot?_set h]

omit [DecidableEq α] in
theorem slot?_next (p : Pool α) : p.slot? ⟨p.slots.length⟩ = none := by
  simp [slot?]

theorem slot?_add (p : Pool α) (a : α) (r' : Ref α) :
    (p.add a).2.slot? r' = if r' = ⟨p.slots.length⟩ then some ⟨a, 1⟩ else p.slot? r' := by
  obtain ⟨place⟩ := r'
  by_cases hplace : place = p.slots.length
  · subst hplace
    simp [slot?, add]
  · rcases Nat.lt_or_gt_of_ne hplace with hlt | hgt
    · simp [slot?, add, List.getElem?_append_left hlt, hplace]
    · have hnone : (p.slots ++ [some ⟨a, 1⟩])[place]? = none :=
        List.getElem?_eq_none (by simp; omega)
      simp [slot?, add, hnone, hplace, List.getElem?_eq_none hgt.le]

/-- One owner less, and none without the last one. -/
theorem slot?_release (p : Pool α) (r r' : Ref α) :
    (p.release r).2.slot? r' =
      if r' = r then
        (p.slot? r).bind fun s =>
          if s.owners ≤ 1 then none else some { s with owners := s.owners - 1 }
      else p.slot? r' := by
  rcases hslot : p.slot? r with _ | s
  · rw [release_of_none hslot]
    split
    · rename_i heq
      rw [heq, hslot]
      rfl
    · rfl
  · -- the last owner takes the place with it
    by_cases howners : s.owners ≤ 1
    · rw [release_of_last hslot howners, slot?_set hslot]
      simp [howners]
    · rw [release_of_others hslot howners, slot?_set hslot]
      simp [howners]

end Places

theorem owners_of_slot? (h : p.slot? r = some s) : p.owners r = s.owners := by
  rw [owners, h]
  rfl

theorem get?_of_slot? (h : p.slot? r = some s) : p.get? r = some s.value := by
  rw [get?, h]
  rfl

theorem ne_of_slot? {r' : Ref α} (h : p.slot? r = some s) (h' : p.slot? r' = none) : r' ≠ r := by
  rintro rfl
  rw [h] at h'
  cases h'

/-- What a release gives back has left the pool. -/
theorem of_release {a : α} (h : (p.release r).1 = some a) :
    p.get? r = some a ∧ (p.release r).2.slot? r = none := by
  rcases hslot : p.slot? r with _ | s
  · rw [release_of_none hslot] at h
    cases h
  · by_cases howners : s.owners ≤ 1
    · rw [release_of_last hslot howners] at h ⊢
      cases h
      exact ⟨get?_of_slot? hslot, by classical rw [slot?_set hslot, if_pos rfl]⟩
    · rw [release_of_others hslot howners] at h
      cases h

theorem get?_of_release {r' : Ref α} {a : α} (h : (p.release r).2.get? r' = some a) :
    p.get? r' = some a := by
  classical
  obtain ⟨s, hslot, rfl⟩ := slot?_of_get? h
  rw [slot?_release] at hslot
  split at hslot
  · rename_i heq
    subst heq
    obtain ⟨s', hs', hless⟩ := Option.bind_eq_some_iff.mp hslot
    split at hless
    · cases hless
    · cases hless
      have hget := get?_of_slot? hs'
      exact hget
  · exact get?_of_slot? hslot

/-- Only what is there has owners. -/
theorem exists_slot_of_owners (h : 0 < p.owners r) : ∃ s, p.slot? r = some s ∧ 0 < s.owners := by
  rcases hslot : p.slot? r with _ | s
  · simp [owners, hslot] at h
  · exact ⟨s, rfl, owners_of_slot? hslot ▸ h⟩

theorem isSome_of_owners (h : 0 < p.owners r) : (p.get? r).isSome := by
  obtain ⟨s, hslot, -⟩ := exists_slot_of_owners h
  rw [get?_of_slot? hslot]
  rfl

section Counts

variable [DecidableEq α]

/-- One more owner, for something that is there. -/
theorem owners_retain (h : (p.get? r).isSome) (r' : Ref α) :
    (p.retain r).owners r' = p.owners r' + [r].count r' := by
  obtain ⟨a, ha⟩ := Option.isSome_iff_exists.mp h
  obtain ⟨s, hslot, -⟩ := slot?_of_get? ha
  rw [owners, slot?_retain hslot]
  by_cases heq : r' = r
  · subst heq
    simp [owners, hslot]
  · have hcount : [r].count r' = 0 := by simp [List.count_eq_zero, heq]
    rw [if_neg heq, hcount]
    rfl

omit [DecidableEq α] in
/-- Another owner is nothing that is found. -/
theorem get?_retain (p : Pool α) (r r' : Ref α) : (p.retain r).get? r' = p.get? r' := by
  rw [get?, get?, slot?, slot?, retain, List.getElem?_modify]
  split
  · rcases p.slots[r'.place]? with _ | _ | s <;> rfl
  · simp

/-! ## Giving up references -/

/-- A pool after some references to it were given up. -/
structure GivenUp (p : Pool α) (rs : List (Ref α)) (p' : Pool α) : Prop where
  kept : ∀ r s, p.slot? r = some s → rs.count r < s.owners →
    p'.slot? r = some { s with owners := s.owners - rs.count r }
  gone : ∀ r, p.slot? r = none → p'.slot? r = none

theorem GivenUp.cons {p' : Pool α} {rs : List (Ref α)} (h : (p.release r).2.GivenUp rs p') :
    p.GivenUp (r :: rs) p' := by
  refine ⟨fun r' s hslot howners => ?_, fun r' hslot => h.gone r' ?_⟩
  · by_cases heq : r' = r
    · subst heq
      rw [List.count_cons_self] at howners ⊢
      have hslot' : (p.release r').2.slot? r' = some { s with owners := s.owners - 1 } := by
        rw [slot?_release, if_pos rfl, hslot]
        exact if_neg (by omega)
      rw [h.kept r' _ hslot' (by show _ < s.owners - 1; omega)]
      simp only [Option.some.injEq, Slot.mk.injEq, true_and]
      omega
    · have hcount : (r :: rs).count r' = rs.count r' := List.count_cons_of_ne (Ne.symm heq)
      rw [hcount] at howners ⊢
      refine h.kept r' s ?_ howners
      rw [slot?_release, if_neg heq, hslot]
  · rw [slot?_release]
    split
    · rename_i heq
      rw [← heq, hslot]
      rfl
    · exact hslot

/-- What has more owners than there were references given up is there as before. -/
theorem GivenUp.get?_eq {p' : Pool α} {rs : List (Ref α)} (h : p.GivenUp rs p')
    (hr : rs.count r < p.owners r) :
    p'.get? r = p.get? r ∧ p'.owners r = p.owners r - rs.count r := by
  obtain ⟨s, hslot, -⟩ := exists_slot_of_owners (Nat.zero_lt_of_lt hr)
  rw [owners_of_slot? hslot] at hr
  have hslot' := h.kept r s hslot hr
  have hget := get?_of_slot? hslot'
  rw [get?_of_slot? hslot, owners_of_slot? hslot, owners_of_slot? hslot']
  exact ⟨hget, rfl⟩

end Counts

end Pool

end RenderKit
