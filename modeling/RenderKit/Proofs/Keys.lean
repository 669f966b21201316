import Mathlib.Data.List.Induction
import Mathlib.Data.List.Nodup

set_option autoImplicit false

/-! # Values under keys

A list of entries stands for a map from keys to values. The first entry of a key counts. -/

namespace RenderKit

section Lookups

variable {α β γ : Type} [BEq α] [LawfulBEq α] {entries : List (α × β)} {key other : α}

theorem lookup_cons_eq [DecidableEq α] (e : α × β) (entries : List (α × β)) (key : α) :
    (e :: entries).lookup key = if key = e.1 then some e.2 else entries.lookup key := by
  by_cases h : key = e.1
  · rw [List.lookup_cons, if_pos h, beq_iff_eq.mpr h]
  · rw [List.lookup_cons, if_neg h, beq_eq_false_iff_ne.mpr h]

theorem lookup_cons_of_ne {b : β} (hne : other ≠ key) :
    List.lookup other ((key, b) :: entries) = entries.lookup other := by
  rw [List.lookup_cons, beq_false_of_ne hne]

theorem lookup_filter_of_ne [DecidableEq α] (hne : other ≠ key) :
    (entries.filter fun e => e.1 ≠ key).lookup other = entries.lookup other := by
  induction entries with
  | nil => rfl
  | cons first rest ih =>
      obtain ⟨k, b⟩ := first
      by_cases heq : k = key
      · rw [List.filter_cons_of_neg (by simpa using heq), ih, heq, lookup_cons_of_ne hne]
      · rw [List.filter_cons_of_pos (by simpa using heq), List.lookup_cons, List.lookup_cons, ih]

theorem lookup_filter_self [DecidableEq α] :
    (entries.filter fun e => e.1 ≠ key).lookup key = none := by
  rw [List.lookup_eq_none_iff]
  intro e he
  have hne : e.1 ≠ key := by simpa using (List.mem_filter.mp he).2
  simpa using Ne.symm hne

omit [LawfulBEq α] in
theorem lookup_map_values (entries : List (α × β)) (f : β → γ) (key : α) :
    (entries.map fun e => (e.1, f e.2)).lookup key = (entries.lookup key).map f := by
  induction entries with
  | nil => rfl
  | cons first rest ih =>
      rw [List.map_cons, List.lookup_cons, List.lookup_cons, ih]
      split <;> rfl

/-- To go through entries is to go through their keys, if no key has two of them. -/
theorem filterMap_entries (hnodup : (entries.map Prod.fst).Nodup) (f : α → β → Option γ) :
    (entries.filterMap fun e => f e.1 e.2) =
      (entries.map Prod.fst).filterMap fun key => (entries.lookup key).bind (f key) := by
  induction entries with
  | nil => rfl
  | cons first rest ih =>
      obtain ⟨k, b⟩ := first
      obtain ⟨hfirst, hrest⟩ := List.nodup_cons.mp hnodup
      have hsame : ∀ key ∈ rest.map Prod.fst,
          (List.lookup key ((k, b) :: rest)).bind (f key) = (rest.lookup key).bind (f key) := by
        intro key hkey
        rw [lookup_cons_of_ne]
        rintro rfl
        exact hfirst hkey
      rw [List.filterMap_cons, ih hrest, List.map_cons, List.filterMap_cons,
        List.lookup_cons_self, Option.bind_some, List.filterMap_congr hsame]

end Lookups

section Distinct

variable {α : Type} [BEq α] [LawfulBEq α]

theorem eraseDups_append_singleton [DecidableEq α] (keys : List α) (key : α) :
    (keys ++ [key]).eraseDups =
      if key ∈ keys then keys.eraseDups else keys.eraseDups ++ [key] := by
  rw [List.eraseDups_append, List.removeAll]
  by_cases h : key ∈ keys
  · rw [if_pos h, List.filter_cons_of_neg (by simpa using h)]
    simp
  · rw [if_neg h, List.filter_cons_of_pos (by simpa using h)]
    simp [List.eraseDups_cons]

theorem nodup_eraseDups [DecidableEq α] (keys : List α) : keys.eraseDups.Nodup := by
  induction keys using List.reverseRecOn with
  | nil => exact List.nodup_nil
  | append_singleton keys key ih =>
    rw [eraseDups_append_singleton]
    split
    · exact ih
    · next h => exact ih.append (List.nodup_singleton key) (by simpa using h)

end Distinct

end RenderKit
