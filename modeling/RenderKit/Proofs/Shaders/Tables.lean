import RenderKit.Proofs.Keys
import RenderKit.Proofs.Shaders.Interfaces

set_option autoImplicit false

/-! # Names that occur more than once

A reflection can be asked for a name in two ways, by its tables and by looking through its lists.
Both know the same names. They need not say the same about them: blocks can have members of one
name, and of these a table has the last and a look through the list finds the first. So the two
ways agree about a name exactly if its first and its last entry have the same number. -/

namespace RenderKit.Reflection

/-! ## Tables -/

section Tables

variable {table : List (String × Nat)} {name other : String} {n : Nat}

theorem lookup_map_put (h : other ≠ name) :
    (table.map fun e => if e.1 == name then (name, n) else e).lookup other =
      table.lookup other := by
  induction table with
  | nil => rfl
  | cons e rest ih =>
    rw [List.map_cons, lookup_cons_eq, lookup_cons_eq, ih]
    by_cases hkey : e.1 = name
    · simp [hkey, h]
    · simp [hkey]

/-- The name at the front of a table is replaced there, or the search goes on behind it. -/
theorem put_cons (e : String × Nat) (table : List (String × Nat)) (name : String) (n : Nat) :
    put (e :: table) name n =
      if e.1 = name then (name, n) :: table.map fun e => if e.1 == name then (name, n) else e
      else e :: put table name n := by
  by_cases h : e.1 = name
  · simp [put, h]
  · simp only [put, List.any_cons, beq_eq_false_iff_ne.mpr h, Bool.false_or, List.map_cons,
      Bool.false_eq_true, if_false, if_neg h, List.cons_append]
    split <;> rfl

theorem lookup_put (table : List (String × Nat)) (name : String) (n : Nat) (other : String) :
    (put table name n).lookup other = if other = name then some n else table.lookup other := by
  induction table with
  | nil => exact lookup_cons_eq (name, n) [] other
  | cons e rest ih =>
    rw [put_cons]
    split
    · next hkey =>
      rw [lookup_cons_eq, lookup_cons_eq, hkey]
      split
      · rfl
      · next hother => exact lookup_map_put hother
    · next hkey =>
      rw [lookup_cons_eq, ih, lookup_cons_eq]
      by_cases hother : other = e.1
      · rw [if_pos hother, if_pos hother, if_neg fun h => hkey (hother ▸ h)]
      · rw [if_neg hother, if_neg hother]

theorem keys_put (table : List (String × Nat)) (name : String) (n : Nat) :
    (put table name n).map Prod.fst =
      if name ∈ table.map Prod.fst then table.map Prod.fst else table.map Prod.fst ++ [name] := by
  have hany : (table.any fun e => e.1 == name) = true ↔ name ∈ table.map Prod.fst := by
    simp [List.any_eq_true]
  unfold put
  by_cases h : name ∈ table.map Prod.fst
  · rw [if_pos (hany.mpr h), if_pos h, List.map_map]
    refine List.map_congr_left fun e _ => ?_
    by_cases he : e.1 = name <;> simp [he]
  · rw [if_neg (mt hany.mp h), if_neg h, List.map_append, List.map_singleton]

end Tables

/-- A table by name with the last number of every name among some entries. `found` is what a look
    through the entries finds, which is the first entry of a name. -/
structure KeepsLast {α : Type} (entries : List α) (name : α → String) (number : α → Nat)
    (found : String → Option α) (table : List (String × Nat)) : Prop where
  once : (table.map Prod.fst).Nodup
  names : ∀ n, n ∈ table.map Prod.fst ↔ n ∈ entries.map name
  last : ∀ n, table.lookup n = ((entries.filter fun a => name a = n).getLast?).map number
  first : ∀ n, found n = (entries.filter fun a => name a = n).head?
  agrees_iff : ∀ n, table.lookup n = (found n).map number ↔
    ((entries.filter fun a => name a = n).head?).map number =
      ((entries.filter fun a => name a = n).getLast?).map number

section Entries

variable {α : Type} (name : α → String) (number : α → Nat)

theorem table_append (entries : List α) (a : α) :
    table ((entries ++ [a]).map fun a => (name a, number a)) =
      put (table (entries.map fun a => (name a, number a))) (name a) (number a) := by
  rw [table, table, List.map_append, List.foldl_append]
  rfl

theorem mem_keys_table (entries : List α) (n : String) :
    n ∈ (table (entries.map fun a => (name a, number a))).map Prod.fst ↔
      n ∈ entries.map name := by
  induction entries using List.reverseRecOn with
  | nil => rfl
  | append_singleton entries a ih =>
    rw [table_append, keys_put, List.map_append, List.mem_append, ← ih, List.map_singleton,
      List.mem_singleton]
    split
    · next h => exact ⟨.inl, fun hn => hn.elim id fun hn => hn ▸ h⟩
    · rw [List.mem_append, List.mem_singleton]

theorem nodup_keys_table (entries : List α) :
    ((table (entries.map fun a => (name a, number a))).map Prod.fst).Nodup := by
  induction entries using List.reverseRecOn with
  | nil => exact List.nodup_nil
  | append_singleton entries a ih =>
    rw [table_append, keys_put]
    split
    · exact ih
    · next h => exact ih.append (List.nodup_singleton _) (by simpa using h)

theorem lookup_table (entries : List α) (n : String) :
    (table (entries.map fun a => (name a, number a))).lookup n =
      ((entries.filter fun a => name a = n).getLast?).map number := by
  induction entries using List.reverseRecOn with
  | nil => rfl
  | append_singleton entries a ih =>
    rw [table_append, lookup_put, ih, List.filter_append]
    by_cases h : n = name a
    · rw [if_pos h, List.filter_cons_of_pos (by simpa using h.symm)]
      simp
    · rw [if_neg h, List.filter_cons_of_neg (by simpa using Ne.symm h)]
      simp

theorem keepsLast_table (entries : List α) :
    KeepsLast entries name number (fun n => entries.find? fun a => name a == n)
      (table (entries.map fun a => (name a, number a))) := by
  have hfirst : ∀ n, (entries.find? fun a => name a == n) =
      (entries.filter fun a => name a = n).head? := fun n => by
    rw [List.head?_filter]
    rfl
  refine ⟨nodup_keys_table name number entries, mem_keys_table name number entries,
    lookup_table name number entries, hfirst, fun n => ?_⟩
  rw [lookup_table, hfirst, eq_comm]

end Entries

/-- Each table has the names of its list, once, with the number of the last entry. It agrees with a
    look through the list about the names whose first and last entry have the same number. -/
theorem tables_keep_last (r : Reflection) :
    KeepsLast r.uniforms UniformInfo.name UniformInfo.location r.uniform? r.uniformLocations ∧
    KeepsLast r.samplers SamplerInfo.name SamplerInfo.binding r.sampler? r.samplerBindings ∧
    KeepsLast r.attributes AttributeInfo.name AttributeInfo.location r.attribute?
      r.attributeLocations :=
  ⟨keepsLast_table _ _ r.uniforms, keepsLast_table _ _ r.samplers, keepsLast_table _ _ r.attributes⟩

/-- A vertex shader with two inputs, two images and members of two blocks that share a name. -/
def twins : List UInt32 :=
  Spirv.write
    { types := [.scalar ⟨.float, 4⟩, .vector 4 ⟨.float, 4⟩,
        .struct [⟨some "density", 0, none⟩, ⟨some "color", 1, none⟩],
        .struct [⟨some "color", 1, none⟩], .image .d2 .sampled false]
      globals := [⟨some "fog", .uniform, some ⟨0, 0⟩, 2⟩, ⟨some "tint", .uniform, some ⟨0, 1⟩, 3⟩,
        ⟨some "map", .handle, some ⟨0, 2⟩, 4⟩, ⟨some "map", .handle, some ⟨0, 3⟩, 4⟩]
      entries := [⟨"main", .vertex,
        [⟨some "a_place", 1, some (.location 0)⟩, ⟨some "a_place", 1, some (.location 1)⟩],
        [], [0, 1, 2, 3], (1, 1, 1)⟩] }

/-- The tables have the second of the twins, and a look through the lists finds the first. -/
theorem tables_differ_twins :
    ∃ r, inspectBytecode twins .vertex = .ok r ∧
      r.uniformLocations.lookup "color" = some 0 ∧
      (r.uniform? "color").map UniformInfo.location = some 1 ∧
      r.samplerBindings.lookup "map" = some 3 ∧
      (r.sampler? "map").map SamplerInfo.binding = some 2 ∧
      r.attributeLocations.lookup "a_place" = some 1 ∧
      (r.attribute? "a_place").map AttributeInfo.location = some 0 := by
  have hlisted : listed twins = some
      ([⟨0, "a_place", .vec4, 0⟩, ⟨1, "a_place", .vec4, 0⟩],
       [⟨some 0, 0, "density", .float, 4⟩, ⟨some 0, 1, "color", .vec4, 16⟩,
        ⟨some 1, 0, "color", .vec4, 16⟩],
       [⟨2, "map", .sampler2D⟩, ⟨3, "map", .sampler2D⟩]) := by decide +kernel
  obtain ⟨r, hr⟩ := exists_ok_of_isSome_toOption
    (by decide +kernel : (inspectBytecode twins .vertex).toOption.isSome)
  have heq : r = ⟨[⟨0, "a_place", .vec4, 0⟩, ⟨1, "a_place", .vec4, 0⟩],
      [⟨some 0, 0, "density", .float, 4⟩, ⟨some 0, 1, "color", .vec4, 16⟩,
        ⟨some 1, 0, "color", .vec4, 16⟩],
      [⟨2, "map", .sampler2D⟩, ⟨3, "map", .sampler2D⟩]⟩ :=
    (eq_of_listed hr hlisted).trans (by cbv)
  rw [heq] at hr
  exact ⟨_, hr, by decide, by decide, by decide, by decide, by decide, by decide⟩

end RenderKit.Reflection
