import RenderKit.Uniform

set_option autoImplicit false

/-! # Values of uniforms by name

Values are kept in the order in which their names first came. A table says for each name at which
place it stands, and stays in step with the values. -/

namespace RenderKit

structure NamedUniforms where
  entries : List (String × UniformValue)
  /-- The place of each name among the entries. -/
  places : List (String × Nat)
  /-- A name is looked up at a place exactly if it stands there. -/
  indexed : ∀ name i, places.lookup name = some i ↔ entries[i]?.map Prod.fst = some name
deriving DecidableEq

namespace NamedUniforms

def empty : NamedUniforms := ⟨[], [], fun _ _ => by simp⟩

variable (us : NamedUniforms) {name : String} {i : Nat}

theorem lt_length (h : us.places.lookup name = some i) : i < us.entries.length := by
  obtain ⟨e, he, -⟩ := Option.map_eq_some_iff.mp ((us.indexed name i).mp h)
  exact (List.getElem?_eq_some_iff.mp he).1

/-- The value under a name. -/
def find? (name : String) : Option UniformValue :=
  match h : us.places.lookup name with
  | some i => some (us.entries.get ⟨i, us.lt_length h⟩).2
  | none => none

theorem map_fst_modify (entries : List (String × UniformValue)) (i j : Nat) (a : UniformValue) :
    (entries.modify i fun e => (e.1, a))[j]?.map Prod.fst = entries[j]?.map Prod.fst := by
  rw [List.getElem?_modify]
  split <;> cases entries[j]? <;> rfl

/-- A name that is new gets the place behind all others. -/
theorem indexed_concat (hnew : us.places.lookup name = none) (a : UniformValue) (other : String)
    (i : Nat) :
    ((name, us.entries.length) :: us.places).lookup other = some i ↔
      (us.entries ++ [(name, a)])[i]?.map Prod.fst = some other := by
  rcases Nat.lt_trichotomy i us.entries.length with hlt | rfl | hgt
  · rw [List.getElem?_append_left hlt, ← us.indexed]
    by_cases h : other = name
    · subst h
      simp [hnew, Nat.ne_of_gt hlt]
    · rw [List.lookup_cons, beq_false_of_ne h]
  · by_cases h : other = name
    · simp [h]
    · have hold : us.places.lookup other ≠ some us.entries.length :=
        fun hplace => Nat.lt_irrefl _ (us.lt_length hplace)
      simp [List.lookup_cons, beq_false_of_ne h, hold, Ne.symm h]
  · have hout : (us.entries ++ [(name, a)])[i]? = none := by
      rw [List.getElem?_eq_none_iff, List.length_append, List.length_singleton]
      omega
    rw [hout]
    by_cases h : other = name
    · simp [h, Nat.ne_of_lt hgt]
    · have hold : us.places.lookup other ≠ some i :=
        fun hplace => Nat.lt_asymm hgt (us.lt_length hplace)
      simp [List.lookup_cons, beq_false_of_ne h, hold]

/-- Put a value under a name, at the place of the name if it is not new. -/
def put (name : String) (a : UniformValue) : NamedUniforms :=
  match h : us.places.lookup name with
  | some i =>
      { entries := us.entries.modify i fun e => (e.1, a)
        places := us.places
        indexed := fun other j => by rw [map_fst_modify, us.indexed] }
  | none =>
      { entries := us.entries ++ [(name, a)]
        places := (name, us.entries.length) :: us.places
        indexed := us.indexed_concat h a }

/-! ## Lookups -/

theorem find?_eq : us.find? name =
    (us.places.lookup name).bind fun i => us.entries[i]?.map Prod.snd := by
  unfold find?
  split
  · rename_i i h
    simp [h, us.lt_length h]
  · rename_i h
    simp [h]

theorem put_of_known {a : UniformValue} (h : us.places.lookup name = some i) :
    (us.put name a).entries = us.entries.modify i (fun e => (e.1, a)) ∧
      (us.put name a).places = us.places := by
  unfold put
  split
  · rename_i j hj
    obtain rfl := Option.some_inj.mp (h.symm.trans hj)
    exact ⟨rfl, rfl⟩
  · rename_i hj
    rw [h] at hj
    cases hj

theorem put_of_new {a : UniformValue} (h : us.places.lookup name = none) :
    (us.put name a).entries = us.entries ++ [(name, a)] ∧
      (us.put name a).places = (name, us.entries.length) :: us.places := by
  unfold put
  split
  · rename_i j hj
    rw [h] at hj
    cases hj
  · exact ⟨rfl, rfl⟩

/-- What is found under a name is the last value put there. -/
theorem find?_put (us : NamedUniforms) (name other : String) (a : UniformValue) :
    (us.put name a).find? other = if other = name then some a else us.find? other := by
  rw [find?_eq, find?_eq]
  rcases hplace : us.places.lookup name with _ | i
  · obtain ⟨hentries, hplaces⟩ := us.put_of_new (a := a) hplace
    rw [hentries, hplaces]
    by_cases h : other = name
    · simp [h]
    · rw [if_neg h, List.lookup_cons, beq_false_of_ne h]
      rcases hother : us.places.lookup other with _ | j
      · rfl
      · simp [List.getElem?_append_left (us.lt_length hother)]
  · obtain ⟨hentries, hplaces⟩ := us.put_of_known (a := a) hplace
    rw [hentries, hplaces]
    by_cases h : other = name
    · subst h
      simp [hplace, List.getElem?_eq_getElem (us.lt_length hplace)]
    · rw [if_neg h]
      rcases hother : us.places.lookup other with _ | j
      · rfl
      · -- two names do not stand at one place
        have hne : i ≠ j := by
          rintro rfl
          have hnames := ((us.indexed other i).mp hother).symm.trans ((us.indexed name i).mp hplace)
          exact h (Option.some_inj.mp hnames)
        rw [Option.bind_some, Option.bind_some, List.getElem?_modify_ne _ _ hne]

theorem mem_names_iff : name ∈ us.entries.map Prod.fst ↔ ∃ i, us.places.lookup name = some i := by
  simp only [us.indexed, List.mem_iff_getElem?, List.getElem?_map]

/-- Names stay where they came first. -/
theorem names_put (us : NamedUniforms) (name : String) (a : UniformValue) :
    (us.put name a).entries.map Prod.fst =
      if name ∈ us.entries.map Prod.fst then us.entries.map Prod.fst
      else us.entries.map Prod.fst ++ [name] := by
  rcases hplace : us.places.lookup name with _ | i
  · rw [(us.put_of_new hplace).1, if_neg (by simp [us.mem_names_iff, hplace])]
    simp
  · rw [(us.put_of_known hplace).1, if_pos (us.mem_names_iff.mpr ⟨i, hplace⟩)]
    exact List.ext_getElem? fun j => by rw [List.getElem?_map, List.getElem?_map, map_fst_modify]

/-- The place of a name is that of the first entry under it. -/
theorem find?_eq_lookup : us.find? name = us.entries.lookup name := by
  rw [find?_eq]
  rcases hplace : us.places.lookup name with _ | i
  · refine (List.lookup_eq_none_iff.mpr fun e he => ?_).symm
    have hnot : name ∉ us.entries.map Prod.fst := by simp [us.mem_names_iff, hplace]
    refine bne_iff_ne.mpr fun h => hnot ?_
    rw [h]
    exact List.mem_map_of_mem he
  · obtain ⟨e, he, rfl⟩ := Option.map_eq_some_iff.mp ((us.indexed name i).mp hplace)
    obtain ⟨hlt, rfl⟩ := List.getElem?_eq_some_iff.mp he
    rw [Option.bind_some, he]
    refine (List.lookup_eq_some_iff.mpr ⟨us.entries.take i, us.entries.drop (i + 1), ?_, ?_⟩).symm
    · rw [← List.drop_eq_getElem_cons hlt, List.take_append_drop]
    · intro other hother
      obtain ⟨j, hj, rfl⟩ := List.mem_take_iff_getElem.mp hother
      -- the name would stand at two places
      refine bne_iff_ne.mpr fun h => ?_
      have hfirst : us.places.lookup (us.entries[i].1) = some j :=
        (us.indexed _ _).mpr (by rw [List.getElem?_eq_getElem (by omega), Option.map_some, h])
      have hsame : i = j := Option.some_inj.mp (hplace.symm.trans hfirst)
      omega

end NamedUniforms

end RenderKit
