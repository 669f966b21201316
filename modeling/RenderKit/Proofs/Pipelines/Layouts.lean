import Mathlib.Data.List.Duplicate
import RenderKit.Proofs.Meshes.Bounds

set_option autoImplicit false

/-! # Construction of layouts

Which attributes make a layout is a matter of numbers: their locations are distinct, and a stride
that is given reaches the end of each. Anything else is an error, with one exception. Ends are
counted in 32 bits, and where one of them lies beyond, the construction is cut off before the stride
is looked at, although no stride would do. -/

namespace RenderKit

namespace VertexLayout

/-! ## What can be asked of attributes -/

section Attributes

variable (attributes : List VertexAttribute) (stride? : Option UInt32)

/-- No location is declared twice. -/
def Distinct : Prop := (attributes.map (·.location)).Nodup

/-- 32 bits can hold the end of every attribute. -/
def InRange : Prop := ∀ a ∈ attributes, a.fullEnd < 2 ^ 32

/-- A stride that is given holds every attribute. -/
def Holds : Prop := ∀ stride ∈ stride?, ∀ a ∈ attributes, a.fullEnd ≤ stride.toNat

/-- A sound layout of some attributes: it has all of them in order, they are at different
    locations, and each ends within the stride. A stride that is given is kept, and otherwise the
    stride is the end of the attribute that ends last. -/
structure Lays (l : VertexLayout) : Prop where
  same : l.attributes = attributes
  distinct : Distinct attributes
  within : ∀ a ∈ attributes, a.fullEnd ≤ l.stride.toNat
  kept : ∀ stride ∈ stride?, l.stride = stride
  reached : stride? = none → attributes ≠ [] → ∃ a ∈ attributes, a.fullEnd = l.stride.toNat
  empty : stride? = none → attributes = [] → l.stride = 0

end Attributes

variable {attributes : List VertexAttribute} {stride? : Option UInt32} {l l' : VertexLayout}

theorem inRange_iff : InRange attributes ↔ attributes.all VertexAttribute.endFits = true := by
  simp [InRange, VertexAttribute.endFits, UInt32.size]

theorem holds_some_iff {stride : UInt32} :
    Holds attributes (some stride) ↔ packed attributes ≤ stride.toNat := by
  simp [Holds, packed_le_iff]

theorem repeatedLocation?_eq_none_iff {seen : List UInt32} :
    repeatedLocation? seen attributes = none ↔
      (∀ a ∈ attributes, a.location ∉ seen) ∧ Distinct attributes := by
  refine ⟨nodup_of_repeatedLocation?, ?_⟩
  induction attributes generalizing seen with
  | nil => exact fun _ => rfl
  | cons a rest ih =>
    rintro ⟨hseen, hdistinct⟩
    obtain ⟨ha, hrest⟩ := List.forall_mem_cons.mp hseen
    obtain ⟨hnew, hdistinct⟩ := List.nodup_cons.mp hdistinct
    rw [repeatedLocation?, if_neg (by simpa using ha)]
    refine ih ⟨fun b hb hmem => ?_, hdistinct⟩
    rcases List.mem_cons.mp hmem with hsame | hmem
    · exact hnew (List.mem_map.mpr ⟨b, hb, hsame⟩)
    · exact hrest b hb hmem

/-- The location that is reported was seen before, or is declared twice. -/
theorem seen_or_duplicate {seen : List UInt32} {location : UInt32}
    (h : repeatedLocation? seen attributes = some location) :
    (location ∈ seen ∧ location ∈ attributes.map (·.location)) ∨
      List.Duplicate location (attributes.map (·.location)) := by
  induction attributes generalizing seen with
  | nil => cases h
  | cons a rest ih =>
    rw [repeatedLocation?] at h
    split at h
    · rename_i hseen
      obtain rfl := Option.some.inj h
      exact .inl ⟨by simpa using hseen, List.mem_cons_self⟩
    · rcases ih h with ⟨hmem, hrest⟩ | hrest
      · rcases List.mem_cons.mp hmem with rfl | hmem
        · exact .inr hrest.duplicate_cons_self
        · exact .inl ⟨hmem, List.mem_cons_of_mem _ hrest⟩
      · exact .inr (hrest.duplicate_cons _)

/-- Some attribute ends last, unless there is none. -/
theorem exists_fullEnd_eq_packed (h : attributes ≠ []) :
    ∃ a ∈ attributes, a.fullEnd = packed attributes := by
  -- otherwise all of them would end before that, and the last end with them
  by_contra hnone
  push Not at hnone
  have hless : ∀ a ∈ attributes, a.fullEnd < packed attributes := fun a ha =>
    lt_of_le_of_ne (packed_le_iff.mp le_rfl a ha) (hnone a ha)
  have hle : packed attributes ≤ packed attributes - 1 :=
    packed_le_iff.mpr fun a ha => Nat.le_sub_one_of_lt (hless a ha)
  obtain ⟨a, ha⟩ := List.exists_mem_of_ne_nil attributes h
  have hlt := hless a ha
  omega

namespace Lays

theorem inRange (h : Lays attributes stride? l) : InRange attributes := fun a ha =>
  lt_of_le_of_lt (h.within a ha) l.stride.toNat_lt

theorem holds (h : Lays attributes stride? l) : Holds attributes stride? := fun _ hstride a ha =>
  h.kept _ hstride ▸ h.within a ha

/-- Attributes and stride leave no choice. -/
theorem unique (h : Lays attributes stride? l) (h' : Lays attributes stride? l') : l = l' := by
  have hstride : l.stride = l'.stride := by
    cases stride? with
    | some stride => rw [h.kept stride rfl, h'.kept stride rfl]
    | none =>
      by_cases hnil : attributes = []
      · rw [h.empty rfl hnil, h'.empty rfl hnil]
      · obtain ⟨a, ha, hlast⟩ := h.reached rfl hnil
        obtain ⟨b, hb, hlast'⟩ := h'.reached rfl hnil
        apply UInt32.toNat_inj.mp
        have hab := h'.within a ha
        have hba := h.within b hb
        omega
  have hattributes := h.same.trans h'.same.symm
  cases l
  cases l'
  simp_all

end Lays

/-! ## What the construction comes to -/

section Making

variable {S : Type} [HasJournal S] {s : S}

/-- How the construction ends. -/
def made (attributes : List VertexAttribute) (stride? : Option UInt32) (s : S) :
    Except Halt VertexLayout :=
  ((make attributes stride?).run.run s).1

/-- The error names a location that is declared twice. -/
theorem made_of_not_distinct (h : ¬Distinct attributes) (stride? : Option UInt32) (s : S) :
    ∃ location, List.Duplicate location (attributes.map (·.location)) ∧
      made attributes stride? s =
        .error (.error (Cause.error (Problem.locationTwice location))) := by
  cases hrepeated : repeatedLocation? [] attributes with
  | none => exact absurd (repeatedLocation?_eq_none_iff.mp hrepeated).2 h
  | some location =>
    have hduplicate : List.Duplicate location (attributes.map (·.location)) :=
      (seen_or_duplicate hrepeated).resolve_left fun h => absurd h.1 List.not_mem_nil
    refine ⟨location, hduplicate, ?_⟩
    rw [made, make, hrepeated]
    rfl

theorem repeatedLocation?_of_distinct (h : Distinct attributes) :
    repeatedLocation? [] attributes = none :=
  repeatedLocation?_eq_none_iff.mpr ⟨fun _ _ => List.not_mem_nil, h⟩

theorem made_of_not_inRange (hdistinct : Distinct attributes) (h : ¬InRange attributes) :
    made attributes stride? s = .error .abort := by
  rw [made, make, repeatedLocation?_of_distinct hdistinct]
  dsimp only
  rw [if_neg (mt inRange_iff.mpr h)]
  rfl

/-- The error names the stride and the end that it should have reached. -/
theorem made_of_not_holds (hdistinct : Distinct attributes) (hrange : InRange attributes)
    (h : ¬Holds attributes stride?) (s : S) :
    ∃ stride ∈ stride?, stride.toNat < packed attributes ∧
      made attributes stride? s =
        .error (.error (Cause.error (Problem.strideTooSmall stride (packed attributes)))) := by
  cases stride? with
  | none => exact absurd nofun h
  | some stride =>
    have hless : stride.toNat < packed attributes := Nat.lt_of_not_le (mt holds_some_iff.mpr h)
    refine ⟨stride, rfl, hless, ?_⟩
    rw [made, make, repeatedLocation?_of_distinct hdistinct]
    dsimp only
    rw [if_pos (inRange_iff.mp hrange), if_pos hless]
    rfl

theorem made_of_holds (hdistinct : Distinct attributes) (hrange : InRange attributes)
    (h : Holds attributes stride?) (s : S) :
    ∃ l, Lays attributes stride? l ∧ made attributes stride? s = .ok l := by
  have hfits := inRange_iff.mp hrange
  rw [made, make, repeatedLocation?_of_distinct hdistinct]
  dsimp only
  rw [if_pos hfits]
  cases stride? with
  | some stride =>
    rw [holds_some_iff] at h
    refine ⟨⟨attributes, stride⟩, ⟨rfl, hdistinct, packed_le_iff.mp h, by simp, nofun, nofun⟩, ?_⟩
    simp only [if_neg (Nat.not_lt.mpr h)]
    rfl
  | none =>
    have hstride := toNat_packed hfits
    refine ⟨⟨attributes, (packed attributes).toUInt32⟩, ⟨rfl, hdistinct, ?_, nofun, ?_, ?_⟩, rfl⟩
    · exact packed_le_iff.mp hstride.ge
    · intro _ hne
      rw [hstride]
      exact exists_fullEnd_eq_packed hne
    · rintro - rfl
      rfl

/-- What becomes of any attributes with any stride. A layout is sound, and every sound layout is
    made. It is an error of format exactly if a location is declared twice, and otherwise an error
    of state exactly if a stride is given that some attribute ends behind, all ends being within
    32 bits. Construction is cut off exactly if there is an attribute that ends beyond them, at
    locations that differ. -/
theorem made_iff (attributes : List VertexAttribute) (stride? : Option UInt32) (s : S) :
    (∀ l, made attributes stride? s = .ok l ↔ Lays attributes stride? l) ∧
    ((∃ l, made attributes stride? s = .ok l) ↔
      Distinct attributes ∧ InRange attributes ∧ Holds attributes stride?) ∧
    ((∃ e, made attributes stride? s = .error (.error e) ∧ e.kind = .invalidFormat) ↔
      ¬Distinct attributes) ∧
    ((∃ e, made attributes stride? s = .error (.error e) ∧ e.kind = .invalidState) ↔
      Distinct attributes ∧ InRange attributes ∧
        ∃ stride ∈ stride?, ∃ a ∈ attributes, stride.toNat < a.fullEnd) ∧
    (made attributes stride? s = .error .abort ↔
      Distinct attributes ∧ ∃ a ∈ attributes, 2 ^ 32 ≤ a.fullEnd) := by
  have hbeyond : (∃ a ∈ attributes, 2 ^ 32 ≤ a.fullEnd) ↔ ¬InRange attributes := by
    simp [InRange]
  have hnarrow : (∃ stride ∈ stride?, ∃ a ∈ attributes, stride.toNat < a.fullEnd) ↔
      ¬Holds attributes stride? := by
    simp [Holds]
  rw [hbeyond, hnarrow]
  have hlays : ∀ l, Lays attributes stride? l →
      Distinct attributes ∧ InRange attributes ∧ Holds attributes stride? := fun l h =>
    ⟨h.distinct, h.inRange, h.holds⟩
  by_cases hdistinct : Distinct attributes
  case neg =>
    obtain ⟨location, -, h⟩ := made_of_not_distinct hdistinct stride? s
    rw [h]
    have hkind : (Cause.error (Problem.locationTwice location)).kind = .invalidFormat := rfl
    refine ⟨fun l => ⟨nofun, fun hl => absurd hl.distinct hdistinct⟩, ?_⟩
    simp [hdistinct, hkind]
  by_cases hrange : InRange attributes
  case neg =>
    rw [made_of_not_inRange hdistinct hrange]
    refine ⟨fun l => ⟨nofun, fun hl => absurd hl.inRange hrange⟩, ?_⟩
    simp [hdistinct, hrange]
  by_cases hholds : Holds attributes stride?
  case neg =>
    obtain ⟨stride, -, -, h⟩ := made_of_not_holds hdistinct hrange hholds s
    rw [h]
    have hkind : (Cause.error (Problem.strideTooSmall stride (packed attributes))).kind =
      .invalidState := rfl
    refine ⟨fun l => ⟨nofun, fun hl => absurd hl.holds hholds⟩, ?_⟩
    simp [hdistinct, hrange, hholds, hkind]
  obtain ⟨l, hl, h⟩ := made_of_holds hdistinct hrange hholds s
  rw [h]
  refine ⟨fun l' => ⟨?_, fun hl' => by rw [hl.unique hl']⟩, ?_⟩
  · rintro ⟨⟩
    exact hl
  · simp [hdistinct, hrange, hholds]

end Making

/-- Two numbers in the last byte that 32 bits can count. -/
def lastByte : VertexAttribute := ⟨0, .uint2, 0xFFFFFFFF, false⟩

/-- A stride of 16 bytes is too small for it, and so is every other one, but neither is reported. -/
theorem last_byte_unreported :
    (16 : UInt32).toNat < lastByte.fullEnd ∧ (∀ stride : UInt32, stride.toNat < lastByte.fullEnd) ∧
      made [lastByte] (some 16) (#[] : Journal) = .error .abort ∧
      made [lastByte] none (#[] : Journal) = .error .abort :=
  ⟨by decide, fun stride => lt_of_lt_of_le stride.toNat_lt (by decide), rfl, rfl⟩

end VertexLayout

end RenderKit
