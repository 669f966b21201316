import Mathlib.Data.EReal.Basic
import Mathlib.Data.Int.ConditionallyCompleteOrder
import Mathlib.Order.Monotone.Basic
import RenderKit.Number.Binary32

set_option autoImplicit false

/-! # What numbers stand for

A pattern stands for an extended real number, or for none if it is a NaN. Comparisons look at
patterns only, at their places on the line, and still are the comparisons of the numbers that the
patterns stand for: a larger place is a larger number, and a NaN compares with nothing. -/

namespace RenderKit.Binary32

/-- The real number of a finite pattern. -/
noncomputable def real (x : Binary32) : ℝ :=
  (if x.negative then -1 else 1) * (x.parts.1 * 2 ^ x.parts.2)

/-- The number a pattern stands for. -/
noncomputable def value? (x : Binary32) : Option EReal :=
  if x.isNaN then none
  else if x.isInfinite then some (if x.negative then ⊥ else ⊤)
  else some x.real

/-! ## Places on the line -/

/-- The absolute value of a finite pattern in units of the smallest positive number. -/
def units (magnitude : Nat) : Nat :=
  if magnitude / 0x800000 = 0 then magnitude % 0x800000
  else (magnitude % 0x800000 + 0x800000) * 2 ^ (magnitude / 0x800000 - 1)

theorem units_lt_succ (n : Nat) : units n < units (n + 1) := by
  by_cases hlast : n % 0x800000 + 1 = 0x800000
  · -- the next pattern begins the next exponent
    have hexponent : (n + 1) / 0x800000 = n / 0x800000 + 1 := by omega
    have hfraction : (n + 1) % 0x800000 = 0 := by omega
    have hnext : units (n + 1) = 0x800000 * 2 ^ (n / 0x800000) := by
      simp [units, hexponent, hfraction]
    rw [hnext, units]
    split
    · rename_i hzero
      rw [hzero]
      omega
    · rename_i hne
      obtain ⟨e, he⟩ := Nat.exists_eq_succ_of_ne_zero hne
      rw [he, Nat.succ_sub_one, Nat.succ_eq_add_one, pow_succ]
      have hpos : 0 < 2 ^ e := Nat.two_pow_pos e
      calc (n % 0x800000 + 0x800000) * 2 ^ e
          < (0x800000 + 0x800000) * 2 ^ e := Nat.mul_lt_mul_of_pos_right (by omega) hpos
        _ = 0x800000 * (2 ^ e * 2) := by ring
  · have hexponent : (n + 1) / 0x800000 = n / 0x800000 := by omega
    have hfraction : (n + 1) % 0x800000 = n % 0x800000 + 1 := by omega
    rw [units, units, hexponent, hfraction]
    split
    · exact Nat.lt_succ_self _
    · exact Nat.mul_lt_mul_of_pos_right (by omega) (Nat.two_pow_pos _)

theorem units_strictMono : StrictMono units := strictMono_nat_of_lt_succ units_lt_succ

@[simp] theorem units_zero : units 0 = 0 := rfl

/-- The units of a place, negative on the left of zero. -/
def signedUnits (rank : Int) : Int :=
  if rank < 0 then -(units rank.natAbs : Int) else units rank.natAbs

theorem signedUnits_strictMono : StrictMono signedUnits := by
  intro r s h
  unfold signedUnits
  split
  · rename_i hr
    split
    · exact Int.neg_lt_neg (by exact_mod_cast units_strictMono (by omega))
    · have hpos : 0 < units r.natAbs := by simpa using units_strictMono (show 0 < r.natAbs by omega)
      omega
  · rw [if_neg (by omega)]
    exact_mod_cast units_strictMono (by omega)

/-- The number at a place. -/
noncomputable def atRank (rank : Int) : EReal :=
  if rank = 0x7f800000 then ⊤
  else if rank = -0x7f800000 then ⊥
  else ((signedUnits rank * 2 ^ (-149 : Int) : ℝ) : EReal)

theorem atRank_strictMonoOn :
    StrictMonoOn atRank (Set.Icc (-0x7f800000) 0x7f800000) := by
  rintro r ⟨hr, -⟩ s ⟨-, hs⟩ h
  have hr' : r ≠ 0x7f800000 := by omega
  have hs' : s ≠ -0x7f800000 := by omega
  rw [atRank, atRank, if_neg hr', if_neg hs']
  by_cases hbot : r = -0x7f800000
  · rw [if_pos hbot]
    split
    · exact bot_lt_top
    · exact EReal.bot_lt_coe _
  · rw [if_neg hbot]
    split
    · exact EReal.coe_lt_top _
    · refine EReal.coe_lt_coe_iff.mpr (mul_lt_mul_of_pos_right ?_ (by positivity))
      exact_mod_cast signedUnits_strictMono h

/-! ## Values of patterns -/

theorem rank_mem_of_not_isNaN {x : Binary32} (h : x.isNaN = false) :
    x.rank ∈ Set.Icc (-0x7f800000 : Int) 0x7f800000 := by
  have hmagnitude : x.magnitude ≤ 0x7f800000 := by simpa [isNaN] using h
  unfold rank
  split <;> constructor <;> omega

theorem real_eq (x : Binary32) : x.real = signedUnits x.rank * 2 ^ (-149 : Int) := by
  have hparts : (x.parts.1 : ℝ) * 2 ^ x.parts.2 = units x.magnitude * 2 ^ (-149 : Int) := by
    unfold parts units exponent fraction
    split
    · rfl
    · rename_i hne
      obtain ⟨e, he⟩ := Nat.exists_eq_succ_of_ne_zero hne
      have hpower : (2 : ℝ) ^ ((e.succ : Int) - 150) = 2 ^ e * 2 ^ (-149 : Int) := by
        rw [← zpow_natCast, ← zpow_add₀ two_ne_zero]
        congr 1
        push_cast
        ring
      rw [he, hpower]
      push_cast
      ring
  have hsigned : (signedUnits x.rank : ℝ) =
      (if x.negative then -1 else 1) * (units x.magnitude : ℝ) := by
    unfold rank signedUnits
    cases x.negative
    · simp
    · rcases Nat.eq_zero_or_pos x.magnitude with hzero | hpos
      · simp [hzero]
      · simp [hpos]
  rw [real, hparts, hsigned]
  ring

theorem value?_eq_none_iff {x : Binary32} : x.value? = none ↔ x.isNaN := by
  unfold value?
  by_cases hnan : x.isNaN
  · simp [hnan]
  · by_cases hinfinite : x.isInfinite
    · simp [hnan, hinfinite]
    · simp [hnan, hinfinite]

theorem value?_of_not_isNaN {x : Binary32} (h : x.isNaN = false) :
    x.value? = some (atRank x.rank) := by
  rw [value?, if_neg (by simp [h])]
  by_cases hinfinite : x.isInfinite
  · have hmagnitude : x.magnitude = 0x7f800000 := by simpa [isInfinite] using hinfinite
    rw [if_pos hinfinite, atRank, rank, hmagnitude]
    cases x.negative <;> simp
  · have hmagnitude : x.magnitude ≠ 0x7f800000 := by simpa [isInfinite] using hinfinite
    have htop : x.rank ≠ 0x7f800000 := by unfold rank; split <;> omega
    have hbot : x.rank ≠ -0x7f800000 := by unfold rank; split <;> omega
    rw [if_neg hinfinite, atRank, if_neg htop, if_neg hbot, real_eq]

/-! ## Comparisons -/

section Comparisons

variable {x y : Binary32}

/-- Numbers that are related. A NaN is related to nothing. -/
def Relates (R : EReal → EReal → Prop) (x y : Binary32) : Prop :=
  ∃ a ∈ x.value?, ∃ b ∈ y.value?, R a b

/-- Numbers that are related, unless one of them is a NaN. -/
def RelatesUnlessNaN (R : EReal → EReal → Prop) (x y : Binary32) : Prop :=
  ∀ a ∈ x.value?, ∀ b ∈ y.value?, R a b

theorem exists_value_iff {P : EReal → Prop} :
    (∃ a ∈ x.value?, P a) ↔ (∀ a ∈ x.value?, P a) ∧ x.isNaN = false := by
  rw [Bool.eq_false_iff, ne_eq, ← value?_eq_none_iff]
  cases x.value? <;> simp

theorem relates_iff {R : EReal → EReal → Prop} :
    Relates R x y ↔ RelatesUnlessNaN R x y ∧ x.isNaN = false ∧ y.isNaN = false := by
  simp only [Relates, RelatesUnlessNaN, exists_value_iff]
  constructor
  · rintro ⟨h, hx⟩
    obtain ⟨a, ha, -⟩ := exists_value_iff.mpr ⟨h, hx⟩
    exact ⟨fun a ha => (h a ha).1, hx, (h a ha).2⟩
  · rintro ⟨h, hx, hy⟩
    exact ⟨fun a ha => ⟨h a ha, hy⟩, hx⟩

theorem lt_iff : x.lt y ↔ Relates (· < ·) x y := by
  unfold Relates
  by_cases hx : x.isNaN
  · simp [lt, hx, value?_eq_none_iff.mpr hx]
  by_cases hy : y.isNaN
  · simp [lt, hy, value?_eq_none_iff.mpr hy]
  simp only [Bool.not_eq_true] at hx hy
  simp [lt, hx, hy, value?_of_not_isNaN, atRank_strictMonoOn.lt_iff_lt (rank_mem_of_not_isNaN hx)
    (rank_mem_of_not_isNaN hy)]

/-- What is not at most a number is larger, unless there is nothing to compare. -/
theorem le_eq_false_iff : x.le y = false ↔ RelatesUnlessNaN (· < ·) y x := by
  unfold RelatesUnlessNaN
  by_cases hx : x.isNaN
  · simp [le, hx, value?_eq_none_iff.mpr hx]
  by_cases hy : y.isNaN
  · simp [le, hy, value?_eq_none_iff.mpr hy]
  simp only [Bool.not_eq_true] at hx hy
  simp [le, hx, hy, value?_of_not_isNaN, atRank_strictMonoOn.lt_iff_lt (rank_mem_of_not_isNaN hy)
    (rank_mem_of_not_isNaN hx)]

theorem eqv_eq_false_iff : x.eqv y = false ↔ RelatesUnlessNaN (· ≠ ·) x y := by
  unfold RelatesUnlessNaN
  by_cases hx : x.isNaN
  · simp [eqv, hx, value?_eq_none_iff.mpr hx]
  by_cases hy : y.isNaN
  · simp [eqv, hy, value?_eq_none_iff.mpr hy]
  simp only [Bool.not_eq_true] at hx hy
  simp [eqv, hx, hy, value?_of_not_isNaN, atRank_strictMonoOn.injOn.eq_iff
    (rank_mem_of_not_isNaN hx) (rank_mem_of_not_isNaN hy)]

end Comparisons

@[simp] theorem value?_zero : zero.value? = some 0 := by
  rw [value?_of_not_isNaN (by decide)]
  simp [show zero.rank = 0 from by decide, atRank, signedUnits]

end RenderKit.Binary32
