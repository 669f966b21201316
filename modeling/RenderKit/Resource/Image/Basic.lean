set_option autoImplicit false

/-! # Images

An image is a grid of pixels that all have the same number of channels. Its samples are kept row by
row from the top, and in each row pixel by pixel from the left. -/

namespace RenderKit

structure Image (α : Type) where
  width : UInt32
  height : UInt32
  channels : Nat
  /-- The rows from the top to the bottom, each with all its samples. -/
  rows : List (List α)
  length_rows : rows.length = height.toNat
  length_of_mem_rows : ∀ row ∈ rows, row.length = width.toNat * channels
  /-- No memory holds more. -/
  size_lt : width.toNat * height.toNat * channels < 0x8000000000000000
deriving DecidableEq

namespace Image

variable {α : Type}

/-- The image with some rows, if they fill its grid and memory holds them. -/
def ofRows? (width height : UInt32) (channels : Nat) (rows : List (List α)) : Option (Image α) :=
  if h : rows.length = height.toNat ∧ (∀ row ∈ rows, row.length = width.toNat * channels) ∧
      width.toNat * height.toNat * channels < 0x8000000000000000 then
    some ⟨width, height, channels, rows, h.1, h.2.1, h.2.2⟩
  else none

/-- One sample, or nothing outside of the image. -/
def sample? (i : Image α) (row column channel : Nat) : Option α :=
  if column < i.width.toNat ∧ channel < i.channels then
    i.rows[row]?.bind fun samples => samples[column * i.channels + channel]?
  else none

/-- All samples, row after row. -/
def samples (i : Image α) : List α := i.rows.flatten

theorem length_flatten {rows : List (List α)} {n : Nat} (h : ∀ row ∈ rows, row.length = n) :
    rows.flatten.length = rows.length * n := by
  induction rows with
  | nil => simp
  | cons row rest ih =>
      rw [List.flatten_cons, List.length_append, ih fun r hr => h r (List.mem_cons_of_mem _ hr),
        h row List.mem_cons_self, List.length_cons, Nat.succ_mul, Nat.add_comm]

/-- Lists of one length stand in their concatenation at the multiples of that length. -/
theorem getElem?_flatten {rows : List (List α)} {n : Nat} (h : ∀ row ∈ rows, row.length = n)
    (k : Nat) {j : Nat} (hj : j < n) :
    rows.flatten[k * n + j]? = rows[k]?.bind fun row => row[j]? := by
  induction rows generalizing k with
  | nil => simp
  | cons row rest ih =>
      have hlength : row.length = n := h row List.mem_cons_self
      rw [List.flatten_cons]
      cases k with
      | zero =>
          rw [Nat.zero_mul, Nat.zero_add, List.getElem?_append_left (hlength ▸ hj)]
          rfl
      | succ k =>
          rw [Nat.succ_mul, List.getElem?_append_right (by omega), hlength,
            show k * n + n + j - n = k * n + j by omega,
            ih fun r hr => h r (List.mem_cons_of_mem _ hr)]
          rfl

theorem length_samples (i : Image α) :
    i.samples.length = i.width.toNat * i.height.toNat * i.channels := by
  rw [samples, length_flatten i.length_of_mem_rows, i.length_rows, Nat.mul_left_comm,
    Nat.mul_assoc]

section Places

variable (i : Image α) {row column channel : Nat} (hcolumn : column < i.width.toNat)
  (hchannel : channel < i.channels)
include hcolumn hchannel

theorem place_lt : column * i.channels + channel < i.width.toNat * i.channels :=
  calc column * i.channels + channel
    _ < (column + 1) * i.channels := by rw [Nat.succ_mul]; omega
    _ ≤ i.width.toNat * i.channels := Nat.mul_le_mul_right _ hcolumn

/-- The place of a sample among all of them. -/
theorem getElem?_samples (row : Nat) :
    i.samples[(row * i.width.toNat + column) * i.channels + channel]? =
      i.sample? row column channel := by
  rw [samples, Nat.add_mul, Nat.mul_assoc, Nat.add_assoc,
    getElem?_flatten i.length_of_mem_rows row (i.place_lt hcolumn hchannel), sample?,
    if_pos ⟨hcolumn, hchannel⟩]

theorem exists_sample (hrow : row < i.height.toNat) :
    ∃ sample, i.sample? row column channel = some sample := by
  have hlt : row < i.rows.length := i.length_rows.symm ▸ hrow
  have hplace : column * i.channels + channel < i.rows[row].length := by
    rw [i.length_of_mem_rows _ (List.getElem_mem hlt)]
    exact i.place_lt hcolumn hchannel
  refine ⟨i.rows[row][column * i.channels + channel], ?_⟩
  rw [sample?, if_pos ⟨hcolumn, hchannel⟩, List.getElem?_eq_getElem hlt, Option.bind_some,
    List.getElem?_eq_getElem hplace]

end Places

/-- The rows from the bottom to the top. -/
def flipped (i : Image α) : Image α :=
  { i with
    rows := i.rows.reverse
    length_rows := by rw [List.length_reverse, i.length_rows]
    length_of_mem_rows := fun row h => i.length_of_mem_rows row (List.mem_reverse.mp h) }

/-- The top row of the flipped image is the bottom row, and so on. -/
theorem sample?_flipped (i : Image α) {row : Nat} (column channel : Nat)
    (h : row < i.height.toNat) :
    i.flipped.sample? row column channel = i.sample? (i.height.toNat - 1 - row) column channel := by
  have hrow : i.rows.reverse[row]? = i.rows[i.height.toNat - 1 - row]? := by
    rw [List.getElem?_reverse (by rw [i.length_rows]; exact h), i.length_rows]
  unfold sample?
  rw [← hrow]
  rfl

end Image

end RenderKit
