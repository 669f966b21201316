import RenderKit.Number.Binary32

set_option autoImplicit false

/-! # Rounded text of computed numbers

The numbers of a vector or a matrix are shown together, in scientific notation with four places
behind the point. Rounding is exact, and a value halfway between two texts goes to the even one.
A number that is tiny beside the largest one of its group is noise and reads `0`. -/

namespace RenderKit.Scientific

/-- A non-negative fraction. -/
structure Ratio where
  num : Nat
  den : Nat

/-- The absolute value of a finite number. -/
def Ratio.of (x : Binary32) : Ratio :=
  let (m, q) := x.parts
  ⟨m * Nat.pow 2 q.toNat, Nat.pow 2 (-q).toNat⟩

def Ratio.le (a b : Ratio) : Bool := a.num * b.den ≤ b.num * a.den

/-- The quotient `num / den` rounded to the nearest integer, halves to even. -/
def roundEven (num den : Nat) : Nat :=
  let whole := num / den
  let rest := num % den
  if 2 * rest > den || (2 * rest == den && whole % 2 == 1) then whole + 1 else whole

/-- The largest `e` with `10 ^ e ≤ r`, for a positive fraction. -/
def leadingPlace (r : Ratio) : Nat → Int
  | 0 => ((Nat.toDigits 10 (r.num / r.den)).length : Int) - 1
  | fuel + 1 =>
      if r.den ≤ r.num then ((Nat.toDigits 10 (r.num / r.den)).length : Int) - 1
      else leadingPlace ⟨r.num * 10, r.den⟩ fuel - 1

/-- A positive fraction as five digits and an exponent. Rounding up to a sixth digit moves the
    exponent. -/
def ratioText (r : Ratio) : String :=
  let place := leadingPlace r 64
  let scaled :=
    roundEven (r.num * Nat.pow 10 (4 - place).toNat) (r.den * Nat.pow 10 (place - 4).toNat)
  let (scaled, place) := if scaled ≥ 100000 then (scaled / 10, place + 1) else (scaled, place)
  let digits := Nat.toDigits 10 scaled
  String.ofList (digits.take 1) ++ "." ++ String.ofList (digits.drop 1) ++ "e" ++ toString place

/-- The largest finite absolute value of a group, or one if that is larger. -/
def scale (xs : List Binary32) : Ratio :=
  (xs.filter Binary32.isFinite).foldl
    (fun top x => if (Ratio.of x).le top then top else Ratio.of x) ⟨1, 1⟩

/-- Whether an absolute value is at most a millionth of the scale. -/
def negligible (r top : Ratio) : Bool := Ratio.le ⟨r.num * 1000000, r.den⟩ top

/-- The text of one number of a group with the given scale. -/
def memberText (top : Ratio) (x : Binary32) : String :=
  if x.isNaN then "nan"
  else if x.isInfinite then (if x.negative then "-inf" else "inf")
  else if negligible (Ratio.of x) top then "0"
  else (if x.negative then "-" else "") ++ ratioText (Ratio.of x)

/-- The texts of a group. -/
def groupText (xs : List Binary32) : List String := xs.map (memberText (scale xs))

end RenderKit.Scientific
