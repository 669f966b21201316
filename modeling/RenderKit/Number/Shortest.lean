import RenderKit.Number.Binary32

set_option autoImplicit false

/-! # Shortest decimal text of a number

The digits of a number are the fewest that identify it among all single-precision numbers, and
of those the nearest to it. All arithmetic is exact: a number is the fraction `num / den`, and
the numbers that round to it fill an interval around it whose ends belong to it when the
significand is even.

`Binary32.plainText` never uses an exponent. `Binary32.debugText` always shows a point or an
exponent, and turns to the exponent below `1e-4` and from `1e16` on. -/

namespace RenderKit.Shortest

/-- A decimal number `digits * 10 ^ scale`. -/
structure Decimal where
  digits : Nat
  scale : Int
deriving DecidableEq, Repr

/-- The interval of values that round to one number. The value is `num / den`, and the interval
    reaches `below / den` down and `above / den` up. -/
structure Interval where
  num : Nat
  den : Nat
  below : Nat
  above : Nat
  closed : Bool

/-- The interval of the number `m * 2 ^ q`. The gap below a power of two is half as wide, except
    at the smallest exponent. -/
def Interval.of (m : Nat) (q : Int) : Interval :=
  let unit := 4 * Nat.pow 2 q.toNat
  { num := m * unit
    den := 4 * Nat.pow 2 (-q).toNat
    below := if m = 0x800000 ∧ q ≠ -149 then unit / 4 else unit / 2
    above := unit / 2
    closed := m % 2 = 0 }

/-- Whether `c / d` lies in the interval. -/
def Interval.holds (i : Interval) (c d : Nat) : Bool :=
  let low := (i.num - i.below) * d
  let high := (i.num + i.above) * d
  let x := c * i.den
  if i.closed then low ≤ x && x ≤ high else low < x && x < high

/-- The largest `e` with `10 ^ e ≤ num / den`, for a positive fraction. The fuel bounds the
    number of places looked at behind the point. -/
def leadingPlace (num den : Nat) (fuel : Nat) : Int :=
  if den ≤ num then ((Nat.toDigits 10 (num / den)).length : Int) - 1
  else
    match fuel with
    | 0 => 0
    | fuel + 1 => leadingPlace (num * 10) den fuel - 1

/-- The point of the grid `10 ^ scale` that lies in the interval and is nearest to its value, if
    there is one. Only the two neighbours of the value can be in the interval first; of two
    equally near points the even one is taken. -/
def onGrid (i : Interval) (scale : Int) : Option Decimal :=
  let up := Nat.pow 10 scale.toNat
  let down := Nat.pow 10 (-scale).toNat
  let lower := i.num * down / (i.den * up)
  let rest := i.num * down - lower * (i.den * up)
  let preferUpper := 2 * rest > i.den * up || (2 * rest == i.den * up && lower % 2 == 1)
  let inLower := i.holds (lower * up) down
  let inUpper := i.holds ((lower + 1) * up) down
  if inUpper && (preferUpper || !inLower) then some ⟨lower + 1, scale⟩
  else if inLower then some ⟨lower, scale⟩
  else none

/-- The first grid with a point in the interval, from coarse to fine. -/
def search (i : Interval) (place : Int) : Nat → Nat → Decimal
  | 0, count => (onGrid i (place - count)).getD ⟨0, 0⟩
  | fuel + 1, count =>
      match onGrid i (place - count) with
      | some d => d
      | none => search i place fuel (count + 1)

/-- The shortest decimal of `m * 2 ^ q` for a positive `m`. Nine digits always suffice. -/
def decimal (m : Nat) (q : Int) : Decimal :=
  let i := Interval.of m q
  search i (leadingPlace i.num i.den 64) 10 0

/-- The digits of a decimal and the place of its first digit (`0` for the ones), with zeros at
    the end dropped. -/
def Decimal.spread (d : Decimal) : List Char × Int :=
  let all := Nat.toDigits 10 d.digits
  let kept := (all.reverse.dropWhile (· == '0')).reverse
  (kept, d.scale + all.length - 1)

/-- Digits in positional form. `point` asks for a fraction even when it is zero. -/
def positional (digits : List Char) (place : Int) (point : Bool) : String :=
  if place < 0 then
    "0." ++ String.ofList (List.replicate (-place - 1).toNat '0' ++ digits)
  else
    let whole := place.toNat + 1
    let padded := digits ++ List.replicate (whole - digits.length) '0'
    let fraction := padded.drop whole
    let head := String.ofList (padded.take whole)
    if fraction.isEmpty then (if point then head ++ ".0" else head)
    else head ++ "." ++ String.ofList fraction

/-- Digits with one of them before the point, and an exponent. -/
def exponential (digits : List Char) (place : Int) : String :=
  let head := String.ofList (digits.take 1)
  let fraction := digits.drop 1
  let mantissa := if fraction.isEmpty then head else head ++ "." ++ String.ofList fraction
  mantissa ++ "e" ++ toString place

end RenderKit.Shortest

namespace RenderKit.Binary32

/-- The text of a number, with `point` and the choice of an exponent left to the two public
    forms. -/
def shortestText (x : Binary32) (point : Bool) (usesExponent : Binary32 → Bool) : String :=
  if x.isNaN then "NaN"
  else
    let sign := if x.negative then "-" else ""
    let body :=
      if x.isInfinite then "inf"
      else if x.magnitude = 0 then (if point then "0.0" else "0")
      else
        let (m, q) := x.parts
        let (digits, place) := (Shortest.decimal m q).spread
        if usesExponent x then Shortest.exponential digits place
        else Shortest.positional digits place point
    sign ++ body

/-- The text without an exponent: `0.1`, `1000`, `-0`, `inf`, `NaN`. -/
def plainText (x : Binary32) : String := x.shortestText false fun _ => false

/-- The text with a point or an exponent: `1.0`, `1e16`, `1e-5`. The bounds of the positional
    form are `1e-4` and `1e16`. -/
def debugText (x : Binary32) : String :=
  x.shortestText true fun x =>
    decide (x.magnitude < 0x38d1b717) || decide (x.magnitude ≥ 0x5a0e1bca)

end RenderKit.Binary32
