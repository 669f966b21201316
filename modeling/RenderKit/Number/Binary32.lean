set_option autoImplicit false

/-! # Single-precision numbers

A number is kept as its 32-bit interchange pattern. Values that are only carried around (clear
values, border colors, uniform data) never leave that form, so they are copied bit for bit, and
two of them are equal exactly when their patterns are. The order and the equality test of
numbers are defined on the pattern too: every comparison with a NaN is false, and both zeros are
equal. Arithmetic rounds to nearest and is done by the machine's own single-precision unit. -/

namespace RenderKit

/-- A single-precision number, held as its bit pattern. -/
structure Binary32 where
  bits : UInt32
deriving DecidableEq, Repr, Inhabited

namespace Binary32

/-! ## Fields of the pattern -/

/-- The sign bit. -/
def negative (x : Binary32) : Bool := x.bits ≥ 0x80000000

/-- The pattern without its sign: larger for larger absolute values. -/
def magnitude (x : Binary32) : Nat := (x.bits &&& 0x7fffffff).toNat

/-- The biased exponent. -/
def exponent (x : Binary32) : Nat := x.magnitude / 0x800000

/-- The trailing significand. -/
def fraction (x : Binary32) : Nat := x.magnitude % 0x800000

def isNaN (x : Binary32) : Bool := x.magnitude > 0x7f800000

def isInfinite (x : Binary32) : Bool := x.magnitude == 0x7f800000

def isFinite (x : Binary32) : Bool := x.magnitude < 0x7f800000

/-- The significand `m` and the exponent `q` of a finite number: its absolute value is
    `m * 2 ^ q`. -/
def parts (x : Binary32) : Nat × Int :=
  if x.exponent = 0 then (x.fraction, -149)
  else (x.fraction + 0x800000, (x.exponent : Int) - 150)

/-! ## Constants -/

def zero : Binary32 := ⟨0⟩

def one : Binary32 := ⟨0x3f800000⟩

def half : Binary32 := ⟨0x3f000000⟩

def two : Binary32 := ⟨0x40000000⟩

/-! ## Order

Positive patterns grow with their values and negative ones shrink, so numbers compare as the
signed magnitudes of their patterns. -/

/-- The position of a number on the line; meaningless for a NaN. -/
def rank (x : Binary32) : Int := if x.negative then -(x.magnitude : Int) else x.magnitude

/-- Equality of numbers: no NaN equals anything, and the zeros are equal. -/
def eqv (x y : Binary32) : Bool := !x.isNaN && !y.isNaN && x.rank == y.rank

def lt (x y : Binary32) : Bool := !x.isNaN && !y.isNaN && decide (x.rank < y.rank)

def le (x y : Binary32) : Bool := !x.isNaN && !y.isNaN && decide (x.rank ≤ y.rank)

/-- The larger of two numbers; a NaN gives way to the other one. -/
def max (x y : Binary32) : Binary32 :=
  if x.isNaN then y else if x.lt y then y else x

/-- The smaller of two numbers; a NaN gives way to the other one. -/
def min (x y : Binary32) : Binary32 :=
  if x.isNaN then y else if y.lt x then y else x

/-! ## Arithmetic -/

def toFloat (x : Binary32) : Float32 := Float32.ofBits x.bits

def ofFloat (f : Float32) : Binary32 := ⟨f.toBits⟩

/-- The number with its sign flipped, NaN or not. -/
def neg (x : Binary32) : Binary32 := ⟨x.bits ^^^ 0x80000000⟩

instance : Neg Binary32 := ⟨neg⟩

instance : Add Binary32 := ⟨fun x y => ofFloat (x.toFloat + y.toFloat)⟩

instance : Sub Binary32 := ⟨fun x y => ofFloat (x.toFloat - y.toFloat)⟩

instance : Mul Binary32 := ⟨fun x y => ofFloat (x.toFloat * y.toFloat)⟩

instance : Div Binary32 := ⟨fun x y => ofFloat (x.toFloat / y.toFloat)⟩

def sqrt (x : Binary32) : Binary32 := ofFloat x.toFloat.sqrt

def sin (x : Binary32) : Binary32 := ofFloat x.toFloat.sin

def cos (x : Binary32) : Binary32 := ofFloat x.toFloat.cos

def tan (x : Binary32) : Binary32 := ofFloat x.toFloat.tan

/-! ## Widening -/

/-- The double-precision pattern of the same value. A subnormal is normalised by its leading
    bit; infinities and NaNs keep their kind. -/
def widened (x : Binary32) : UInt64 :=
  let sign : Nat := if x.negative then Nat.pow 2 63 else 0
  let body : Nat :=
    if x.exponent = 255 then 2047 * Nat.pow 2 52 + x.fraction * Nat.pow 2 29
    else if x.exponent = 0 then
      if x.fraction = 0 then 0
      else
        let top := x.fraction.log2
        (874 + top) * Nat.pow 2 52 + (x.fraction - Nat.pow 2 top) * Nat.pow 2 (52 - top)
    else (x.exponent + 896) * Nat.pow 2 52 + x.fraction * Nat.pow 2 29
  (sign + body).toUInt64

end Binary32

end RenderKit
