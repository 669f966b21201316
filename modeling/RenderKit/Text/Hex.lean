import RenderKit.Number.Binary32

set_option autoImplicit false

/-! # Hexadecimal text

Byte strings and number patterns are shown as lowercase hexadecimal digits, most significant
digit first. -/

namespace RenderKit.Hex

/-- The lowercase digit of a value below sixteen. -/
def digit (n : Nat) : Char :=
  if n < 10 then Char.ofNat (48 + n) else Char.ofNat (87 + n)

/-- Exactly `width` digits of `n`, from the most significant one. -/
def fixed (width n : Nat) : String :=
  String.ofList ((List.range width).reverse.map fun i => digit (n / Nat.pow 16 i % 16))

/-- The digits of `n` without leading zeros, at least one. -/
def natural (n : Nat) : String := fixed (n.log2 / 4 + 1) n

/-- The digits of `n` in capitals, no fewer than `width`. -/
def capitals (width n : Nat) : String :=
  String.ofList ((fixed (max width (n.log2 / 4 + 1)) n).toList.map Char.toUpper)

/-- Two digits for every byte. -/
def ofBytes (bytes : List UInt8) : String :=
  String.join (bytes.map fun b => fixed 2 b.toNat)

end RenderKit.Hex

namespace RenderKit

/-- The pattern of a number in eight digits; every NaN reads `nan`. -/
def Binary32.text (x : Binary32) : String :=
  if x.isNaN then "nan" else Hex.fixed 8 x.bits.toNat

/-- The widened pattern of a number in sixteen digits; every NaN reads `nan`. -/
def Binary32.wideText (x : Binary32) : String :=
  if x.isNaN then "nan" else Hex.fixed 16 x.widened.toNat

/-- Several patterns, separated by commas. -/
def Binary32.listText (xs : List Binary32) : String :=
  ",".intercalate (xs.map Binary32.text)

end RenderKit
