set_option autoImplicit false

/-! # Versions of OpenGL

A driver tells its version in a text with more in it. Embedded flavours announce themselves in
front of the numbers: browsers at the very beginning, other systems by a word on its own. What
follows the next blank is free text of the vendor. -/

namespace RenderKit

structure GlVersion where
  major : Nat
  minor : Nat
  /-- Whether the interface is one of the reduced flavours. -/
  embedded : Bool
deriving DecidableEq, Repr

namespace GlVersion

/-! ## Reading -/

/-- What stands behind the first place of a word. -/
def behindFirst? (word : List Char) : List Char → Option (List Char)
  | [] => none
  | c :: rest =>
      if word.isPrefixOf (c :: rest) then some ((c :: rest).drop word.length)
      else behindFirst? word rest

/-- What stands behind the last place of a word. -/
def behindLast? (word : List Char) : List Char → Option (List Char)
  | [] => none
  | c :: rest =>
      match behindLast? word rest with
      | some behind => some behind
      | none =>
          if word.isPrefixOf (c :: rest) then some ((c :: rest).drop word.length) else none

/-- The parts between dots; a text without a dot is one part. -/
def dotted (part : List Char) : List Char → List (List Char)
  | [] => [part.reverse]
  | '.' :: rest => part.reverse :: dotted [] rest
  | c :: rest => dotted (c :: part) rest

/-- A number of 32 bits in decimal, which a plus may precede. -/
def number? (cs : List Char) : Option Nat :=
  let digits := if cs.head? = some '+' then cs.drop 1 else cs
  if digits.isEmpty || !digits.all Char.isDigit then none
  else
    let n := digits.foldl (fun n c => n * 10 + (c.toNat - 48)) 0
    if n < UInt32.size then some n else none

/-- A minor number does not count zeros at its end, and is zero if one stands in front. -/
def minor? (cs : List Char) : Option Nat :=
  if cs.head? = some '0' then some 0
  else number? (cs.reverse.dropWhile (· = '0')).reverse

/-- The version in the text of a driver. In browsers the interface counts one behind the flavour it
    stands for, unless the text is about the shading language. -/
def parse? (text : String) : Option GlVersion := do
  let cs := text.toList
  let browser := "WebGL ".toList.isPrefixOf cs
  let flavour := behindLast? (if browser then "WebGL " else " ES ").toList cs
  let numbers := flavour.getD cs
  let language := behindFirst? "GLSL ES ".toList numbers
  let parts := dotted [] ((language.getD numbers).takeWhile (· ≠ ' '))
  let major ← number? (← parts[0]?)
  let minor ← minor? (← parts[1]?)
  let major := if browser && language.isNone then major + 1 else major
  if major < UInt32.size then some ⟨major, minor, flavour.isSome⟩ else none

/-! ## Comparing -/

/-- Whether a version is not older than another one. -/
def atLeast (v : GlVersion) (major minor : Nat) : Bool :=
  v.major > major || (v.major = major && v.minor ≥ minor)

def text (v : GlVersion) : String := toString v.major ++ "." ++ toString v.minor

end GlVersion

end RenderKit
