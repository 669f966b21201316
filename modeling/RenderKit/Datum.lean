import RenderKit.Number.Vector
import RenderKit.Named

set_option autoImplicit false

/-! # Written data

Settings and steps can be written down as plain data: numbers, texts, lists, and records of named
fields. A field that is absent and a field that is null mean the same, which is that the default
stays. -/

namespace RenderKit

inductive Datum where
  | null
  | bool (b : Bool)
  /-- A number as it is written, in decimal. -/
  | number (decimal : String)
  | text (s : String)
  | list (items : List Datum)
  | record (fields : List (String × Datum))
deriving Inhabited

/-- Reading gives a value, or says what could not be read. -/
abbrev Reading := Except String

def unreadable {α : Type} (what : String) : Reading α := .error what

namespace Datum

/-! ## Writing -/

def nat (n : Nat) : Datum := .number (toString n)

def int (n : Int) : Datum := .number (toString n)

def word (n : UInt32) : Datum := nat n.toNat

def texts (items : List String) : Datum := .list (items.map .text)

def ofOption (d : Option Datum) : Datum := d.getD .null

/-! ## Fields -/

def field? (d : Datum) (key : String) : Option Datum :=
  match d with
  | .record fields =>
      match fields.lookup key with
      | some .null | none => none
      | some x => some x
  | _ => none

/-- Whether a field is there, be it null. -/
def mentions (d : Datum) (key : String) : Bool :=
  match d with
  | .record fields => (fields.lookup key).isSome
  | _ => false

def field (d : Datum) (key : String) : Reading Datum :=
  match d.field? key with
  | some x => .ok x
  | none => unreadable key

/-- A field that has to be there. -/
def get {α : Type} (d : Datum) (key : String) (read : Datum → Reading α) : Reading α := do
  read (← d.field key)

/-- A field that may be missing. -/
def opt {α : Type} (d : Datum) (key : String) (read : Datum → Reading α) :
    Reading (Option α) :=
  match d.field? key with
  | some x => some <$> read x
  | none => .ok none

/-- A field with a value for when it is missing. -/
def getD {α : Type} (d : Datum) (key : String) (read : Datum → Reading α) (default : α) :
    Reading α := do
  return (← d.opt key read).getD default

/-! ## Values -/

def asText : Datum → Reading String
  | .text s => .ok s
  | _ => unreadable "text"

def asBool : Datum → Reading Bool
  | .bool b => .ok b
  | _ => unreadable "truth value"

def asList : Datum → Reading (List Datum)
  | .list items => .ok items
  | _ => unreadable "list"

def asFields : Datum → Reading (List (String × Datum))
  | .record fields => .ok fields
  | _ => unreadable "record"

/-- The members of a list. -/
def each {α : Type} (read : Datum → Reading α) (d : Datum) : Reading (List α) := do
  (← d.asList).mapM read

/-- Values under names. -/
def asTable {α : Type} (read : Datum → Reading α) (d : Datum) :
    Reading (List (String × α)) := do
  (← d.asFields).mapM fun f => do return (f.1, ← read f.2)

def asInt : Datum → Reading Int
  | .number decimal =>
      match decimal.toInt? with
      | some n => .ok n
      | none => unreadable "integer"
  | _ => unreadable "integer"

def asNat (d : Datum) : Reading Nat := do
  let n ← d.asInt
  if n < 0 then unreadable "natural number" else return n.toNat

def asWord (d : Datum) : Reading UInt32 := do return (← d.asNat).toUInt32

def asLong (d : Datum) : Reading UInt64 := do return (← d.asNat).toUInt64

def asSigned (d : Datum) : Reading Int32 := do return Int32.ofInt (← d.asInt)

/-- A word for one of several values. -/
def asOneOf {α : Type} (all : List α) (name : α → String) (d : Datum) : Reading α := do
  let word ← d.asText
  match all.find? fun a => name a == word with
  | some a => return a
  | none => unreadable word

def asNamed {α : Type} [Named α] (d : Datum) : Reading α := asOneOf Named.all Named.name d

/-! ## Bytes and floats -/

/-- The value of hexadecimal digits. -/
def hexValue (digits : List Char) : Nat :=
  digits.foldl (fun n c =>
    n * 16 + (if c.isDigit then c.toNat - 48 else if c.isLower then c.toNat - 87
      else c.toNat - 55)) 0

def hexBytes : List Char → List UInt8
  | a :: b :: rest => (hexValue [a, b]).toUInt8 :: hexBytes rest
  | _ => []

/-- Hexadecimal digits, or one byte a number of times. -/
def asBytes : Datum → Reading (List UInt8)
  | .text digits => .ok (hexBytes digits.toList)
  | d => do
      let fill ← d.get "fill" asNat
      let length ← d.get "len" asNat
      return List.replicate length fill.toUInt8

/-- The parts of a decimal number: its sign, its digits, and the power of ten they count. -/
def decimalParts (cs : List Char) : Bool × Nat × Int :=
  let negative := cs.head? == some '-'
  let cs := if negative then cs.drop 1 else cs
  let number (cs : List Char) : Nat := cs.foldl (fun n c => n * 10 + (c.toNat - 48)) 0
  let whole := cs.takeWhile Char.isDigit
  let rest := cs.dropWhile Char.isDigit
  let fraction := match rest with
    | '.' :: rest => rest.takeWhile Char.isDigit
    | _ => []
  let rest := match rest with
    | '.' :: rest => rest.dropWhile Char.isDigit
    | _ => rest
  let exponent : Int := match rest with
    | _ :: '-' :: digits => -(number digits : Int)
    | _ :: '+' :: digits => number digits
    | _ :: digits => number digits
    | [] => 0
  (negative, number (whole ++ fraction), exponent - fraction.length)

/-- A number, which is rounded to double and from there to single precision, a word for a special
    value, or the pattern itself. -/
def asFloat : Datum → Reading Binary32
  | .number decimal =>
      let (negative, digits, exponent) := decimalParts decimal.toList
      let x := Float.ofScientific digits (exponent < 0) exponent.natAbs
      let bits := x.toFloat32.toBits
      .ok ⟨if negative then bits ||| 0x80000000 else bits⟩
  | .text "nan" => .ok ⟨0x7fc00000⟩
  | .text "inf" => .ok ⟨0x7f800000⟩
  | .text "-inf" => .ok ⟨0xff800000⟩
  | .text pattern => .ok ⟨(hexValue pattern.toList).toUInt32⟩
  | _ => unreadable "number"

def asFloats : Datum → Reading (List Binary32) := each asFloat

def asVec3 (d : Datum) : Reading Vec3 := do
  match ← d.asFloats with
  | [x, y, z] => return ⟨x, y, z⟩
  | _ => unreadable "vector"

def asVec4 (d : Datum) : Reading Vec4 := do
  match ← d.asFloats with
  | [x, y, z, w] => return ⟨x, y, z, w⟩
  | _ => unreadable "vector"

/-! ## Instructions

An instruction is a list with its name in front. -/

def asInstruction (d : Datum) : Reading (String × List Datum) := do
  match ← d.asList with
  | name :: arguments => return (← name.asText, arguments)
  | [] => unreadable "instruction"

/-- Follow the instructions in a field one after the other. -/
def follow {α : Type} (d : Datum) (start : α)
    (change : α → String → List Datum → Reading α) : Reading α := do
  (← d.getD "set" asList []).foldlM
    (fun a x => do
      let (name, arguments) ← x.asInstruction
      change a name arguments)
    start

/-- The instructions in a field. -/
def instructions {α : Type} (d : Datum) (read : String → List Datum → Reading α) :
    Reading (List α) := do
  (← d.getD "set" asList []).mapM fun x => do
    let (name, arguments) ← x.asInstruction
    read name arguments

end Datum

end RenderKit
