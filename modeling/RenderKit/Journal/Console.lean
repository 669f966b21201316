import RenderKit.Journal

set_option autoImplicit false

/-! # Console lines

The console shows an entry with its time and, when both are known, the file and the line it was
written in: `[time] [LABEL] [source] message (file:line)`. Times are shown in universal time
with milliseconds. Years above 9999 carry a plus sign, and times past the year 262142 cannot be
shown at all. -/

namespace RenderKit

/-! ## Calendar -/

structure Date where
  year : Int
  month : Nat
  day : Nat
deriving DecidableEq, Repr

/-- The date of a day counted from 1970-01-01. Days are counted in eras of 400 years that begin
    in March, so that the leap day comes last in its year. -/
def Date.ofDays (days : Int) : Date :=
  let shifted := days + 719468
  let era := shifted.fdiv 146097
  let dayOfEra := (shifted - era * 146097).toNat
  let yearOfEra := (dayOfEra - dayOfEra / 1460 + dayOfEra / 36524 - dayOfEra / 146096) / 365
  let dayOfYear := dayOfEra - (365 * yearOfEra + yearOfEra / 4 - yearOfEra / 100)
  let shiftedMonth := (5 * dayOfYear + 2) / 153
  let day := dayOfYear - (153 * shiftedMonth + 2) / 5 + 1
  let month := if shiftedMonth < 10 then shiftedMonth + 3 else shiftedMonth - 9
  let year := (yearOfEra : Int) + era * 400 + (if month ≤ 2 then 1 else 0)
  ⟨year, month, day⟩

/-- A number with zeros in front up to a width. -/
def padded (width n : Nat) : String :=
  let digits := Nat.toDigits 10 n
  String.ofList (List.replicate (width - digits.length) '0' ++ digits)

/-- The last year whose dates can be shown. -/
def lastYear : Int := 262142

/-- The text of a time in milliseconds since 1970, if it can be shown. -/
def timeText (millis : Nat) : Option String :=
  let seconds := millis / 1000
  let date := Date.ofDays (seconds / 86400 : Nat)
  let clock := seconds % 86400
  if date.year > lastYear then none
  else
    let sign := if date.year > 9999 then "+" else ""
    some (sign ++ padded 4 date.year.toNat ++ "-" ++ padded 2 date.month ++ "-"
      ++ padded 2 date.day ++ " " ++ padded 2 (clock / 3600) ++ ":"
      ++ padded 2 (clock / 60 % 60) ++ ":" ++ padded 2 (clock % 60) ++ "."
      ++ padded 3 (millis % 1000))

/-! ## Lines -/

/-- Where in a program an entry was written. -/
structure Place where
  file : Option String
  line : Option Nat
deriving DecidableEq, Repr

/-- The place behind a message; it is left out unless both halves are known. -/
def Place.text (p : Place) : String :=
  match p.file, p.line with
  | some file, some line => " (" ++ file ++ ":" ++ toString line ++ ")"
  | _, _ => ""

/-- A text in a terminal color, given by its code. -/
def colored (code text : String) : String := "\x1b[" ++ code ++ "m" ++ text ++ "\x1b[0m"

/-- The color of a label. -/
def Severity.color : Severity → String
  | .trace => "90"
  | .debug => "36"
  | .info => "32"
  | .warn => "33"
  | .error => "1;31"

/-- The color of a source. -/
def sourceColor : String := "94"

/-- The line of an entry behind its time. -/
def Entry.consoleTail (e : Entry) (place : Place) (color : Bool) : String :=
  let label := if color then colored e.severity.color e.severity.label else e.severity.label
  let source := if color then colored sourceColor e.source else e.source
  "[" ++ label ++ "] [" ++ source ++ "] " ++ e.message ++ place.text

/-- The whole line of an entry, if its time can be shown. -/
def Entry.console (e : Entry) (place : Place) (millis : Nat) (color : Bool) : Option String :=
  (timeText millis).map fun time => "[" ++ time ++ "] " ++ e.consoleTail place color

end RenderKit
