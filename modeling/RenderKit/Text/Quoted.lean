import RenderKit.Text.Hex
import RenderKit.Text.Printable

set_option autoImplicit false

/-! # Quoted text and record text

A quoted text stands between double quotes. Quotes, backslashes and the usual controls are
escaped with a backslash, and a character that cannot be seen is written by its number. Record
text is one line: `Name \x7b field: value, field: value \x7d`, and lists stand between brackets. -/

namespace RenderKit

/-- A character inside a quoted text. -/
def quotedChar (c : Char) : String :=
  match c with
  | '\x00' => "\\0"
  | '\t' => "\\t"
  | '\r' => "\\r"
  | '\n' => "\\n"
  | '"' => "\\\""
  | '\\' => "\\\\"
  | c => if isHidden c then "\\u\x7b" ++ Hex.natural c.toNat ++ "\x7d" else String.singleton c

/-- A text between double quotes. -/
def quoted (s : String) : String :=
  "\"" ++ String.join (s.toList.map quotedChar) ++ "\""

/-- Texts between brackets. -/
def listText (items : List String) : String := "[" ++ ", ".intercalate items ++ "]"

/-- The text of a value that may be missing. -/
def optionText : Option String → String
  | none => "None"
  | some s => "Some(" ++ s ++ ")"

/-- The text of a named record. -/
def recordText (name : String) (fields : List (String × String)) : String :=
  let body := ", ".intercalate (fields.map fun f => f.1 ++ ": " ++ f.2)
  name ++ " \x7b " ++ body ++ " \x7d"

/-- A truth value in lowercase. -/
def boolText (b : Bool) : String := if b then "true" else "false"

end RenderKit
