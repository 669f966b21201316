set_option autoImplicit false

/-! # Blank characters, trimming and lines

A character is blank when Unicode gives it the property `White_Space`. Trimming drops blanks at
both ends, and nothing else does: a zero-width space is no blank. -/

namespace RenderKit

/-- The ranges of the property `White_Space`. -/
def blankRanges : List (Nat × Nat) :=
  [(0x09, 0x0d), (0x20, 0x20), (0x85, 0x85), (0xa0, 0xa0), (0x1680, 0x1680), (0x2000, 0x200a),
   (0x2028, 0x2029), (0x202f, 0x202f), (0x205f, 0x205f), (0x3000, 0x3000)]

def isBlank (c : Char) : Bool := blankRanges.any fun r => r.1 ≤ c.toNat && c.toNat ≤ r.2

/-- A list without the blanks at its end. -/
def dropBlankEnd (cs : List Char) : List Char := (cs.reverse.dropWhile isBlank).reverse

/-- A list without the blanks at both ends. -/
def trimChars (cs : List Char) : List Char := dropBlankEnd (cs.dropWhile isBlank)

/-- A text without the blanks at both ends. -/
def trimText (s : String) : String := String.ofList (trimChars s.toList)

/-- Uppercase ASCII letters become lowercase; every other character stays. -/
def lowerAscii (c : Char) : Char :=
  if 'A' ≤ c && c ≤ 'Z' then Char.ofNat (c.toNat + 32) else c

/-! ## Lines

A line ends at a line feed, and one carriage return before that feed belongs to the end. Text
after the last feed is a line of its own unless it is empty, and keeps its carriage return. -/

/-- A finished line without the carriage return of its end. -/
def dropReturn (line : List Char) : List Char :=
  match line.reverse with
  | '\r' :: rest => rest.reverse
  | _ => line

/-- The lines of `cs`, with `line` already read of the first one, in reverse. -/
def linesFrom (line : List Char) : List Char → List (List Char)
  | [] => if line.isEmpty then [] else [line.reverse]
  | '\n' :: rest => dropReturn line.reverse :: linesFrom [] rest
  | c :: rest => linesFrom (c :: line) rest

/-- The lines of a text. -/
def linesOf (cs : List Char) : List (List Char) := linesFrom [] cs

/-- The first line of a text, empty if there is none. -/
def firstLine (s : String) : String := String.ofList ((linesOf s.toList).headD [])

end RenderKit
