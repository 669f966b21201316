set_option autoImplicit false

/-! # Tokens of shader source

Source is read line by line. A line is cut into the longest tokens that stand at its front, with
blanks between them dropped; a character that starts no token makes the source unreadable. -/

namespace RenderKit.Glsl

inductive Token where
  | name (text : String)
  /-- A number, with its value if it is a whole one. -/
  | number (whole : Option Nat)
  | symbol (text : String)
deriving DecidableEq, Repr

def isNameStart (c : Char) : Bool := c.isAlpha || c == '_'

def isNameRest (c : Char) : Bool := c.isAlphanum || c == '_'

/-- The symbols, those that begin with others first. -/
def symbols : List String :=
  ["<<=", ">>=", "++", "--", "<<", ">>", "<=", ">=", "==", "!=", "&&", "||", "^^", "+=", "-=",
   "*=", "/=", "%=", "&=", "|=", "^=", "(", ")", "[", "]", "\x7b", "\x7d", ".", ",", ";", ":",
   "=", "!", "-", "~", "+", "*", "/", "%", "<", ">", "|", "^", "&", "?", "#"]

/-! ## Numbers -/

def digitValue (c : Char) : Nat :=
  if c.isDigit then c.toNat - 48 else if c.isLower then c.toNat - 87 else c.toNat - 55

def isHexDigit (c : Char) : Bool :=
  c.isDigit || ('a' ≤ c && c ≤ 'f') || ('A' ≤ c && c ≤ 'F')

def ofDigits (base : Nat) (cs : List Char) : Nat :=
  cs.foldl (fun n c => n * base + digitValue c) 0

/-- The exponent of a number, if there is one. -/
def exponent (cs : List Char) : Option (List Char) :=
  match cs with
  | e :: rest =>
      if e == 'e' || e == 'E' then
        let unsigned := match rest with
          | '+' :: more | '-' :: more => more
          | more => more
        match unsigned with
        | d :: _ => if d.isDigit then some (unsigned.dropWhile Char.isDigit) else none
        | [] => none
      else none
  | [] => none

/-- The letters that may end a number with a fraction. -/
def dropFloatSuffix : List Char → List Char
  | 'l' :: 'f' :: rest | 'L' :: 'F' :: rest | 'f' :: rest | 'F' :: rest => rest
  | cs => cs

/-- Read a number that starts with a digit, or with a dot and a digit. -/
def number (cs : List Char) : Token × List Char :=
  match cs with
  | '0' :: x :: rest =>
      if (x == 'x' || x == 'X') && (rest.head?.any isHexDigit) then
        let value := ofDigits 16 (rest.takeWhile isHexDigit)
        let behind := rest.dropWhile isHexDigit
        (.number (some value), behind.drop (if behind.head?.any (fun c => c == 'u' || c == 'U')
          then 1 else 0))
      else decimal cs
  | _ => decimal cs
where
  decimal (cs : List Char) : Token × List Char :=
    let front := cs.takeWhile Char.isDigit
    let behind := cs.dropWhile Char.isDigit
    match behind with
    | '.' :: rest =>
        let rest := rest.dropWhile Char.isDigit
        (.number none, dropFloatSuffix ((exponent rest).getD rest))
    | _ =>
        match exponent behind with
        | some rest => (.number none, dropFloatSuffix rest)
        | none =>
            let base := if front.length > 1 && front.head? == some '0' then 8 else 10
            match behind with
            | 'u' :: rest | 'U' :: rest => (.number (some (ofDigits base front)), rest)
            | 'f' :: rest | 'F' :: rest => (.number none, rest)
            | _ => (.number (some (ofDigits base front)), behind)

/-! ## Lines -/

/-- The first of some symbols that the characters begin with. -/
def symbol? (cs : List Char) : List String → Option (Token × List Char)
  | [] => none
  | s :: rest =>
      if s.toList.isPrefixOf cs then some (.symbol s, cs.drop s.length) else symbol? cs rest

/-- Read the token at the front. -/
def token? (cs : List Char) : Option (Token × List Char) :=
  match cs with
  | [] => none
  | c :: rest =>
      if isNameStart c then
        some (.name (String.ofList (c :: rest.takeWhile isNameRest)), rest.dropWhile isNameRest)
      else if c.isDigit || (c == '.' && rest.head?.any Char.isDigit) then some (number cs)
      else symbol? cs symbols

/-- Blanks inside of a line. -/
def isGap (c : Char) : Bool := c == ' ' || c == '\t' || c == '\r' || c == '\x0b' || c == '\x0c'

/-- The tokens of a line. Fuel bounds their number by the number of characters. -/
def tokensFrom : Nat → List Char → Option (List Token)
  | 0, cs => if cs.isEmpty then some [] else none
  | fuel + 1, cs =>
      match cs.dropWhile isGap with
      | [] => some []
      | c :: rest =>
          (token? (c :: rest)).bind fun t => (tokensFrom fuel t.2).map (t.1 :: ·)

def tokens (line : List Char) : Option (List Token) := tokensFrom (line.length + 1) line

end RenderKit.Glsl
