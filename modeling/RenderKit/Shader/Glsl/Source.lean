import RenderKit.Shader.Glsl.Token

set_option autoImplicit false

/-! # From source text to tokens

Before the grammar is looked at, comments are dropped, lines that begin with `#` are obeyed, and
defined names are replaced by what they stand for. -/

namespace RenderKit.Glsl

/-! ## Comments -/

inductive CommentState where
  | code
  | line
  | block

/-- A text with every comment replaced by a blank. Line feeds stay, so that lines stay lines. A
    comment that is never closed makes the source unreadable. -/
def withoutComments : CommentState → List Char → Option (List Char)
  | .block, [] => none
  | _, [] => some []
  | .code, '/' :: '/' :: rest => withoutComments .line rest
  | .code, '/' :: '*' :: rest => (withoutComments .block rest).map (' ' :: ·)
  | .code, '\\' :: '\n' :: rest => withoutComments .code rest
  | .code, c :: rest => (withoutComments .code rest).map (c :: ·)
  | .line, '\n' :: rest => (withoutComments .code rest).map ('\n' :: ·)
  | .line, _ :: rest => withoutComments .line rest
  | .block, '*' :: '/' :: rest => withoutComments .code rest
  | .block, '\n' :: rest => (withoutComments .block rest).map ('\n' :: ·)
  | .block, _ :: rest => withoutComments .block rest

/-- The parts of a text between its line feeds. -/
def splitLines (part : List Char) : List Char → List (List Char)
  | [] => [part.reverse]
  | '\n' :: rest => part.reverse :: splitLines [] rest
  | c :: rest => splitLines (c :: part) rest

/-! ## Defined names -/

/-- Names with the tokens they stand for; the newest definition of a name comes first. -/
abbrev Definitions := List (String × List Token)

def Definitions.remove (ds : Definitions) (name : String) : Definitions :=
  ds.filter fun d => d.1 != name

def Definitions.define (ds : Definitions) (name : String) (value : List Token) : Definitions :=
  (name, value) :: ds.remove name

/-- Replace defined names. A name is not replaced inside of its own replacement, so the number
    of definitions bounds the depth. -/
def expand (ds : Definitions) : Nat → List Token → List Token
  | 0, ts => ts
  | depth + 1, ts =>
      ts.flatMap fun
        | .name x =>
            match ds.lookup x with
            | some value => expand (ds.remove x) depth value
            | none => [.name x]
        | t => [t]

/-! ## Directives -/

/-- One open condition: whether its lines are read now, and whether a branch was taken yet. -/
structure Branch where
  reading : Bool
  taken : Bool

structure Reader where
  definitions : Definitions
  open_ : List Branch
  /-- Whether nothing but blanks came before. -/
  fresh : Bool
  /-- The tokens so far, by lines, the newest first. -/
  output : List (List Token)

namespace Reader

/-- Whether the present line is read. -/
def active (r : Reader) : Bool := r.open_.all (·.reading)

def expanded (r : Reader) (ts : List Token) : List Token :=
  expand r.definitions r.definitions.length ts

/-- The versions of the language that are understood. -/
def versions : List Nat := [440, 450, 460]

/-- The value of a condition: a number, `defined` with a name, or the opposite of one. -/
def condition (r : Reader) : List Token → Option Bool
  | .symbol "!" :: rest => (condition r rest).map (!·)
  | [.name "defined", .name x] | [.name "defined", .symbol "(", .name x, .symbol ")"] =>
      some (r.definitions.lookup x).isSome
  | ts =>
      match r.expanded ts with
      | [.number (some n)] => some (n != 0)
      | _ => none

def push (r : Reader) (condition : Bool) : Reader :=
  { r with open_ := ⟨condition, condition⟩ :: r.open_ }

/-- A directive that opens, turns or closes a condition. -/
def conditional (r : Reader) (word : String) (rest : List Token) : Option (Option Reader) :=
  match word, rest with
  | "ifdef", .name x :: _ => some (some (r.push (r.definitions.lookup x).isSome))
  | "ifndef", .name x :: _ => some (some (r.push (r.definitions.lookup x).isNone))
  | "if", rest =>
      some (if r.active then (r.condition rest).map r.push else some (r.push false))
  | "elif", rest =>
      some (match r.open_ with
        | b :: outer =>
            if b.taken then some { r with open_ := ⟨false, true⟩ :: outer }
            else (r.condition rest).map fun c => { r with open_ := ⟨c, c⟩ :: outer }
        | [] => none)
  | "else", _ =>
      some (match r.open_ with
        | b :: outer => some { r with open_ := ⟨!b.taken, true⟩ :: outer }
        | [] => none)
  | "endif", _ =>
      some (match r.open_ with
        | _ :: outer => some { r with open_ := outer }
        | [] => none)
  | _, _ => none

/-- A directive on a line that is read. -/
def directive (r : Reader) (word : String) (rest : List Token) : Option Reader :=
  match word, rest with
  | "version", [.number (some n)] | "version", [.number (some n), .name "core"] =>
      if r.fresh && versions.contains n then some r else none
  | "version", _ => none
  | "define", .name x :: value => some { r with definitions := r.definitions.define x value }
  | "define", _ => none
  | "undef", [.name x] => some { r with definitions := r.definitions.remove x }
  | "undef", _ => none
  | "extension", _ | "pragma", _ | "line", _ => some r
  | _, _ => none

/-- One line. -/
def line (r : Reader) (cs : List Char) : Option Reader :=
  match tokens cs with
  | none => if r.active then none else some r
  | some [] => some r
  | some [.symbol "#"] => some r
  | some (.symbol "#" :: .name word :: rest) =>
      let next := match r.conditional word rest with
        | some next => next
        | none => if r.active then r.directive word rest else some r
      next.map fun r => { r with fresh := false }
  | some ts =>
      some (if r.active then { r with output := r.expanded ts :: r.output, fresh := false } else r)

def lines (r : Reader) : List (List Char) → Option Reader
  | [] => some r
  | cs :: rest => (r.line cs).bind fun r => r.lines rest

end Reader

/-- The definitions given from outside; of two with one name the last counts. -/
def definitions : List (String × String) → Option Definitions
  | [] => some []
  | (name, value) :: rest => do
      let ts ← tokens value.toList
      let ds ← definitions rest
      return if (ds.lookup name).isSome then ds else (name, ts) :: ds

/-- The tokens of a source text, with some names defined from outside. -/
def readSource (defines : List (String × String)) (source : String) : Option (List Token) := do
  let ds ← definitions defines
  let text ← withoutComments .code source.toList
  let r ← Reader.lines { definitions := ds, open_ := [], fresh := true, output := [] }
    (splitLines [] text)
  if r.open_.isEmpty then some r.output.reverse.flatten else none

end RenderKit.Glsl
