import RenderKit.Shader.Glsl.Syntax
import RenderKit.Shader.Glsl.Token

set_option autoImplicit false

/-! # The grammar of shader source

A recursive descent over the tokens. Every function returns what it read and the tokens behind
it, or nothing if the tokens do not fit. Fuel bounds the depth of the descent; the number of
tokens is always enough of it, because each step that goes down consumes a token or is one of
few that lead to one. -/

namespace RenderKit.Glsl

namespace Grammar

/-- A reader of the tokens at the front. -/
abbrev Parse (α : Type) := StateT (List Token) Option α

def next : Parse Token := do
  match ← get with
  | [] => failure
  | t :: rest => set rest; return t

def peek : Parse (Option Token) := return (← get).head?

def peekSecond : Parse (Option Token) := return (← get)[1]?

def expect (symbol : String) : Parse Unit := do
  if (← next) = .symbol symbol then return () else failure

/-- Read a symbol if it comes next. -/
def accept? (symbol : String) : Parse Bool := do
  if (← peek) = some (.symbol symbol) then
    let _ ← next
    return true
  else return false

/-- Words that are no names of their own. -/
def keywords : List String :=
  ["if", "else", "for", "while", "do", "return", "break", "continue", "discard", "switch", "case",
   "default", "struct", "const", "in", "out", "inout", "uniform", "buffer", "shared", "layout",
   "flat", "smooth", "noperspective", "centroid", "sample", "highp", "mediump", "lowp",
   "precision", "invariant", "restrict", "readonly", "writeonly", "coherent", "volatile"]

def ident : Parse String := do
  match ← next with
  | .name x => if keywords.contains x then failure else return x
  | _ => failure

/-- Read a word if it comes next. -/
def acceptWord? (word : String) : Parse Bool := do
  if (← peek) = some (.name word) then
    let _ ← next
    return true
  else return false

/-- Things with commas between them, one at least. Fuel bounds their number. -/
def separated {α : Type} (item : Parse α) : Nat → Parse (List α)
  | 0 => failure
  | fuel + 1 => do
      let a ← item
      if ← accept? "," then return a :: (← separated item fuel) else return [a]

/-! ## Types -/

/-- The lengths of arrays behind a name. -/
def lengths : Nat → Parse (List (Option Nat))
  | 0 => failure
  | fuel + 1 => do
      if ← accept? "[" then
        if ← accept? "]" then return none :: (← lengths fuel)
        match ← next with
        | .number (some n) => do
            expect "]"
            return some n :: (← lengths fuel)
        | _ => failure
      else return []

def typeName : Parse TypeName := do
  let name ← ident
  return ⟨name, ← lengths (← get).length.succ⟩

/-- A declared name, with the arrays around its type. -/
def declarator (type : TypeName) : Parse (TypeName × String) := do
  let name ← ident
  let more ← lengths (← get).length.succ
  return (⟨type.name, more ++ type.lengths⟩, name)

/-! ## Expressions -/

def binaryOperators : List String :=
  ["+", "-", "*", "/", "%", "<<", ">>", "<", ">", "<=", ">=", "==", "!=", "&", "|", "^", "&&",
   "||", "^^", "=", "+=", "-=", "*=", "/=", "%=", "&=", "|=", "^=", "<<=", ">>="]

def unaryOperators : List String := ["+", "-", "!", "~", "++", "--"]

mutual

/-- Operands with operators between them. -/
def expr : Nat → Parse Expr
  | 0 => failure
  | fuel + 1 => do
      let first ← operand fuel
      match ← peek with
      | some (.symbol "?") => do
          let _ ← next
          let yes ← expr fuel
          expect ":"
          let no ← expr fuel
          return .operation [first, yes, no]
      | some (.symbol s) =>
          if binaryOperators.contains s then do
            let _ ← next
            return .operation [first, ← expr fuel]
          else return first
      | _ => return first

def operand : Nat → Parse Expr
  | 0 => failure
  | fuel + 1 => do
      match ← peek with
      | some (.symbol s) =>
          if unaryOperators.contains s then do
            let _ ← next
            return .operation [← operand fuel]
          else do
            expect "("
            let e ← expr fuel
            expect ")"
            suffixes fuel e
      | some (.number _) => do
          let _ ← next
          suffixes fuel .constant
      | some (.name "true") | some (.name "false") => do
          let _ ← next
          suffixes fuel .constant
      | some (.name _) => do
          let x ← ident
          if ← accept? "(" then
            let arguments ← callArguments fuel
            suffixes fuel (.call x arguments)
          else suffixes fuel (.name x)
      | none => failure

/-- The arguments of a call, with the parenthesis behind them. -/
def callArguments : Nat → Parse (List Expr)
  | 0 => failure
  | fuel + 1 => do
      if ← accept? ")" then return []
      if ← acceptWord? "void" then
        expect ")"
        return []
      moreArguments fuel

def moreArguments : Nat → Parse (List Expr)
  | 0 => failure
  | fuel + 1 => do
      let e ← expr fuel
      if ← accept? "," then return e :: (← moreArguments fuel)
      expect ")"
      return [e]

/-- Members, elements and steps behind an operand. -/
def suffixes : Nat → Expr → Parse Expr
  | 0, _ => failure
  | fuel + 1, e => do
      match ← peek with
      | some (.symbol ".") => do
          let _ ← next
          let field ← ident
          if ← accept? "(" then
            let _ ← callArguments fuel
            suffixes fuel (.operation [e])
          else suffixes fuel (.select e field)
      | some (.symbol "[") => do
          let _ ← next
          let place ← expr fuel
          expect "]"
          suffixes fuel (.operation [e, place])
      | some (.symbol "++") | some (.symbol "--") => do
          let _ ← next
          suffixes fuel (.operation [e])
      | _ => return e

end

/-- Expressions with commas between them. -/
def exprList (fuel : Nat) : Parse Expr := do
  return .operation (← separated (expr fuel) fuel)

/-! ## Statements -/

def precisions : List String := ["highp", "mediump", "lowp"]

/-- Skip the words that say nothing about a local variable. -/
def localWords : Nat → Parse Bool
  | 0 => failure
  | fuel + 1 => do
      match ← peek with
      | some (.name x) =>
          if x = "const" || precisions.contains x then do
            let _ ← next
            let _ ← localWords fuel
            return true
          else return false
      | _ => return false

/-- Whether a declaration comes next: a type and a name stand there. -/
def startsDeclaration : Parse Bool := do
  match (← get) with
  | .name x :: .name _ :: _ => return !keywords.contains x
  | .name x :: .symbol "[" :: .symbol "]" :: .name _ :: _ => return !keywords.contains x
  | .name x :: .symbol "[" :: .number _ :: .symbol "]" :: .name _ :: _ =>
      return !keywords.contains x
  | _ => return false

def localVariable (fuel : Nat) (type : TypeName) : Parse Stmt := do
  let (type, name) ← declarator type
  let value ← if ← accept? "=" then some <$> expr fuel else pure none
  return .declare type name value

/-- A declaration or an expression, with the semicolon behind it. -/
def simple (fuel : Nat) : Parse (List Stmt) := do
  let qualified ← localWords fuel
  let declares ← startsDeclaration
  if qualified || declares then
    let type ← typeName
    let declared ← separated (localVariable fuel type) fuel
    expect ";"
    return declared
  else
    let e ← exprList fuel
    expect ";"
    return [.evaluate e]

mutual

def stmt : Nat → Parse (List Stmt)
  | 0 => failure
  | fuel + 1 => do
      match ← peek with
      | some (.symbol "\x7b") => do
          let _ ← next
          return [.scope (← body fuel)]
      | some (.symbol ";") => do
          let _ ← next
          return []
      | some (.name "if") => do
          let _ ← next
          expect "("
          let c ← exprList fuel
          expect ")"
          let yes ← stmt fuel
          if ← acceptWord? "else" then
            let no ← stmt fuel
            return [.evaluate c, .scope yes, .scope no]
          return [.evaluate c, .scope yes]
      | some (.name "for") => do
          let _ ← next
          expect "("
          let start ← if ← accept? ";" then pure [] else simple fuel
          let c ← if ← accept? ";" then pure []
            else do
              let c ← exprList fuel
              expect ";"
              pure [Stmt.evaluate c]
          let step ← if ← accept? ")" then pure []
            else do
              let e ← exprList fuel
              expect ")"
              pure [Stmt.evaluate e]
          let inner ← stmt fuel
          return [.scope (start ++ c ++ step ++ [.scope inner])]
      | some (.name "while") => do
          let _ ← next
          expect "("
          let c ← exprList fuel
          expect ")"
          return [.evaluate c, .scope (← stmt fuel)]
      | some (.name "do") => do
          let _ ← next
          let inner ← stmt fuel
          if !(← acceptWord? "while") then failure
          expect "("
          let c ← exprList fuel
          expect ")"
          expect ";"
          return [.scope inner, .evaluate c]
      | some (.name "switch") => do
          let _ ← next
          expect "("
          let c ← exprList fuel
          expect ")"
          expect "\x7b"
          return [.evaluate c, .scope (← body fuel)]
      | some (.name "case") => do
          let _ ← next
          let e ← expr fuel
          expect ":"
          return [.evaluate e]
      | some (.name "default") => do
          let _ ← next
          expect ":"
          return []
      | some (.name "return") => do
          let _ ← next
          if ← accept? ";" then return []
          let e ← exprList fuel
          expect ";"
          return [.evaluate e]
      | some (.name "break") | some (.name "continue") | some (.name "discard") => do
          let _ ← next
          expect ";"
          return []
      | _ => simple fuel

/-- Statements up to the brace that closes them. -/
def body : Nat → Parse (List Stmt)
  | 0 => failure
  | fuel + 1 => do
      if ← accept? "\x7d" then return []
      let first ← stmt fuel
      return first ++ (← body fuel)

end

/-! ## Declarations -/

/-- The words of one `layout`. -/
def layoutWord : Parse (String × Option Nat) := do
  match ← next with
  | .name word =>
      if ← accept? "=" then
        match ← next with
        | .number (some n) => return (word, some n)
        | _ => failure
      else return (word, none)
  | _ => failure

def qualifierWords : List String :=
  ["const", "in", "out", "uniform", "buffer", "shared", "flat", "smooth", "noperspective",
   "centroid", "sample", "highp", "mediump", "lowp", "invariant", "restrict", "readonly",
   "writeonly"]

def qualifiers : Nat → Parse Qualifiers
  | 0 => failure
  | fuel + 1 => do
      match ← peek with
      | some (.name "layout") => do
          let _ ← next
          expect "("
          let words ← separated layoutWord fuel
          expect ")"
          let q ← qualifiers fuel
          return { q with layout := words ++ q.layout }
      | some (.name x) =>
          if qualifierWords.contains x then do
            let _ ← next
            let q ← qualifiers fuel
            return { q with words := x :: q.words }
          else return .none
      | _ => return .none

/-- The members of a structure up to the brace that closes it. -/
def fields : Nat → Parse (List Field)
  | 0 => failure
  | fuel + 1 => do
      if ← accept? "\x7d" then return []
      let _ ← qualifiers fuel
      let type ← typeName
      let names ← separated (declarator type) fuel
      expect ";"
      return names.map (fun n => ⟨n.1, n.2⟩) ++ (← fields fuel)

def parameter (fuel : Nat) : Parse Field := do
  let _ ← localWords fuel
  for word in ["inout", "in", "out"] do
    let _ ← acceptWord? word
  let _ ← localWords fuel
  let type ← typeName
  match ← peek with
  | some (.name _) => do
      let (type, name) ← declarator type
      return ⟨type, name⟩
  | _ => return ⟨type, ""⟩

/-- The parameters of a function, with the parenthesis behind them. -/
def parameters (fuel : Nat) : Parse (List Field) := do
  if ← accept? ")" then return []
  if (← peek) = some (.name "void") && (← peekSecond) = some (.symbol ")") then
    let _ ← next
    let _ ← next
    return []
  let ps ← separated (parameter fuel) fuel
  expect ")"
  return ps

def globalVariable (fuel : Nat) (q : Qualifiers) (type : TypeName) : Parse Declaration := do
  let (type, name) ← declarator type
  let value ← if ← accept? "=" then some <$> expr fuel else pure none
  return .global q type name value

/-- A block, behind its name. -/
def block (fuel : Nat) (q : Qualifiers) : Parse Declaration := do
  expect "\x7b"
  let members ← fields fuel
  if ← accept? ";" then return .block q members none
  let name ← ident
  let around ← lengths fuel
  expect ";"
  return .block q members (some (name, around))

def declaration (fuel : Nat) : Parse (List Declaration) := do
  if ← accept? ";" then return []
  if ← acceptWord? "precision" then
    let _ ← next
    let _ ← ident
    expect ";"
    return []
  let q ← qualifiers fuel
  if ← acceptWord? "struct" then
    let name ← ident
    expect "\x7b"
    let members ← fields fuel
    expect ";"
    return [.struct name members]
  if ← accept? ";" then return [.settings q]
  if (← peekSecond) = some (.symbol "\x7b") then
    let _ ← ident
    return [← block fuel q]
  let type ← typeName
  match (← get) with
  | .name name :: .symbol "(" :: rest => do
      set rest
      if keywords.contains name then failure
      let ps ← parameters fuel
      if ← accept? ";" then return [.function type name ps none]
      expect "\x7b"
      let inner ← body fuel
      return [.function type name ps (some inner)]
  | _ => do
      let declared ← separated (globalVariable fuel q type) fuel
      expect ";"
      return declared

def declarations : Nat → Parse (List Declaration)
  | 0 => failure
  | fuel + 1 => do
      if (← get).isEmpty then return []
      let first ← declaration fuel
      return first ++ (← declarations fuel)

end Grammar

/-- The declarations of a source, unless it breaks the grammar. -/
def parse (ts : List Token) : Option (List Declaration) :=
  ((Grammar.declarations (4 * ts.length + 8)).run ts).map (·.1)

end RenderKit.Glsl
