set_option autoImplicit false

/-! # Shader source as a tree

The tree keeps what the interface of a shader depends on: which names are declared with which
types, and which names are mentioned where. Operators are not told apart. -/

namespace RenderKit.Glsl

/-- A type as it is written: a name, and the lengths of arrays around it from the outside in. -/
structure TypeName where
  name : String
  lengths : List (Option Nat)
deriving DecidableEq, Repr

inductive Expr where
  | constant
  | name (x : String)
  /-- A member of a structure or some components of a vector. -/
  | select (base : Expr) (field : String)
  | call (function : String) (arguments : List Expr)
  | operation (operands : List Expr)
deriving Repr

/-- A statement, as far as names go: branches and loops are their conditions, followed by their
    bodies as scopes of their own. -/
inductive Stmt where
  | declare (type : TypeName) (name : String) (value : Option Expr)
  | evaluate (e : Expr)
  | scope (body : List Stmt)
deriving Repr

/-- The words in front of a declaration. -/
structure Qualifiers where
  /-- The words of `layout`, with their values if they have one. -/
  layout : List (String × Option Nat)
  /-- All other words, such as `uniform` or `in`. -/
  words : List String
deriving DecidableEq, Repr

namespace Qualifiers

def none : Qualifiers := ⟨[], []⟩

def has (q : Qualifiers) (word : String) : Bool := q.words.contains word

def isEmpty (q : Qualifiers) : Bool := q.layout.isEmpty && q.words.isEmpty

/-- The number given to a word of `layout`; the last one counts. -/
def value? (q : Qualifiers) (word : String) : Option Nat :=
  (q.layout.reverse.lookup word).join

def mentions (q : Qualifiers) (word : String) : Bool := q.layout.any fun l => l.1 == word

end Qualifiers

/-- A member of a structure or of a block. -/
structure Field where
  type : TypeName
  name : String
deriving DecidableEq, Repr

inductive Declaration where
  /-- A block of an interface, with the name of its instance and the arrays around it. -/
  | block (q : Qualifiers) (fields : List Field)
      (instanceName : Option (String × List (Option Nat)))
  | global (q : Qualifiers) (type : TypeName) (name : String) (value : Option Expr)
  /-- Qualifiers that stand alone, such as the size of a work group. -/
  | settings (q : Qualifiers)
  | struct (name : String) (fields : List Field)
  | function (result : TypeName) (name : String) (parameters : List Field)
      (body : Option (List Stmt))
deriving Repr

end RenderKit.Glsl
