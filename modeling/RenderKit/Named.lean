set_option autoImplicit false

/-! # Closed choices

Settings with a fixed set of values know all of them and the word for each. -/

namespace RenderKit

class Named (α : Type) where
  all : List α
  name : α → String

/-- The value a word stands for. -/
def Named.ofName? {α : Type} [Named α] (word : String) : Option α :=
  (Named.all (α := α)).find? fun a => Named.name a == word

/-- The word for a value. -/
def nameOf {α : Type} [Named α] (a : α) : String := Named.name a

end RenderKit
