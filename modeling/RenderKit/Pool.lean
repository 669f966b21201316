set_option autoImplicit false

/-! # Shared objects

Objects with several owners live in a pool. A reference is a place in the pool; places are never
used again. An object counts its owners, and it leaves the pool with the last of them. -/

namespace RenderKit

/-- A reference to an object of a type. -/
structure Ref (α : Type) where
  place : Nat
deriving DecidableEq, Repr

structure Slot (α : Type) where
  value : α
  owners : Nat

/-- The objects of a type; an empty place was given up by its last owner. -/
structure Pool (α : Type) where
  slots : List (Option (Slot α))

namespace Pool

variable {α : Type}

def empty : Pool α := ⟨[]⟩

def slot? (p : Pool α) (r : Ref α) : Option (Slot α) := (p.slots[r.place]?).join

/-- The object behind a reference, as long as it has owners. -/
def get? (p : Pool α) (r : Ref α) : Option α := (p.slot? r).map (·.value)

def owners (p : Pool α) (r : Ref α) : Nat := ((p.slot? r).map (·.owners)).getD 0

/-- Put in an object with one owner. -/
def add (p : Pool α) (a : α) : Ref α × Pool α :=
  (⟨p.slots.length⟩, ⟨p.slots ++ [some ⟨a, 1⟩]⟩)

/-- Change an object. -/
def update (p : Pool α) (r : Ref α) (f : α → α) : Pool α :=
  ⟨p.slots.modify r.place fun s => s.map fun s => { s with value := f s.value }⟩

/-- Count one more owner. -/
def retain (p : Pool α) (r : Ref α) : Pool α :=
  ⟨p.slots.modify r.place fun s => s.map fun s => { s with owners := s.owners + 1 }⟩

/-- Count one owner less. With the last owner the object is taken out and given back. -/
def release (p : Pool α) (r : Ref α) : Option α × Pool α :=
  match p.slot? r with
  | none => (none, p)
  | some s =>
      if s.owners ≤ 1 then (some s.value, ⟨p.slots.set r.place none⟩)
      else (none, ⟨p.slots.set r.place (some { s with owners := s.owners - 1 })⟩)

@[simp] theorem get?_add (p : Pool α) (a : α) : (p.add a).2.get? (p.add a).1 = some a := by
  simp [add, get?, slot?]

@[simp] theorem owners_add (p : Pool α) (a : α) : (p.add a).2.owners (p.add a).1 = 1 := by
  simp [add, owners, slot?]

@[simp] theorem get?_update (p : Pool α) (r : Ref α) (f : α → α) :
    (p.update r f).get? r = (p.get? r).map f := by
  simp only [update, get?, slot?, List.getElem?_modify_eq]
  rcases p.slots[r.place]? with _ | _ | s <;> rfl

@[simp] theorem update_update (p : Pool α) (r : Ref α) (f g : α → α) :
    (p.update r f).update r g = p.update r (g ∘ f) := by
  simp only [update, List.modify_modify_eq]
  congr 2
  funext s
  cases s <;> rfl

end Pool

end RenderKit
