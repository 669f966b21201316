import RenderKit.Number.Shortest
import RenderKit.Text.Hex

set_option autoImplicit false

/-! # Vectors

Short columns of numbers. Two vectors are the same point when their members are equal as
numbers, so no vector with a NaN is the same point as any other. -/

namespace RenderKit

structure Vec2 where
  x : Binary32
  y : Binary32
deriving DecidableEq, Repr, Inhabited

structure Vec3 where
  x : Binary32
  y : Binary32
  z : Binary32
deriving DecidableEq, Repr, Inhabited

structure Vec4 where
  x : Binary32
  y : Binary32
  z : Binary32
  w : Binary32
deriving DecidableEq, Repr, Inhabited

namespace Vec2

def toList (v : Vec2) : List Binary32 := [v.x, v.y]

end Vec2

namespace Vec3

def toList (v : Vec3) : List Binary32 := [v.x, v.y, v.z]

def zero : Vec3 := ⟨.zero, .zero, .zero⟩

def ones : Vec3 := ⟨.one, .one, .one⟩

def unitY : Vec3 := ⟨.zero, .one, .zero⟩

/-- Whether two vectors are the same point. -/
def eqv (v w : Vec3) : Bool := v.x.eqv w.x && v.y.eqv w.y && v.z.eqv w.z

def debugText (v : Vec3) : String :=
  "Vec3(" ++ ", ".intercalate (v.toList.map Binary32.debugText) ++ ")"

instance : Neg Vec3 := ⟨fun v => ⟨-v.x, -v.y, -v.z⟩⟩

instance : Add Vec3 := ⟨fun v w => ⟨v.x + w.x, v.y + w.y, v.z + w.z⟩⟩

instance : Sub Vec3 := ⟨fun v w => ⟨v.x - w.x, v.y - w.y, v.z - w.z⟩⟩

/-- The product member by member. -/
def times (v w : Vec3) : Vec3 := ⟨v.x * w.x, v.y * w.y, v.z * w.z⟩

/-- The product with a number. -/
def scale (v : Vec3) (s : Binary32) : Vec3 := ⟨v.x * s, v.y * s, v.z * s⟩

end Vec3

namespace Vec4

def toList (v : Vec4) : List Binary32 := [v.x, v.y, v.z, v.w]

def zero : Vec4 := ⟨.zero, .zero, .zero, .zero⟩

instance : Add Vec4 := ⟨fun v w => ⟨v.x + w.x, v.y + w.y, v.z + w.z, v.w + w.w⟩⟩

/-- The product with a number. -/
def scale (v : Vec4) (s : Binary32) : Vec4 := ⟨v.x * s, v.y * s, v.z * s, v.w * s⟩

/-- The first three members. -/
def truncate (v : Vec4) : Vec3 := ⟨v.x, v.y, v.z⟩

/-- Solid black, as a color. -/
def black : Vec4 := ⟨.zero, .zero, .zero, .one⟩

def text (v : Vec4) : String := Binary32.listText v.toList

end Vec4

end RenderKit
