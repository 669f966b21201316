set_option autoImplicit false

/-! # Rectangles of pixels -/

namespace RenderKit

/-- A rectangle of a framebuffer, from its lower left corner. Drawing is mapped to one, and can be
    cut off at one. -/
structure PixelRect where
  x : Int32
  y : Int32
  width : UInt32
  height : UInt32
deriving DecidableEq

namespace PixelRect

/-- All of a framebuffer of some size. -/
def whole (width height : UInt32) : PixelRect := ⟨0, 0, width, height⟩

/-- The four numbers in decimal. -/
def text (r : PixelRect) : String :=
  " ".intercalate
    [toString r.x.toInt, toString r.y.toInt, toString r.width.toNat, toString r.height.toNat]

end PixelRect

end RenderKit
