import RenderKit.Scene.Geometry

set_option autoImplicit false

/-! # Transforms

A transform places an object: it is scaled, turned around the three axes one after the other,
and moved. The matrix is computed when it is asked for and kept until a part is set. -/

namespace RenderKit

structure Transform where
  position : Vec3
  /-- The angles around the axes, in radians. -/
  rotation : Vec3
  scale : Vec3
  kept : Option Mat4
deriving DecidableEq, Repr

namespace Transform

def new (position rotation scale : Vec3) : Transform := ⟨position, rotation, scale, none⟩

def identity : Transform := new .zero .zero .ones

section Computed

variable [Geometry]

/-- The turn around the first axis, then the second, then the third. -/
def turn (t : Transform) : Quaternion :=
  Geometry.turn (Geometry.turn (Geometry.rotationZ t.rotation.z) (Geometry.rotationY t.rotation.y))
    (Geometry.rotationX t.rotation.x)

/-- The matrix as its definition gives it. -/
def computed (t : Transform) : Mat4 := Geometry.ofParts t.scale t.turn t.position

/-- The matrix, kept from now on. -/
def matrix (t : Transform) : Mat4 × Transform :=
  match t.kept with
  | some m => (m, t)
  | none => (t.computed, { t with kept := some t.computed })

/-- Where the axes of the object point to; forward is against the third one. -/
def forward (t : Transform) : Vec3 × Transform :=
  let (m, t) := t.matrix
  (Geometry.normalizeOrZero (-m.z.truncate), t)

def right (t : Transform) : Vec3 × Transform :=
  let (m, t) := t.matrix
  (Geometry.normalizeOrZero m.x.truncate, t)

def up (t : Transform) : Vec3 × Transform :=
  let (m, t) := t.matrix
  (Geometry.normalizeOrZero m.y.truncate, t)

end Computed

def setPosition (t : Transform) (v : Vec3) : Transform := { t with position := v, kept := none }

def setRotation (t : Transform) (v : Vec3) : Transform := { t with rotation := v, kept := none }

def setScale (t : Transform) (v : Vec3) : Transform := { t with scale := v, kept := none }

def translate (t : Transform) (delta : Vec3) : Transform := t.setPosition (t.position + delta)

def rotate (t : Transform) (delta : Vec3) : Transform := t.setRotation (t.rotation + delta)

def scaleBy (t : Transform) (factor : Vec3) : Transform := t.setScale (t.scale.times factor)

end Transform

end RenderKit
