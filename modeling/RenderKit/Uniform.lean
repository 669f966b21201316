import RenderKit.Number.Vector

set_option autoImplicit false

/-! # Values of uniforms

A uniform of a shader holds a number, a vector or a square matrix. Matrices are written column
by column. -/

namespace RenderKit

/-- Three columns. -/
structure Mat3 where
  x : Vec3
  y : Vec3
  z : Vec3
deriving DecidableEq, Repr, Inhabited

/-- Four columns. -/
structure Mat4 where
  x : Vec4
  y : Vec4
  z : Vec4
  w : Vec4
deriving DecidableEq, Repr, Inhabited

def Mat3.toList (m : Mat3) : List Binary32 := m.x.toList ++ m.y.toList ++ m.z.toList

def Mat4.toList (m : Mat4) : List Binary32 :=
  m.x.toList ++ m.y.toList ++ m.z.toList ++ m.w.toList

inductive UniformValue where
  | float (x : Binary32)
  | int (n : Int32)
  | vec2 (v : Vec2)
  | vec3 (v : Vec3)
  | vec4 (v : Vec4)
  | mat3 (m : Mat3)
  | mat4 (m : Mat4)
deriving DecidableEq

namespace UniformValue

def typeName : UniformValue → String
  | .float _ => "float"
  | .int _ => "int"
  | .vec2 _ => "vec2"
  | .vec3 _ => "vec3"
  | .vec4 _ => "vec4"
  | .mat3 _ => "mat3"
  | .mat4 _ => "mat4"

/-- The patterns of the members; an integer is shown in decimal. -/
def text : UniformValue → String
  | .float x => x.text
  | .int n => toString n.toInt
  | .vec2 v => Binary32.listText v.toList
  | .vec3 v => Binary32.listText v.toList
  | .vec4 v => Binary32.listText v.toList
  | .mat3 m => Binary32.listText m.toList
  | .mat4 m => Binary32.listText m.toList

end UniformValue

end RenderKit
