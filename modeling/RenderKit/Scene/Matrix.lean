import RenderKit.Scene.Geometry

set_option autoImplicit false

/-! # Geometry in single precision

Matrices act on columns from the left. Views look along the negative third axis, and depths end
up between minus one and one. -/

namespace RenderKit

namespace Vec3

def dot (v w : Vec3) : Binary32 := v.x * w.x + v.y * w.y + v.z * w.z

def cross (v w : Vec3) : Vec3 :=
  ⟨v.y * w.z - w.y * v.z, v.z * w.x - w.z * v.x, v.x * w.y - w.x * v.y⟩

def length (v : Vec3) : Binary32 := (v.dot v).sqrt

/-- The vector over its length, whatever that gives. -/
def normalize (v : Vec3) : Vec3 := v.scale (.one / v.length)

/-- The vector over its length, or zero where that is no direction. -/
def normalizeOrZero (v : Vec3) : Vec3 :=
  let r := Binary32.one / v.length
  if r.isFinite && Binary32.zero.lt r then v.scale r else zero

end Vec3

/-- A vector of three with a fourth member. -/
def Vec3.extend (v : Vec3) (w : Binary32) : Vec4 := ⟨v.x, v.y, v.z, w⟩

/-! ## Three columns -/

namespace Mat3

def apply (m : Mat3) (v : Vec3) : Vec3 := m.x.scale v.x + m.y.scale v.y + m.z.scale v.z

def mul (a b : Mat3) : Mat3 := ⟨a.apply b.x, a.apply b.y, a.apply b.z⟩

/-- The rotation around the second axis. -/
def rotationY (angle : Binary32) : Mat3 :=
  ⟨⟨angle.cos, .zero, -angle.sin⟩, Vec3.unitY, ⟨angle.sin, .zero, angle.cos⟩⟩

/-- The rotation around the first axis. -/
def rotationX (angle : Binary32) : Mat3 :=
  ⟨⟨.one, .zero, .zero⟩, ⟨.zero, angle.cos, angle.sin⟩, ⟨.zero, -angle.sin, angle.cos⟩⟩

end Mat3

/-! ## Four columns -/

namespace Mat4

def apply (m : Mat4) (v : Vec4) : Vec4 :=
  m.x.scale v.x + m.y.scale v.y + m.z.scale v.z + m.w.scale v.w

def mul (a b : Mat4) : Mat4 := ⟨a.apply b.x, a.apply b.y, a.apply b.z, a.apply b.w⟩

/-- The view from a place toward another. -/
def look (eye center up : Vec3) : Mat4 :=
  let f := (center - eye).normalize
  let s := (f.cross up).normalize
  let u := s.cross f
  ⟨⟨s.x, u.x, -f.x, .zero⟩, ⟨s.y, u.y, -f.y, .zero⟩, ⟨s.z, u.z, -f.z, .zero⟩,
    ⟨-eye.dot s, -eye.dot u, eye.dot f, .one⟩⟩

/-- The projection of a cone of view; the angle is in radians. -/
def perspective (angle aspect near far : Binary32) : Mat4 :=
  let i := Binary32.one / (near - far)
  let t := Binary32.one / (Binary32.half * angle).tan
  ⟨⟨t / aspect, .zero, .zero, .zero⟩, ⟨.zero, t, .zero, .zero⟩,
    ⟨.zero, .zero, (near + far) * i, -Binary32.one⟩,
    ⟨.zero, .zero, Binary32.two * near * far * i, .zero⟩⟩

/-- The projection of a box of view. -/
def orthographic (left right bottom top near far : Binary32) : Mat4 :=
  ⟨⟨Binary32.two / (right - left), .zero, .zero, .zero⟩,
    ⟨.zero, Binary32.two / (top - bottom), .zero, .zero⟩,
    ⟨.zero, .zero, -Binary32.two / (far - near), .zero⟩,
    ⟨-(right + left) / (right - left), -(top + bottom) / (top - bottom),
      -(far + near) / (far - near), .one⟩⟩

end Mat4

/-! ## Rotations as unit quaternions -/

namespace Quaternion

def rotationX (angle : Binary32) : Quaternion :=
  let a := angle * .half
  ⟨a.sin, .zero, .zero, a.cos⟩

def rotationY (angle : Binary32) : Quaternion :=
  let a := angle * .half
  ⟨.zero, a.sin, .zero, a.cos⟩

def rotationZ (angle : Binary32) : Quaternion :=
  let a := angle * .half
  ⟨.zero, .zero, a.sin, a.cos⟩

def mul (p q : Quaternion) : Quaternion :=
  ⟨(p.w * q.x + p.x * q.w) + (p.y * q.z - p.z * q.y),
   (p.w * q.y - p.x * q.z) + (p.y * q.w + p.z * q.x),
   (p.w * q.z + p.x * q.y) + (p.z * q.w - p.y * q.x),
   (p.w * q.w - p.x * q.x) + (-(p.y * q.y) - p.z * q.z)⟩

end Quaternion

/-- The matrix that scales, then turns, then moves. -/
def Mat4.ofParts (scale : Vec3) (q : Quaternion) (position : Vec3) : Mat4 :=
  let x2 := q.x + q.x
  let y2 := q.y + q.y
  let z2 := q.z + q.z
  let xx := q.x * x2
  let xy := q.x * y2
  let xz := q.x * z2
  let yy := q.y * y2
  let yz := q.y * z2
  let zz := q.z * z2
  let wx := q.w * x2
  let wy := q.w * y2
  let wz := q.w * z2
  let one := Binary32.one
  let zero := Binary32.zero
  ⟨Vec4.scale ⟨one - (yy + zz), xy + wz, xz - wy, zero⟩ scale.x,
   Vec4.scale ⟨xy - wz, one - (xx + zz), yz + wx, zero⟩ scale.y,
   Vec4.scale ⟨xz + wy, yz - wx, one - (xx + yy), zero⟩ scale.z,
   position.extend one⟩

instance : Geometry where
  length := Vec3.length
  normalize := Vec3.normalize
  normalizeOrZero := Vec3.normalizeOrZero
  cross := Vec3.cross
  mul3 := Mat3.mul
  apply3 := Mat3.apply
  rotationX3 := Mat3.rotationX
  rotationY3 := Mat3.rotationY
  mul := Mat4.mul
  look := Mat4.look
  perspective := Mat4.perspective
  orthographic := Mat4.orthographic
  rotationX := Quaternion.rotationX
  rotationY := Quaternion.rotationY
  rotationZ := Quaternion.rotationZ
  turn := Quaternion.mul
  ofParts := Mat4.ofParts

end RenderKit
