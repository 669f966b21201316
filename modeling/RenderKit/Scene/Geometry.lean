import RenderKit.Uniform

set_option autoImplicit false

/-! # Geometry

Lengths, directions, rotations, and the matrices of views, projections and objects are computed by a
library for them. Nothing here depends on how it rounds. -/

namespace RenderKit

/-- A rotation. -/
structure Quaternion where
  x : Binary32
  y : Binary32
  z : Binary32
  w : Binary32
deriving DecidableEq, Repr

/-- What is computed with vectors, matrices and rotations. Angles are in radians. -/
class Geometry where
  length : Vec3 → Binary32
  /-- The vector over its length, whatever that gives. -/
  normalize : Vec3 → Vec3
  /-- The vector over its length, or zero where that is no direction. -/
  normalizeOrZero : Vec3 → Vec3
  cross : Vec3 → Vec3 → Vec3
  mul3 : Mat3 → Mat3 → Mat3
  apply3 : Mat3 → Vec3 → Vec3
  /-- The rotations around the first and the second axis. -/
  rotationX3 : Binary32 → Mat3
  rotationY3 : Binary32 → Mat3
  mul : Mat4 → Mat4 → Mat4
  /-- The view from a place toward another, with a direction that is up. -/
  look : Vec3 → Vec3 → Vec3 → Mat4
  /-- The projection of a cone of view: its angle, its ratio and its planes. -/
  perspective : Binary32 → Binary32 → Binary32 → Binary32 → Mat4
  /-- The projection of a box of view, by its six sides. -/
  orthographic : Binary32 → Binary32 → Binary32 → Binary32 → Binary32 → Binary32 → Mat4
  /-- The rotations around the axes. -/
  rotationX : Binary32 → Quaternion
  rotationY : Binary32 → Quaternion
  rotationZ : Binary32 → Quaternion
  /-- One rotation after another, which stands on the right. -/
  turn : Quaternion → Quaternion → Quaternion
  /-- The matrix that scales, then turns, then moves. -/
  ofParts : Vec3 → Quaternion → Vec3 → Mat4

end RenderKit
