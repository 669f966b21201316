import RenderKit.Journal
import RenderKit.Scene.Geometry

set_option autoImplicit false

/-! # Cameras

A camera has a place, a point it looks at, a direction that is up, and a projection. Its two
matrices are computed when they are asked for and kept until something they depend on is set. A
projection that cannot be one is refused and leaves the camera as it was. -/

namespace RenderKit

inductive Projection where
  /-- The angle of view is in degrees. -/
  | perspective (fov aspect near far : Binary32)
  | orthographic (left right bottom top near far : Binary32)
deriving DecidableEq, Repr

/-! ## Errors -/

/-- What is wrong with a projection. -/
inductive ProjectionFault where
  | fieldOfView (fov : Binary32)
  | aspect (aspect : Binary32)
  | planes (near far : Binary32)
  | zeroExtent
deriving DecidableEq, Repr

inductive CameraError where
  | projection (fault : ProjectionFault)
  /-- The camera stands on the point it looks at. -/
  | noDirection (position : Vec3)
deriving DecidableEq, Repr

def ProjectionFault.message : ProjectionFault → String
  | .fieldOfView fov => "field of view " ++ fov.plainText ++ " must be in (0, 180) degrees"
  | .aspect ratio => "aspect ratio " ++ ratio.plainText ++ " must be positive"
  | .planes near far =>
      "planes near=" ++ near.plainText ++ " far=" ++ far.plainText ++ " need 0 < near < far"
  | .zeroExtent => "orthographic volume has zero extent"

instance : Cause CameraError where
  source _ := "cbox::camera"
  kind _ := .invalidState
  message
    | .projection fault => "Invalid projection: " ++ fault.message
    | .noDirection position => "Camera position and target are both " ++ position.debugText

/-! ## Projections -/

namespace Projection

/-- The number 45. -/
def defaultFov : Binary32 := ⟨0x42340000⟩

/-- Sixteen to nine. -/
def wide : Binary32 := ⟨0x41800000⟩ / ⟨0x41100000⟩

/-- A tenth, and a thousand. -/
def standard : Projection := .perspective defaultFov wide ⟨0x3dcccccd⟩ ⟨0x447a0000⟩

/-- The number 180. -/
def halfTurn : Binary32 := ⟨0x43340000⟩

/-- The first fault of a projection. A NaN compares with nothing: as an angle it is a fault, as
    anything else it is none. -/
def fault? : Projection → Option ProjectionFault
  | .perspective fov aspect near far =>
      if !(Binary32.zero.lt fov && fov.lt halfTurn) then some (.fieldOfView fov)
      else if aspect.le .zero then some (.aspect aspect)
      else if near.le .zero || far.le near then some (.planes near far)
      else none
  | .orthographic left right bottom top near far =>
      if left.eqv right || bottom.eqv top || near.eqv far then some .zeroExtent else none

/-- Degrees in radians. -/
def radians (degrees : Binary32) : Binary32 := degrees * (⟨0x40490fdb⟩ / halfTurn)

def matrix [Geometry] : Projection → Mat4
  | .perspective fov aspect near far => Geometry.perspective (radians fov) aspect near far
  | .orthographic left right bottom top near far =>
      Geometry.orthographic left right bottom top near far

end Projection

/-! ## Cameras -/

structure Camera where
  projection : Projection
  position : Vec3
  target : Vec3
  up : Vec3
  /-- The view matrix, if it was asked for since it last changed. -/
  keptView : Option Mat4
  keptProjection : Option Mat4
deriving DecidableEq, Repr

namespace Camera

/-- Three units in front of the origin, looking at it. -/
def standard : Camera :=
  { projection := .standard
    position := ⟨.zero, .zero, ⟨0x40400000⟩⟩
    target := .zero
    up := .unitY
    keptView := none
    keptProjection := none }

/-! ### What is computed -/

section Computed

variable [Geometry]

/-- The view as its definition gives it. -/
def view (c : Camera) : Mat4 := Geometry.look c.position c.target c.up

/-- The view matrix, kept from now on. -/
def viewMatrix (c : Camera) : Mat4 × Camera :=
  match c.keptView with
  | some m => (m, c)
  | none => (c.view, { c with keptView := some c.view })

/-- The projection matrix, kept from now on. -/
def projectionMatrix (c : Camera) : Mat4 × Camera :=
  match c.keptProjection with
  | some m => (m, c)
  | none => (c.projection.matrix, { c with keptProjection := some c.projection.matrix })

/-- The projection after the view. -/
def viewProjection (c : Camera) : Mat4 × Camera :=
  let (p, c) := c.projectionMatrix
  let (v, c) := c.viewMatrix
  (Geometry.mul p v, c)

/-- The direction of view, zero if there is none. -/
def forward (c : Camera) : Vec3 := Geometry.normalizeOrZero (c.target - c.position)

def right (c : Camera) : Vec3 := Geometry.normalizeOrZero (Geometry.cross c.forward c.up)

end Computed

/-! ### Setting -/

def setPosition (c : Camera) (v : Vec3) : Camera := { c with position := v, keptView := none }

def setTarget (c : Camera) (v : Vec3) : Camera := { c with target := v, keptView := none }

def setUp (c : Camera) (v : Vec3) : Camera := { c with up := v, keptView := none }

/-- Set a projection, unless it has a fault. -/
def setProjection (c : Camera) (p : Projection) : Except CameraError Camera :=
  match p.fault? with
  | some fault => .error (.projection fault)
  | none => .ok { c with projection := p, keptProjection := none }

/-- Set the ratio of width to height. A box of view has none, and stays as it is. -/
def setAspect (c : Camera) (aspect : Binary32) : Except CameraError Camera :=
  match c.projection with
  | .perspective fov _ near far => c.setProjection (.perspective fov aspect near far)
  | .orthographic _ _ _ _ _ _ => .ok c

/-- Move the camera and the point it looks at. -/
def translate (c : Camera) (delta : Vec3) : Camera :=
  { c with position := c.position + delta, target := c.target + delta, keptView := none }

/-- Turn around the target at the same distance: first around the first axis, then around the
    second. On the target there is nothing to turn. -/
def orbit [Geometry] (c : Camera) (yaw pitch : Binary32) : Camera :=
  let offset := c.position - c.target
  let radius := Geometry.length offset
  if radius.eqv .zero then c
  else
    let rotation := Geometry.mul3 (Geometry.rotationY3 yaw) (Geometry.rotationX3 pitch)
    { c with
      position := c.target + (Geometry.normalize (Geometry.apply3 rotation offset)).scale radius
      keptView := none }

/-- Accept a camera as it was put together, if its projection has no fault and it does not stand
    on its target. -/
def checked (c : Camera) : Except CameraError Camera :=
  match c.projection.fault? with
  | some fault => .error (.projection fault)
  | none =>
      if c.position.eqv c.target then .error (.noDirection c.position)
      else .ok { c with keptView := none, keptProjection := none }

end Camera

end RenderKit
