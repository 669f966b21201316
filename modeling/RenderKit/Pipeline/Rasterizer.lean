import RenderKit.Named
import RenderKit.Number.Vector

set_option autoImplicit false

/-! # Rasterization and primitive assembly -/

namespace RenderKit

/-- How vertices form primitives. -/
inductive Topology where
  | pointList
  | lineList
  | lineStrip
  | triangleList
  | triangleStrip
  | triangleFan
deriving DecidableEq, Repr

instance : Named Topology where
  all := [.pointList, .lineList, .lineStrip, .triangleList, .triangleStrip, .triangleFan]
  name
    | .pointList => "PointList"
    | .lineList => "LineList"
    | .lineStrip => "LineStrip"
    | .triangleList => "TriangleList"
    | .triangleStrip => "TriangleStrip"
    | .triangleFan => "TriangleFan"

inductive CullMode where
  | none
  | front
  | back
  | frontAndBack
deriving DecidableEq, Repr

instance : Named CullMode where
  all := [.none, .front, .back, .frontAndBack]
  name
    | .none => "None"
    | .front => "Front"
    | .back => "Back"
    | .frontAndBack => "FrontAndBack"

/-- The winding of front faces. -/
inductive FrontFace where
  | counterClockwise
  | clockwise
deriving DecidableEq, Repr

instance : Named FrontFace where
  all := [.counterClockwise, .clockwise]
  name
    | .counterClockwise => "CounterClockwise"
    | .clockwise => "Clockwise"

inductive PolygonMode where
  | fill
  | line
  | point
deriving DecidableEq, Repr

instance : Named PolygonMode where
  all := [.fill, .line, .point]
  name
    | .fill => "Fill"
    | .line => "Line"
    | .point => "Point"

structure Rasterizer where
  cull : CullMode
  polygon : PolygonMode
  front : FrontFace
  /-- The constant part of the depth offset. -/
  bias : Binary32
  /-- The part that grows with the slope. -/
  slope : Binary32
  depthClamp : Bool
  scissorTest : Bool
deriving DecidableEq, Repr

namespace Rasterizer

/-- Filled polygons without their backs. -/
def standard : Rasterizer :=
  { cull := .back
    polygon := .fill
    front := .counterClockwise
    bias := .zero
    slope := .zero
    depthClamp := false
    scissorTest := false }

def noCull : Rasterizer := { standard with cull := .none }

def wireframe : Rasterizer := { standard with polygon := .line }

/-- Depths are offset when one of the two parts is not zero; a NaN is not zero. -/
def offsetEnabled (r : Rasterizer) : Bool := !r.bias.eqv .zero || !r.slope.eqv .zero

def text (r : Rasterizer) : String :=
  let flag (b : Bool) : String := if b then "true" else "false"
  "cull=" ++ nameOf r.cull ++ " poly=" ++ nameOf r.polygon ++ " front=" ++ nameOf r.front
    ++ " bias=" ++ r.bias.text ++ " slope=" ++ r.slope.text ++ " clamp=" ++ flag r.depthClamp
    ++ " scissor=" ++ flag r.scissorTest ++ " offset=" ++ flag r.offsetEnabled

end Rasterizer

end RenderKit
