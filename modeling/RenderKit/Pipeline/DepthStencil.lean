import RenderKit.Named
import RenderKit.Text.Quoted

set_option autoImplicit false

/-! # Depth and stencil tests -/

namespace RenderKit

inductive CompareOp where
  | never
  | less
  | equal
  | lessOrEqual
  | greater
  | notEqual
  | greaterOrEqual
  | always
deriving DecidableEq, Repr

instance : Named CompareOp where
  all := [.never, .less, .equal, .lessOrEqual, .greater, .notEqual, .greaterOrEqual, .always]
  name
    | .never => "Never"
    | .less => "Less"
    | .equal => "Equal"
    | .lessOrEqual => "LessOrEqual"
    | .greater => "Greater"
    | .notEqual => "NotEqual"
    | .greaterOrEqual => "GreaterOrEqual"
    | .always => "Always"

inductive StencilOp where
  | keep
  | zero
  | replace
  | incrementAndClamp
  | decrementAndClamp
  | invert
  | incrementAndWrap
  | decrementAndWrap
deriving DecidableEq, Repr

instance : Named StencilOp where
  all := [.keep, .zero, .replace, .incrementAndClamp, .decrementAndClamp, .invert,
    .incrementAndWrap, .decrementAndWrap]
  name
    | .keep => "Keep"
    | .zero => "Zero"
    | .replace => "Replace"
    | .incrementAndClamp => "IncrementAndClamp"
    | .decrementAndClamp => "DecrementAndClamp"
    | .invert => "Invert"
    | .incrementAndWrap => "IncrementAndWrap"
    | .decrementAndWrap => "DecrementAndWrap"

/-- The stencil test of one side of a face. -/
structure StencilFace where
  fail : StencilOp
  depthFail : StencilOp
  pass : StencilOp
  compare : CompareOp
  compareMask : UInt32
  writeMask : UInt32
  reference : UInt32
deriving DecidableEq, Repr

/-- A test that always passes and changes nothing. -/
def StencilFace.standard : StencilFace :=
  { fail := .keep
    depthFail := .keep
    pass := .keep
    compare := .always
    compareMask := 0xff
    writeMask := 0xff
    reference := 0 }

def StencilFace.text (f : StencilFace) : String :=
  "(" ++ ",".intercalate
    [nameOf f.fail, nameOf f.depthFail, nameOf f.pass, nameOf f.compare,
     toString f.compareMask.toNat, toString f.writeMask.toNat, toString f.reference.toNat] ++ ")"

structure DepthStencil where
  depthTest : Bool
  depthWrite : Bool
  depthCompare : CompareOp
  stencilTest : Bool
  front : StencilFace
  back : StencilFace
deriving DecidableEq, Repr

namespace DepthStencil

/-- Nearer fragments win. -/
def standard : DepthStencil :=
  { depthTest := true
    depthWrite := true
    depthCompare := .less
    stencilTest := false
    front := .standard
    back := .standard }

/-- Depth is neither tested nor written. -/
def noDepth : DepthStencil := { standard with depthTest := false, depthWrite := false }

/-- Depth is tested but not written. -/
def readOnly : DepthStencil := { standard with depthWrite := false }

def text (d : DepthStencil) : String :=
  "test=" ++ boolText d.depthTest ++ " write=" ++ boolText d.depthWrite
    ++ " cmp=" ++ nameOf d.depthCompare ++ " stencil=" ++ boolText d.stencilTest
    ++ " front=" ++ d.front.text ++ " back=" ++ d.back.text

end DepthStencil

end RenderKit
