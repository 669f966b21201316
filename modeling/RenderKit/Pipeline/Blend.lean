import RenderKit.Named
import RenderKit.Number.Vector
import RenderKit.Text.Quoted

set_option autoImplicit false

/-! # Blending

Eight color attachments have blend settings of their own. -/

namespace RenderKit

inductive BlendFactor where
  | zero
  | one
  | srcColor
  | oneMinusSrcColor
  | dstColor
  | oneMinusDstColor
  | srcAlpha
  | oneMinusSrcAlpha
  | dstAlpha
  | oneMinusDstAlpha
  | constantColor
  | oneMinusConstantColor
  | constantAlpha
  | oneMinusConstantAlpha
deriving DecidableEq, Repr

instance : Named BlendFactor where
  all := [.zero, .one, .srcColor, .oneMinusSrcColor, .dstColor, .oneMinusDstColor, .srcAlpha,
    .oneMinusSrcAlpha, .dstAlpha, .oneMinusDstAlpha, .constantColor, .oneMinusConstantColor,
    .constantAlpha, .oneMinusConstantAlpha]
  name
    | .zero => "Zero"
    | .one => "One"
    | .srcColor => "SrcColor"
    | .oneMinusSrcColor => "OneMinusSrcColor"
    | .dstColor => "DstColor"
    | .oneMinusDstColor => "OneMinusDstColor"
    | .srcAlpha => "SrcAlpha"
    | .oneMinusSrcAlpha => "OneMinusSrcAlpha"
    | .dstAlpha => "DstAlpha"
    | .oneMinusDstAlpha => "OneMinusDstAlpha"
    | .constantColor => "ConstantColor"
    | .oneMinusConstantColor => "OneMinusConstantColor"
    | .constantAlpha => "ConstantAlpha"
    | .oneMinusConstantAlpha => "OneMinusConstantAlpha"

inductive BlendOp where
  | add
  | subtract
  | reverseSubtract
  | min
  | max
deriving DecidableEq, Repr

instance : Named BlendOp where
  all := [.add, .subtract, .reverseSubtract, .min, .max]
  name
    | .add => "Add"
    | .subtract => "Subtract"
    | .reverseSubtract => "ReverseSubtract"
    | .min => "Min"
    | .max => "Max"

/-- The color channels that are written. -/
structure WriteMask where
  red : Bool
  green : Bool
  blue : Bool
  alpha : Bool
deriving DecidableEq, Repr

namespace WriteMask

def full : WriteMask := ⟨true, true, true, true⟩

/-- The mask of a number, red in its lowest bit. Higher bits than the fourth do not count. -/
def ofBits (n : Nat) : WriteMask :=
  ⟨n.testBit 0, n.testBit 1, n.testBit 2, n.testBit 3⟩

def toBits (m : WriteMask) : Nat :=
  m.red.toNat + 2 * m.green.toNat + 4 * m.blue.toNat + 8 * m.alpha.toNat

@[simp] theorem ofBits_toBits (m : WriteMask) : ofBits m.toBits = m := by
  rcases m with ⟨_ | _, _ | _, _ | _, _ | _⟩ <;> rfl

end WriteMask

/-- The blend settings of one color attachment. -/
structure BlendAttachment where
  enabled : Bool
  srcColor : BlendFactor
  dstColor : BlendFactor
  colorOp : BlendOp
  srcAlpha : BlendFactor
  dstAlpha : BlendFactor
  alphaOp : BlendOp
  mask : WriteMask
deriving DecidableEq, Repr

namespace BlendAttachment

/-- No blending, all channels written. -/
def standard : BlendAttachment :=
  { enabled := false
    srcColor := .one
    dstColor := .zero
    colorOp := .add
    srcAlpha := .one
    dstAlpha := .zero
    alphaOp := .add
    mask := .full }

def text (a : BlendAttachment) : String :=
  "(" ++ ",".intercalate
    [boolText a.enabled, nameOf a.srcColor, nameOf a.dstColor, nameOf a.colorOp,
     nameOf a.srcAlpha, nameOf a.dstAlpha, nameOf a.alphaOp, toString a.mask.toBits] ++ ")"

end BlendAttachment

/-- The number of attachments with blend settings. -/
def maxBlendAttachments : Nat := 8

structure Blend where
  attachments : List BlendAttachment
  /-- The color of the constant factors. -/
  constants : Vec4
  length_attachments : attachments.length = maxBlendAttachments := by rfl
deriving DecidableEq

namespace Blend

def disabled : Blend :=
  { attachments := List.replicate maxBlendAttachments .standard
    constants := .zero }

/-- Change the settings of one attachment; there is none past the last. -/
def modify (b : Blend) (index : Nat) (f : BlendAttachment → BlendAttachment) : Blend :=
  { b with
    attachments := b.attachments.modify index f
    length_attachments := by rw [List.length_modify, b.length_attachments] }

/-- The source over the target, by the source's alpha, on the first attachment. -/
def alphaBlend : Blend :=
  disabled.modify 0 fun a =>
    { a with enabled := true, srcColor := .srcAlpha, dstColor := .oneMinusSrcAlpha }

/-- The sum of source and target on the first attachment. -/
def additive : Blend :=
  disabled.modify 0 fun a => { a with enabled := true, dstColor := .one, dstAlpha := .one }

/-- The settings of the first `count` attachments and the constants. -/
def text (b : Blend) (count : Nat) : String :=
  "[" ++ ",".intercalate ((b.attachments.take count).map BlendAttachment.text) ++ "] const="
    ++ b.constants.text

end Blend

end RenderKit
