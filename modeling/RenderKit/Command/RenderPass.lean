import RenderKit.Target.Framebuffer

set_option autoImplicit false

/-! # Render passes

A pass draws into one framebuffer and says what happens to the contents of each attachment when
the pass begins and when it ends. Everything that is cleared is cleared at once: the color is the
one of the first attachment that is cleared at all. -/

namespace RenderKit

/-- What happens to an attachment when a pass begins. -/
inductive LoadOp where
  | load
  | clear
  | dontCare
deriving DecidableEq, Repr

instance : Named LoadOp where
  all := [.load, .clear, .dontCare]
  name
    | .load => "Load"
    | .clear => "Clear"
    | .dontCare => "DontCare"

/-- What happens to an attachment when a pass ends. -/
inductive StoreOp where
  | store
  | dontCare
deriving DecidableEq, Repr

instance : Named StoreOp where
  all := [.store, .dontCare]
  name
    | .store => "Store"
    | .dontCare => "DontCare"

structure ColorOps where
  load : LoadOp
  store : StoreOp
  clearColor : Vec4
deriving DecidableEq

def ColorOps.standard : ColorOps := ⟨.clear, .store, .black⟩

def ColorOps.text (c : ColorOps) : String :=
  nameOf c.load ++ " " ++ nameOf c.store ++ " " ++ c.clearColor.text

structure DepthStencilOps where
  depthLoad : LoadOp
  depthStore : StoreOp
  stencilLoad : LoadOp
  stencilStore : StoreOp
  clearDepth : Binary32
  clearStencil : UInt32
deriving DecidableEq

def DepthStencilOps.standard : DepthStencilOps :=
  { depthLoad := .clear
    depthStore := .store
    stencilLoad := .dontCare
    stencilStore := .dontCare
    clearDepth := .one
    clearStencil := 0 }

def DepthStencilOps.text (d : DepthStencilOps) : String :=
  " ".intercalate
    [nameOf d.depthLoad, nameOf d.depthStore, nameOf d.stencilLoad, nameOf d.stencilStore,
     d.clearDepth.text, toString d.clearStencil.toNat]

/-- The number of color attachments a pass has settings for. -/
def maxPassColors : Nat := 8

inductive PassError where
  | noSuchColor (index : Nat)
  | tooManyColors (count : Nat)
deriving DecidableEq, Repr

instance : Cause PassError where
  source _ := "cbox::command"
  kind _ := .invalidState
  message
    | .noSuchColor index =>
        "Color attachment index " ++ toString index ++ " out of range (max "
          ++ toString maxPassColors ++ ")"
    | .tooManyColors count =>
        "Render pass declares " ++ toString count ++ " color attachments (max "
          ++ toString maxPassColors ++ ")"

/-- What a pass is made of, apart from its framebuffer. -/
structure PassPlan where
  colors : List ColorOps
  depthStencil : DepthStencilOps
  /-- How many color attachments are active. -/
  count : Nat
  /-- The first index that was out of range. -/
  wrongIndex : Option Nat
deriving DecidableEq

namespace PassPlan

def start : PassPlan :=
  { colors := List.replicate maxPassColors .standard
    depthStencil := .standard
    count := 1
    wrongIndex := none }

/-- Change the settings of a color attachment, if there is one. -/
def color (p : PassPlan) (index : Nat) (f : ColorOps → ColorOps) : PassPlan :=
  if index < maxPassColors then { p with colors := p.colors.modify index f }
  else { p with wrongIndex := p.wrongIndex.or (some index) }

def fault? (p : PassPlan) : Option PassError :=
  match p.wrongIndex with
  | some index => some (.noSuchColor index)
  | none => if p.count > maxPassColors then some (.tooManyColors p.count) else none

end PassPlan

structure RenderPass where
  framebuffer : Ref Framebuffer
  /-- The settings of the active color attachments. -/
  colors : List ColorOps
  depthStencil : DepthStencilOps
deriving DecidableEq

namespace RenderPass

/-- What is cleared when the pass begins. -/
def clearRequest (p : RenderPass) : ClearRequest :=
  let d := p.depthStencil
  { color := (p.colors.find? fun c => c.load == .clear).map ColorOps.clearColor
    depth := if d.depthLoad = .clear then some d.clearDepth else none
    stencil := if d.stencilLoad = .clear then some d.clearStencil else none }

variable {σ : Type} [GraphicsDevice σ]

/-- Create a pass, which becomes an owner of its framebuffer. -/
def create (framebuffer : Ref Framebuffer) (plan : PassPlan) : Render σ RenderPass := do
  match plan.fault? with
  | some e => reject e
  | none => do
      hold framebuffer
      return {
        framebuffer := framebuffer
        colors := plan.colors.take plan.count
        depthStencil := plan.depthStencil }

def discard (p : RenderPass) : Render σ Unit := release p.framebuffer

end RenderPass

end RenderKit
