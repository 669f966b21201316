import Mathlib.Logic.Function.Basic
import RenderKit.OpenGL.Device

set_option autoImplicit false

/-! # Fixed functions

What becomes of primitives and fragments outside of the stages of a program is set piece by piece,
and each piece stays as it is until it is set again. Some pieces only count while something is
switched on. The effective state is what counts: it is all that a draw can tell. -/

namespace RenderKit

/-! ## Settings -/

/-- The stencil test of one side, in the numbers of the interface. -/
structure StencilSide where
  compare : CompareOp
  reference : Int32
  compareMask : UInt32
  fail : StencilOp
  depthFail : StencilOp
  pass : StencilOp
  writeMask : UInt32
deriving DecidableEq

/-- A test that always passes and changes nothing. -/
def StencilSide.initial : StencilSide := ⟨.always, 0, 0xffffffff, .keep, .keep, .keep, 0xffffffff⟩

/-- How a color is mixed with the one that is there. -/
structure Mixing where
  sourceColor : BlendFactor
  targetColor : BlendFactor
  sourceAlpha : BlendFactor
  targetAlpha : BlendFactor
  color : BlendOp
  alpha : BlendOp
deriving DecidableEq

/-- What is set for one draw buffer. -/
structure DrawBufferSettings where
  mixes : Bool
  mixing : Mixing
  mask : WriteMask
deriving DecidableEq

def DrawBufferSettings.initial : DrawBufferSettings :=
  ⟨false, ⟨.one, .zero, .one, .zero, .add, .add⟩, .full⟩

structure FixedState where
  program : GlName
  vertexArray : GlName
  culls : Bool
  culled : Face
  front : FrontFace
  polygon : PolygonMode
  /-- For which polygons depths are offset. -/
  offsets : PolygonMode → Bool
  factor : Binary32
  units : Binary32
  depthClamp : Bool
  scissorTest : Bool
  depthTest : Bool
  depthWrite : Bool
  depthCompare : CompareOp
  stencilTest : Bool
  frontStencil : StencilSide
  backStencil : StencilSide
  constants : Vec4
  drawBuffers : UInt32 → DrawBufferSettings

namespace FixedState

def initial : FixedState where
  program := 0
  vertexArray := 0
  culls := false
  culled := .back
  front := .counterClockwise
  polygon := .fill
  offsets _ := false
  factor := .zero
  units := .zero
  depthClamp := false
  scissorTest := false
  depthTest := false
  depthWrite := true
  depthCompare := .less
  stencilTest := false
  frontStencil := .initial
  backStencil := .initial
  constants := .zero
  drawBuffers _ := .initial

/-! ## Commands -/

/-- Change the stencil test of the sides of a face. -/
def onSides (face : Face) (f : StencilSide → StencilSide) (s : FixedState) : FixedState :=
  match face with
  | .front => { s with frontStencil := f s.frontStencil }
  | .back => { s with backStencil := f s.backStencil }
  | .frontAndBack => { s with frontStencil := f s.frontStencil, backStencil := f s.backStencil }

def onDrawBuffer (index : UInt32) (f : DrawBufferSettings → DrawBufferSettings) (s : FixedState) :
    FixedState :=
  { s with drawBuffers := Function.update s.drawBuffers index (f (s.drawBuffers index)) }

/-- What a command sets. -/
def run (c : GlCommand) (s : FixedState) : FixedState :=
  match c with
  | .useProgram program => { s with program := program }
  | .bindVertexArray array => { s with vertexArray := array }
  -- a program that is current stays so until another one is used, also when it is deleted
  | .delete .vertexArray name => if s.vertexArray = name then { s with vertexArray := 0 } else s
  | .switch .cullFace on => { s with culls := on }
  | .switch (.polygonOffset mode) on => { s with offsets := Function.update s.offsets mode on }
  | .switch .depthClamp on => { s with depthClamp := on }
  | .switch .scissorTest on => { s with scissorTest := on }
  | .switch .depthTest on => { s with depthTest := on }
  | .switch .stencilTest on => { s with stencilTest := on }
  | .cullFace face => { s with culled := face }
  | .frontFace winding => { s with front := winding }
  | .polygonMode mode => { s with polygon := mode }
  | .polygonOffset factor units => { s with factor := factor, units := units }
  | .depthMask on => { s with depthWrite := on }
  | .depthFunc op => { s with depthCompare := op }
  | .stencilFunc face op reference mask =>
      s.onSides face fun side =>
        { side with compare := op, reference := reference, compareMask := mask }
  | .stencilOp face fail depthFail pass =>
      s.onSides face fun side => { side with fail := fail, depthFail := depthFail, pass := pass }
  | .stencilMask face mask => s.onSides face fun side => { side with writeMask := mask }
  | .switchBlend index on => s.onDrawBuffer index fun b => { b with mixes := on }
  | .blendFunc index sourceColor targetColor sourceAlpha targetAlpha =>
      s.onDrawBuffer index fun b =>
        { b with mixing :=
          { b.mixing with
            sourceColor := sourceColor
            targetColor := targetColor
            sourceAlpha := sourceAlpha
            targetAlpha := targetAlpha } }
  | .blendEquation index color alpha =>
      s.onDrawBuffer index fun b =>
        { b with mixing := { b.mixing with color := color, alpha := alpha } }
  | .colorMask index mask => s.onDrawBuffer index fun b => { b with mask := mask }
  | .blendColor color => { s with constants := color }
  | _ => s

def runAll (cs : List GlCommand) (s : FixedState) : FixedState := cs.foldl (fun s c => s.run c) s

@[simp] theorem runAll_nil (s : FixedState) : s.runAll [] = s := rfl

@[simp] theorem runAll_cons (c : GlCommand) (cs : List GlCommand) (s : FixedState) :
    s.runAll (c :: cs) = (s.run c).runAll cs := rfl

@[simp] theorem runAll_append (cs ds : List GlCommand) (s : FixedState) :
    s.runAll (cs ++ ds) = (s.runAll cs).runAll ds := List.foldl_append

/-! ## Rasterization -/

/-- The settings with those of a rasterizer. What it switches off stays as it was set. -/
def withRasterizer (r : Rasterizer) (s : FixedState) : FixedState :=
  { s with
    culls := r.cull.face?.isSome
    culled := r.cull.face?.getD s.culled
    front := r.front
    polygon := r.polygon
    offsets := fun mode => r.offsetEnabled && decide (mode = r.polygon)
    factor := if r.offsetEnabled then r.slope else s.factor
    units := if r.offsetEnabled then r.bias else s.units
    depthClamp := r.depthClamp
    scissorTest := r.scissorTest }

theorem runAll_rasterizerCommands (r : Rasterizer) (s : FixedState) :
    s.runAll (GlDevice.rasterizerCommands r) = s.withRasterizer r := by
  have hoffsets : ∀ offsets : PolygonMode → Bool,
      Function.update (Function.update (Function.update offsets .fill false) .line false) .point
        false = fun _ => false := by
    intro offsets
    funext mode
    cases mode <;> rfl
  have honly : Function.update (fun _ => false) r.polygon true =
      fun mode => decide (mode = r.polygon) := by
    funext mode
    by_cases hmode : mode = r.polygon
    · simp [hmode]
    · simp [hmode]
  rcases hface : r.cull.face? with _ | face
  all_goals
    cases henabled : r.offsetEnabled
    all_goals
      simp [GlDevice.rasterizerCommands, withRasterizer, run, hface, henabled, hoffsets, honly]

/-! ## Depths and stencils -/

end FixedState

/-- The test in the numbers of the interface, where a reference has a sign. -/
def StencilFace.side (f : StencilFace) : StencilSide :=
  ⟨f.compare, f.reference.toInt32, f.compareMask, f.fail, f.depthFail, f.pass, f.writeMask⟩

namespace FixedState

def withDepthStencil (d : DepthStencil) (s : FixedState) : FixedState :=
  { s with
    depthTest := d.depthTest
    depthWrite := d.depthWrite
    depthCompare := d.depthCompare
    stencilTest := d.stencilTest
    frontStencil := d.front.side
    backStencil := d.back.side }

theorem runAll_depthStencilCommands (d : DepthStencil) (s : FixedState) :
    s.runAll (GlDevice.depthStencilCommands d) = s.withDepthStencil d := by
  simp [GlDevice.depthStencilCommands, GlDevice.stencilCommands, run, onSides, withDepthStencil,
    StencilFace.side]

/-! ## Blending -/

end FixedState

def BlendAttachment.mixing (a : BlendAttachment) : Mixing :=
  ⟨a.srcColor, a.dstColor, a.srcAlpha, a.dstAlpha, a.colorOp, a.alphaOp⟩

/-- The settings with those of an attachment. Without blending the last mixing is kept. -/
def DrawBufferSettings.withAttachment (a : BlendAttachment) (b : DrawBufferSettings) :
    DrawBufferSettings :=
  ⟨a.enabled, if a.enabled then a.mixing else b.mixing, a.mask⟩

namespace FixedState

theorem onDrawBuffer_onDrawBuffer (index : UInt32)
    (f g : DrawBufferSettings → DrawBufferSettings) (s : FixedState) :
    (s.onDrawBuffer index f).onDrawBuffer index g = s.onDrawBuffer index fun b => g (f b) := by
  simp [onDrawBuffer]

theorem runAll_blendAttachmentCommands (index : UInt32) (a : BlendAttachment) (s : FixedState) :
    s.runAll (GlDevice.blendAttachmentCommands index a) =
      s.onDrawBuffer index fun b => b.withAttachment a := by
  cases henabled : a.enabled
  all_goals
    simp [GlDevice.blendAttachmentCommands, run, henabled, onDrawBuffer_onDrawBuffer,
      DrawBufferSettings.withAttachment, BlendAttachment.mixing]

/-- The settings with those of attachments, the first of which has a number of its own. -/
def withAttachments (as : List BlendAttachment) (first : Nat) (s : FixedState) : FixedState :=
  { s with
    drawBuffers := fun index =>
      match if first ≤ index.toNat then as[index.toNat - first]? else none with
      | some a => (s.drawBuffers index).withAttachment a
      | none => s.drawBuffers index }

theorem runAll_attachments (as : List BlendAttachment) {first : Nat}
    (hfirst : first + as.length ≤ UInt32.size) (s : FixedState) :
    s.runAll ((as.zipIdx first).flatMap fun a =>
        GlDevice.blendAttachmentCommands a.2.toUInt32 a.1) = s.withAttachments as first := by
  induction as generalizing first s with
  | nil => simp [withAttachments]
  | cons a rest ih =>
      rw [List.length_cons] at hfirst
      have hindex : first.toUInt32.toNat = first :=
        UInt32.toNat_ofNat_of_lt' (by omega)
      rw [List.zipIdx_cons, List.flatMap_cons, runAll_append, runAll_blendAttachmentCommands,
        ih (by omega)]
      unfold withAttachments onDrawBuffer
      congr 1
      funext index
      dsimp only
      -- the first attachment is that of one buffer, and the rest are those of later ones
      by_cases hsame : index = first.toUInt32
      · subst hsame
        rw [Function.update_self, hindex, if_neg (Nat.not_succ_le_self first),
          if_pos (Nat.le_refl first), Nat.sub_self]
        rfl
      · have hne : index.toNat ≠ first := fun h => hsame (UInt32.toNat_inj.mp (h.trans hindex.symm))
        rw [Function.update_of_ne hsame]
        by_cases hlater : first + 1 ≤ index.toNat
        · rw [if_pos hlater, if_pos (by omega),
            show index.toNat - first = index.toNat - (first + 1) + 1 by omega,
            List.getElem?_cons_succ]
        · rw [if_neg hlater, if_neg (by omega)]

/-- The settings with those of the first draw buffers and with the constants. -/
def withBlend (b : Blend) (count : UInt32) (s : FixedState) : FixedState :=
  { s.withAttachments (b.attachments.take count.toNat) 0 with constants := b.constants }

theorem runAll_blendCommands (b : Blend) (count : UInt32) (s : FixedState) :
    s.runAll (GlDevice.blendCommands b count) = s.withBlend b count := by
  have hlength : 0 + (b.attachments.take count.toNat).length ≤ UInt32.size := by
    have hall := b.length_attachments
    rw [List.length_take, hall, maxBlendAttachments, UInt32.size]
    omega
  rw [GlDevice.blendCommands, runAll_append, runAll_attachments _ hlength]
  rfl

end FixedState

/-! ## What counts -/

/-- What a draw can tell from the fixed functions, if it goes to a number of draw buffers. -/
structure EffectiveState where
  program : GlName
  vertexArray : GlName
  /-- The faces that are left out, if any are. -/
  culled : Option Face
  front : FrontFace
  polygon : PolygonMode
  /-- The factor and the units that depths of polygons are offset by, if they are. -/
  offset : PolygonMode → Option (Binary32 × Binary32)
  depthClamp : Bool
  scissorTest : Bool
  depthTest : Bool
  depthWrite : Bool
  depthCompare : CompareOp
  stencilTest : Bool
  frontStencil : StencilSide
  backStencil : StencilSide
  constants : Vec4
  /-- How colors are mixed, if they are, and which channels are written. -/
  drawBuffers : List (Option Mixing × WriteMask)

def DrawBufferSettings.effective (b : DrawBufferSettings) : Option Mixing × WriteMask :=
  (if b.mixes then some b.mixing else none, b.mask)

def FixedState.effective (s : FixedState) (count : Nat) : EffectiveState where
  program := s.program
  vertexArray := s.vertexArray
  culled := if s.culls then some s.culled else none
  front := s.front
  polygon := s.polygon
  offset mode := if s.offsets mode then some (s.factor, s.units) else none
  depthClamp := s.depthClamp
  scissorTest := s.scissorTest
  depthTest := s.depthTest
  depthWrite := s.depthWrite
  depthCompare := s.depthCompare
  stencilTest := s.stencilTest
  frontStencil := s.frontStencil
  backStencil := s.backStencil
  constants := s.constants
  drawBuffers := (List.range count).map fun index => (s.drawBuffers index.toUInt32).effective

end RenderKit
