import RenderKit.Objects
import RenderKit.Proofs.Number.Values
import RenderKit.Proofs.OpenGL.FixedFunctions

set_option autoImplicit false

/-! # What a pipeline describes

The state that a pipeline stands for, as far as a draw can tell. A face is left out if the pipeline
names it, and depths are offset if one of the two numbers for it is not zero. The reference of a
stencil test is a number without a sign, but a driver takes one with a sign, and clamps it. -/

namespace RenderKit

/-- A way of culling leaves out a face. -/
inductive CullMode.LeavesOut : CullMode → Face → Prop
  | front : LeavesOut .front .front
  | back : LeavesOut .back .back
  | frontAndBack : LeavesOut .frontAndBack .frontAndBack

/-- Depths of polygons are offset. What is not a number is not zero. -/
def Rasterizer.Offsets (r : Rasterizer) : Prop :=
  r.bias.value? ≠ some 0 ∨ r.slope.value? ≠ some 0

/-- One side is tested as it is described, with any reference. -/
structure StencilFace.Describes (f : StencilFace) (s : StencilSide) : Prop where
  compare : s.compare = f.compare
  compareMask : s.compareMask = f.compareMask
  fail : s.fail = f.fail
  depthFail : s.depthFail = f.depthFail
  pass : s.pass = f.pass
  writeMask : s.writeMask = f.writeMask

/-- What stencils of some bits are compared with: the reference, clamped to what they can hold. -/
def clampedReference (bits : Nat) (reference : Int) : Int := max 0 (min reference (2 ^ bits - 1))

/-- How one draw buffer is written. -/
structure BlendAttachment.Describes (a : BlendAttachment) (b : Option Mixing × WriteMask) :
    Prop where
  mixes : a.enabled = true → b.1 = some
    { sourceColor := a.srcColor
      targetColor := a.dstColor
      sourceAlpha := a.srcAlpha
      targetAlpha := a.dstAlpha
      color := a.colorOp
      alpha := a.alphaOp }
  covers : a.enabled = false → b.1 = none
  mask : b.2 = a.mask

namespace Pipeline

/-- The number of draw buffers that a pipeline says something about. -/
def blended (p : Pipeline) : Nat := min p.attachments.toNat 8

/-- The state is the one that a pipeline with a program describes, with any references of the
    stencil tests. -/
structure Describes (p : Pipeline) (program : ProgramHandle) (e : EffectiveState) : Prop where
  program : e.program = program.raw
  vertexArray : e.vertexArray = p.array.raw
  culled : ∀ face, e.culled = some face ↔ p.rasterizer.cull.LeavesOut face
  front : e.front = p.rasterizer.front
  polygon : e.polygon = p.rasterizer.polygon
  offset : ∀ mode offset, e.offset mode = some offset ↔
    p.rasterizer.Offsets ∧ mode = p.rasterizer.polygon ∧
      offset = (p.rasterizer.slope, p.rasterizer.bias)
  depthClamp : e.depthClamp = p.rasterizer.depthClamp
  scissorTest : e.scissorTest = p.rasterizer.scissorTest
  depthTest : e.depthTest = p.depthStencil.depthTest
  depthWrite : e.depthWrite = p.depthStencil.depthWrite
  depthCompare : e.depthCompare = p.depthStencil.depthCompare
  stencilTest : e.stencilTest = p.depthStencil.stencilTest
  frontStencil : p.depthStencil.front.Describes e.frontStencil
  backStencil : p.depthStencil.back.Describes e.backStencil
  constants : e.constants = p.blend.constants
  length_drawBuffers : e.drawBuffers.length = p.blended
  drawBuffers : ∀ index < p.blended, ∃ a b, p.blend.attachments[index]? = some a ∧
    e.drawBuffers[index]? = some b ∧ a.Describes b

/-- Stencils of some bits are compared with the references that the pipeline has. -/
structure ComparesWith (p : Pipeline) (bits : Nat) (e : EffectiveState) : Prop where
  front : clampedReference bits e.frontStencil.reference.toInt =
    clampedReference bits p.depthStencil.front.reference.toNat
  back : clampedReference bits e.backStencil.reference.toInt =
    clampedReference bits p.depthStencil.back.reference.toNat

end Pipeline

/-! ## What is told to a driver -/

theorem CullMode.leavesOut_iff {m : CullMode} {face : Face} :
    m.LeavesOut face ↔ m.face? = some face := by
  constructor
  · rintro ⟨⟩ <;> rfl
  · intro h
    cases m with
    | none => cases h
    | front => cases h; exact .front
    | back => cases h; exact .back
    | frontAndBack => cases h; exact .frontAndBack

theorem Rasterizer.offsets_iff {r : Rasterizer} : r.Offsets ↔ r.offsetEnabled = true := by
  have hzero : ∀ x : Binary32, x.value? ≠ some 0 ↔ x.eqv .zero = false := by
    intro x
    rw [Binary32.eqv_eq_false_iff]
    simp only [Binary32.RelatesUnlessNaN, Binary32.value?_zero, Option.mem_some_iff, forall_eq']
    constructor
    · rintro hne a ha rfl
      exact hne ha
    · intro hne hx
      exact hne 0 hx rfl
  simp only [Offsets, hzero, offsetEnabled, Bool.or_eq_true, Bool.not_eq_true']

/-- A reference without a sign is as good as one with a sign if there is room for it. -/
theorem clampedReference_toInt32_iff {bits : Nat} (hbits : 0 < bits) {x : UInt32} :
    clampedReference bits x.toInt32.toInt = clampedReference bits x.toNat ↔ x.toNat < 2 ^ 31 := by
  have hsigned : x.toInt32.toInt = x.toBitVec.toInt := rfl
  have hlt := x.toNat_lt
  have hroom : (2 : Int) ^ 1 ≤ 2 ^ bits := pow_le_pow_right₀ (by decide) hbits
  rw [hsigned, BitVec.toInt_eq_toNat_cond, UInt32.toNat_toBitVec, clampedReference,
    clampedReference]
  -- what is too large for a sign is negative, and is clamped to zero
  split <;> omega

end RenderKit
