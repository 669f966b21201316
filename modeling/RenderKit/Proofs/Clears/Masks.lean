import RenderKit.Proofs.OpenGL.History

set_option autoImplicit false

/-! # Where the masks come from

Masks stay as they are until a request sets them, and no request sets all of them. So each mask is
the one of the last request that had a say in it. -/

namespace RenderKit

namespace Request

/-! ## What requests say about masks -/

def depthMask? : Request → Option Bool
  | .applyDepthStencil state => some state.depthWrite
  | _ => none

def stencilMask? : Request → Option UInt32
  | .applyDepthStencil state => some state.front.writeMask
  | _ => none

/-- The mask of the first color attachment. -/
def colorMask? : Request → Option WriteMask
  | .applyBlend state count => (state.attachments.take count.toNat).head?.map BlendAttachment.mask
  | _ => none

def scissorTest? : Request → Option Bool
  | .applyRasterizer state => some state.scissorTest
  | _ => none

/-- The box of the scissor test. A box with negative sides is refused. -/
def scissorBox? : Request → Option ScissorBox
  | .setScissor area =>
      let box : ScissorBox := ⟨area.x, area.y, area.width.toInt32, area.height.toInt32⟩
      if box.width < 0 ∨ box.height < 0 then none else some box
  | _ => none

end Request

namespace Calls

/-- A part of the masks that requests set, and leave alone when they say nothing about it. -/
theorem read_trace {α : Type} {say : Request → Option α} (read : Masks → α)
    (hstep : ∀ (m : Masks) (r : Request), read (m.after r) = (say r).getD (read m))
    (calls : List Call) :
    read (trace calls).masks = (last? say calls).getD (read .initial) := by
  induction calls using List.reverseRecOn with
  | nil => rfl
  | append_singleton calls c ih =>
      rw [trace_concat, last?_concat]
      show read ((trace calls).masks.after c.request) = _
      rw [hstep, ih]
      cases say c.request <;> rfl

theorem depth_trace (calls : List Call) :
    (trace calls).masks.depth = (last? Request.depthMask? calls).getD true :=
  read_trace Masks.depth (fun _ r => by cases r <;> rfl) calls

theorem stencil_trace (calls : List Call) :
    (trace calls).masks.stencil = (last? Request.stencilMask? calls).getD 0xffffffff :=
  read_trace Masks.stencil (fun _ r => by cases r <;> rfl) calls

theorem scissor_trace (calls : List Call) :
    (trace calls).masks.scissor = (last? Request.scissorTest? calls).getD false :=
  read_trace Masks.scissor (fun _ r => by cases r <;> rfl) calls

/-- The box, if the window is known that there was in the beginning. -/
theorem box_trace (window : ScissorBox) (calls : List Call) :
    (trace calls).masks.box.getD window = (last? Request.scissorBox? calls).getD window := by
  refine read_trace (fun m => m.box.getD window) (fun m r => ?_) calls
  cases r with
  | setScissor area =>
      simp only [Masks.after, Masks.withBox, Request.scissorBox?]
      split
      · rfl
      · rfl
  | _ => rfl

/-- Attachments after the first leave its mask alone. -/
theorem colorMasks_zipIdx_succ (attachments : List BlendAttachment) (color : UInt32 → WriteMask)
    (n : Nat) (hn : n + attachments.length < UInt32.size) :
    colorMasks color (attachments.zipIdx (n + 1)) 0 = color 0 := by
  induction attachments generalizing color n with
  | nil => rfl
  | cons a rest ih =>
      have hlength : (a :: rest).length = rest.length + 1 := rfl
      have hindex : (0 : UInt32) ≠ (n + 1).toUInt32 := by
        intro h
        have htoNat := congrArg UInt32.toNat h
        rw [UInt32.toNat_ofNat_of_lt' (by omega)] at htoNat
        simp at htoNat
      rw [List.zipIdx_cons]
      show colorMasks (Function.update color (n + 1).toUInt32 a.mask)
        (rest.zipIdx (n + 1 + 1)) 0 = _
      rw [ih _ _ (by omega), Function.update_of_ne hindex]

theorem color_trace (calls : List Call) :
    (trace calls).masks.color 0 = (last? Request.colorMask? calls).getD .full := by
  refine read_trace (fun m => m.color 0) (fun m r => ?_) calls
  cases r with
  | applyBlend state count =>
      have hlength : (state.attachments.take count.toNat).length ≤ maxBlendAttachments := by
        rw [← state.length_attachments]
        exact List.length_take_le' _ _
      simp only [Masks.after, Request.colorMask?]
      rcases htake : state.attachments.take count.toNat with _ | ⟨a, rest⟩
      · rfl
      · rw [List.zipIdx_cons]
        show colorMasks (Function.update m.color 0 a.mask) (rest.zipIdx (0 + 1)) 0 = _
        have hrest : 0 + rest.length < UInt32.size := by
          rw [htake, List.length_cons] at hlength
          have hsizes : maxBlendAttachments < UInt32.size := by decide
          omega
        rw [colorMasks_zipIdx_succ _ _ _ hrest, Function.update_self]
        rfl
  | _ => rfl

end Calls

end RenderKit
