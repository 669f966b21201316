import RenderKit.Target.Attachment

set_option autoImplicit false

/-! # Framebuffers

A framebuffer draws into textures: those its attachments bring along, and new ones for the
attachments that bring none. Whatever is made on the way is given back when the construction
fails. A new size means new textures and a new object of the device; the old ones go when the new
ones stand. -/

namespace RenderKit

inductive FramebufferError where
  | noExtent
  | tooManyColors (count : Nat) (limit : UInt32)
  | sizeMismatch (point : AttachmentPoint) (texture : TextureDesc) (width height : UInt32)
deriving DecidableEq, Repr

instance : Cause FramebufferError where
  source _ := "cbox::framebuffer"
  kind _ := .invalidState
  message
    | .noExtent => "Framebuffer dimensions cannot be 0"
    | .tooManyColors count limit =>
        toString count ++ " color attachments requested, device supports "
          ++ toString limit.toNat
    | .sizeMismatch point texture width height =>
        nameOf point ++ " attachment texture is " ++ sizeText texture.width texture.height
          ++ ", framebuffer is " ++ sizeText width height

/-- What a framebuffer is made of. -/
structure FramebufferPlan where
  width : UInt32
  height : UInt32
  colors : List Attachment
  depth : Option Attachment
  /-- Goes before `depth` when both are given. -/
  depthStencil : Option Attachment
deriving DecidableEq

namespace FramebufferPlan

def start (width height : UInt32) : FramebufferPlan := ⟨width, height, [], none, none⟩

def color (p : FramebufferPlan) (a : Attachment) : FramebufferPlan :=
  { p with colors := p.colors ++ [a] }

/-- The attachment whose texture holds depths. -/
def depthAttachment (p : FramebufferPlan) : Option Attachment := p.depthStencil.or p.depth

end FramebufferPlan

namespace Framebuffer

/-- The textures and the object of the device that belong to one size. -/
structure Targets where
  handle : FramebufferHandle
  colors : List (Ref Texture)
  depth : Option (Ref Texture)

def debugText (f : Framebuffer) : String :=
  recordText "Framebuffer"
    [("handle", optionText (f.handle.map Handle.debugText)),
     ("width", toString f.width.toNat), ("height", toString f.height.toNat),
     ("color_attachments", toString f.colors.length), ("has_depth", boolText f.depth.isSome)]

/-- The point at which a texture for depths is attached. -/
def depthPoint : AttachmentPoint → AttachmentPoint
  | .color | .depth => .depth
  | point => point

variable {σ : Type} [GraphicsDevice σ]

instance : Owned Framebuffer where
  discard f := do
    match f.handle with
    | some h => ask (.deleteFramebuffer h)
    | none => pure ()
    releaseAll (f.colorAttachments.flatMap Attachment.owned)
    releaseAll (f.depthAttachment.toList.flatMap Attachment.owned)
    releaseAll f.colors
    releaseOption f.depth

/-- The window as a target. -/
def defaultTarget (width height : UInt32) : Render σ (Ref Framebuffer) :=
  share
    { handle := none, width := width, height := height, colorAttachments := []
      depthAttachment := none, colors := [], depth := none }

/-! ## Targets -/

/-- The texture for an attachment, of which the caller becomes an owner. A texture that is given
    must have the size of the framebuffer. -/
def target (width height : UInt32) (a : Attachment) : Render σ (Ref Texture) := do
  match a.texture with
  | none =>
      Texture.create
        { width := width, height := height, format := a.format, srgb := false, mipmaps := false }
        none
  | some r =>
      let t ← view r
      if t.desc.width ≠ width || t.desc.height ≠ height then
        reject (FramebufferError.sizeMismatch a.point t.desc width height)
      hold r
      return r

/-- The textures for some attachments. If one of them fails, those made before it are given up in
    their order. -/
def targets (width height : UInt32) (done : List (Ref Texture)) :
    List Attachment → Render σ (List (Ref Texture))
  | [] => return done
  | a :: rest => do
      match ← attempt (target width height a) with
      | .ok r => targets width height (done ++ [r]) rest
      | .error e =>
          releaseAll done
          raise e

/-- The handles of some textures. -/
def handles : List (Ref Texture) → Render σ (List TextureHandle)
  | [] => return []
  | r :: rest => do
      let t ← view r
      return t.handle :: (← handles rest)

/-- The texture for depths, given the colors that go if it fails. -/
def depthTarget (width height : UInt32) (colors : List (Ref Texture)) (a : Option Attachment) :
    Render σ (Option (Ref Texture)) := do
  match a with
  | none => return none
  | some a =>
      match ← attempt (target width height a) with
      | .ok r => return some r
      | .error e =>
          releaseAll colors
          raise e

/-- Everything that belongs to one size. -/
def createTargets (width height : UInt32) (colors : List Attachment) (depth : Option Attachment) :
    Render σ Targets := do
  let colorTextures ← targets width height [] colors
  let depthTexture ← depthTarget width height colorTextures depth
  let colorHandles ← handles colorTextures
  let depthHandle ← match depth, depthTexture with
    | some a, some r => do pure (some ((← view r).handle, depthPoint a.point))
    | _, _ => pure none
  match ← attempt (do settle (← ask (.createFramebuffer colorHandles depthHandle))) with
  | .ok handle => return ⟨handle, colorTextures, depthTexture⟩
  | .error e =>
      releaseOption depthTexture
      releaseAll colorTextures
      raise e

/-! ## Framebuffers -/

/-- Create a framebuffer. It becomes an owner of the textures that its attachments bring. -/
def create (p : FramebufferPlan) : Render σ (Ref Framebuffer) := do
  if p.width = 0 || p.height = 0 then reject FramebufferError.noExtent
  let limit := (GraphicsDevice.capabilities (← get).device).maxColorAttachments
  if limit > 0 && p.colors.length > limit.toNat then
    reject (FramebufferError.tooManyColors p.colors.length limit)
  let made ← createTargets p.width p.height p.colors p.depthAttachment
  note .info "cbox::framebuffer"
    ("Created offscreen framebuffer " ++ made.handle.text ++ " (" ++ sizeText p.width p.height
      ++ ", " ++ toString made.colors.length ++ " color attachments)")
  holdAll (p.colors.flatMap Attachment.owned)
  holdAll (p.depthAttachment.toList.flatMap Attachment.owned)
  share
    { handle := some made.handle
      width := p.width
      height := p.height
      colorAttachments := p.colors
      depthAttachment := p.depthAttachment
      colors := made.colors
      depth := made.depth }

/-- Draw to the framebuffer, all of it. -/
def bind (r : Ref Framebuffer) : Render σ Unit := do
  let f ← view r
  ask (.bindFramebuffer f.handle)
  ask (.setViewport (.whole f.width f.height))

/-- Draw to the window. -/
def unbind : Render σ Unit := ask (.bindFramebuffer none)

/-- Give a framebuffer another size. The window only notes it down. -/
def resize (r : Ref Framebuffer) (width height : UInt32) : Render σ Unit := do
  if width = 0 || height = 0 then reject FramebufferError.noExtent
  let f ← view r
  match f.handle with
  | none => alter r fun f => { f with width := width, height := height }
  | some old => do
      let made ← createTargets width height f.colorAttachments f.depthAttachment
      alter r fun f =>
        { f with
          handle := some made.handle
          width := width
          height := height
          colors := made.colors
          depth := made.depth }
      ask (.deleteFramebuffer old)
      releaseAll f.colors
      releaseOption f.depth

end Framebuffer

end RenderKit
