import RenderKit.Resource.Texture

set_option autoImplicit false

/-! # Attachments

An attachment is made for a point of a framebuffer. Points for depths take formats of depths only,
the color point takes no such format, and a point for depths with stencil needs both. -/

namespace RenderKit

inductive AttachmentError where
  | format (point : AttachmentPoint) (format : TextureFormat)
  | noStencil (format : TextureFormat)
deriving DecidableEq, Repr

instance : Cause AttachmentError where
  source _ := "cbox::framebuffer"
  kind _ := .invalidFormat
  message
    | .format point format =>
        nameOf point ++ " attachment cannot use format " ++ nameOf format
    | .noStencil format =>
        "Depth-stencil attachment needs a stencil format, got " ++ nameOf format

namespace Attachment

def color (format : TextureFormat) : Attachment := ⟨.color, format, none⟩

def depth (format : TextureFormat) : Attachment := ⟨.depth, format, none⟩

def depthStencil : Attachment := ⟨.depthStencil, .depth24Stencil8, none⟩

/-- Use a texture that exists; its format counts from then on. -/
def withTexture (a : Attachment) (r : Ref Texture) (t : Texture) : Attachment :=
  { a with format := t.desc.format, texture := some r }

/-- What is wrong with an attachment. -/
def fault? (a : Attachment) : Option AttachmentError :=
  if (a.point != .color) != a.format.isDepth then some (.format a.point a.format)
  else if a.point = .depthStencil && !a.format.hasStencil then some (.noStencil a.format)
  else none

/-- The textures an attachment owns. -/
def owned (a : Attachment) : List (Ref Texture) := a.texture.toList

variable {σ : Type} [GraphicsDevice σ]

/-- Accept an attachment, which becomes an owner of its texture. -/
def accepted (a : Attachment) : Render σ Attachment := do
  match a.fault? with
  | some e => reject e
  | none => holdAll a.owned
  return a

def discard (a : Attachment) : Render σ Unit := releaseAll a.owned

end Attachment

end RenderKit
