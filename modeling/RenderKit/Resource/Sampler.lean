import RenderKit.World

set_option autoImplicit false

/-! # Samplers -/

namespace RenderKit.Sampler

variable {σ : Type} [GraphicsDevice σ]

instance : Owned Sampler where
  discard s := ask (.deleteSampler s.handle)

def debugText (s : Sampler) : String := recordText "Sampler" [("handle", s.handle.debugText)]

def create (desc : SamplerDesc) : Render σ (Ref Sampler) := do
  let handle ← settle (← ask (.createSampler desc))
  note .debug "cbox::sampler"
    ("Created sampler " ++ handle.text ++ " (" ++ nameOf desc.minFilter ++ "/"
      ++ nameOf desc.magFilter ++ ")")
  share { handle := handle, desc := desc }

def bind (r : Ref Sampler) (slot : UInt32) : Render σ Unit := do
  let s ← view r
  ask (.bindSampler slot (some s.handle))

/-- Bind nothing in a slot. -/
def unbind (slot : UInt32) : Render σ Unit := ask (.bindSampler slot none)

end RenderKit.Sampler
