import RenderKit.Device.Capabilities
import RenderKit.Device.Request
import RenderKit.Journal

set_option autoImplicit false

/-! # Devices

A device is anything that has a state, says what it offers, and answers requests. The library
knows nothing else about it. -/

namespace RenderKit

/-- What a request leads to: the reply, unless the device was cut off while it worked, the entries
    it wrote, and its state afterwards. -/
structure Outcome (σ : Type) (r : Request) where
  reply : Option r.Reply
  notes : List Entry
  state : σ

/-- A type of states that form a device. -/
class GraphicsDevice (σ : Type) where
  api : σ → Api
  capabilities : σ → Capabilities
  perform : (r : Request) → σ → Outcome σ r

end RenderKit
