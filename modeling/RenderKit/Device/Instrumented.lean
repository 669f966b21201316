import RenderKit.Device.Basic

set_option autoImplicit false

/-! # Devices that can be watched

Some devices write down what they are asked in lines of their own, receive messages of their
driver, and count them. -/

namespace RenderKit

/-- A message of a driver, in the numbers the driver uses. -/
structure DriverMessage where
  source : UInt32
  type : UInt32
  id : UInt32
  severity : UInt32
  text : String
deriving DecidableEq, Repr

/-- How many messages of each weight there were. -/
structure MessageCounts where
  errors : Nat
  warnings : Nat
  infos : Nat
  debugs : Nat
deriving DecidableEq, Repr

namespace MessageCounts

def zero : MessageCounts := ⟨0, 0, 0, 0⟩

def total (c : MessageCounts) : Nat := c.errors + c.warnings + c.infos + c.debugs

/-- Count one more message. -/
def add (c : MessageCounts) : Severity → MessageCounts
  | .error => { c with errors := c.errors + 1 }
  | .warn => { c with warnings := c.warnings + 1 }
  | .info => { c with infos := c.infos + 1 }
  | .debug | .trace => { c with debugs := c.debugs + 1 }

end MessageCounts

class InstrumentedDevice (σ : Type) extends GraphicsDevice σ where
  /-- How much was written down so far. -/
  recorded : σ → Nat
  /-- The lines for what was written down from a point on. -/
  linesSince : Nat → σ → List String
  /-- Hand over a message of the driver: whether anyone listened, the entries it led to, and the
      state afterwards. -/
  deliver : DriverMessage → σ → Bool × List Entry × σ
  counts : σ → MessageCounts
  /-- The device as a text, if it has one. -/
  debugText? : σ → Option String

end RenderKit
