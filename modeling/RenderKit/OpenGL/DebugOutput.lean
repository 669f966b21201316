import RenderKit.OpenGL.Device

set_option autoImplicit false

/-! # Messages of a driver

A device that has messages reported counts each of them and passes it on to the journal. -/

namespace RenderKit

namespace DriverMessage

/-- How serious a message is. Everything below the three named weights is for debugging. -/
def weight (m : DriverMessage) : Severity :=
  if m.severity = 0x9146 then .error
  else if m.severity = 0x9147 then .warn
  else if m.severity = 0x9148 then .info
  else .debug

/-- The words for the types of messages. -/
def typeNames : List (UInt32 × String) :=
  [(0x824c, "ERROR"), (0x824d, "DEPRECATED"), (0x824e, "UNDEFINED"), (0x824f, "PORTABILITY"),
   (0x8250, "PERFORMANCE"), (0x8268, "MARKER")]

def typeName (m : DriverMessage) : String := (typeNames.lookup m.type).getD "OTHER"

def entry (m : DriverMessage) : Entry :=
  { severity := m.weight
    source := glSource
    message := "OpenGL " ++ m.typeName ++ " [" ++ toString m.id.toNat ++ "]: " ++ m.text }

end DriverMessage

namespace GlDevice

/-- Take a message of the driver, if messages are reported. -/
def deliver {δ : Type} (m : DriverMessage) (d : GlDevice δ) : Bool × List Entry × GlDevice δ :=
  if d.debugOutput then (true, [m.entry], { d with counts := d.counts.add m.weight })
  else (false, [], d)

instance {δ : Type} [RecordingDriver δ] : InstrumentedDevice (GlDevice δ) where
  recorded d := RecordingDriver.recorded d.driver
  linesSince n d := RecordingDriver.linesSince n d.driver
  deliver := deliver
  counts d := d.counts
  debugText? d := some d.debugText

end GlDevice

end RenderKit
