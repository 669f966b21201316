import RenderKit.Datum.Setting
import RenderKit.Device.Scripted

set_option autoImplicit false

/-! # Written scripts -/

namespace RenderKit.Datum

/-- A change to a script: the parts that are given replace the old ones. -/
def asScript (d : Datum) : Reading (Script → Script) := do
  let failures ← d.opt "fail" (asTable asErrorKind)
  let uniforms ← d.opt "uniforms" (asTable asSigned)
  let attributes ← d.opt "attributes" (asTable asSigned)
  return fun s =>
    { failures := failures.getD s.failures
      uniforms := uniforms.getD s.uniforms
      attributes := attributes.getD s.attributes }

def asScriptChange (d : Datum) : Reading (ScriptedDevice → ScriptedDevice) := do
  let change ← d.asScript
  return fun device => { device with script := change device.script }

def asScriptedDevice (d : Datum) : Reading ScriptedDevice := do
  let script ← d.asScript
  let capabilities := ScriptedDevice.capabilitiesOf (← d.getD "max_texture_size" asWord 4096)
    (← d.getD "max_color_attachments" asWord 8)
  return .new (← d.getD "api" asNamed .openGL) capabilities (script .empty)

end RenderKit.Datum
