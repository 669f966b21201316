import RenderKit.Datum.Setting
import RenderKit.OpenGL.DebugOutput
import RenderKit.OpenGL.Recorder

set_option autoImplicit false

/-! # Written drivers -/

namespace RenderKit.Datum

def asGlProfile (d : Datum) : Reading GlProfile := do
  return {
    version := ← d.getD "version" asText "4.5.0 Fake"
    renderer := ← d.getD "renderer" asText "Fake Renderer"
    extensions := ← d.getD "extensions" (each asText) []
    maxTextureSize := ← d.getD "max_texture_size" asSigned 4096
    maxTextureUnits := ← d.getD "max_texture_units" asSigned 32
    maxVertexAttributes := ← d.getD "max_vertex_attributes" asSigned 16
    maxUniformLocations := ← d.getD "max_uniform_locations" asSigned 1024
    maxColorAttachments := ← d.getD "max_color_attachments" asSigned 8
    maxAnisotropy := ← d.getD "max_anisotropy" asFloat ⟨0x41800000⟩ }

/-- What is said about shaders, under the numbers of their types. -/
def asCompileFailures (d : Datum) : Reading (List (Nat × String)) := do
  (← d.asTable asText).mapM fun f =>
    match f.1.toNat? with
    | some type => return (type, f.2)
    | none => unreadable f.1

/-- A change of conduct: the parts that are given replace the old ones. A failure to link that is
    null takes the old one away. -/
def asGlConduct (d : Datum) : Reading (GlConduct → GlConduct) := do
  let failures ← d.opt "fail" (each asText)
  let status ← d.opt "framebuffer_status" asWord
  let compileFailures ← d.opt "compile_log" asCompileFailures
  let linkFailure ← d.opt "link_log" asText
  let uniforms ← d.opt "uniforms" (asTable asSigned)
  let attributes ← d.opt "attributes" (asTable asSigned)
  let active ← d.opt "active" (each asText)
  return fun c =>
    { failures := failures.getD c.failures
      framebufferStatus := status.getD c.framebufferStatus
      compileFailures := compileFailures.getD c.compileFailures
      linkFailure := if d.mentions "link_log" then linkFailure else c.linkFailure
      uniforms := uniforms.getD c.uniforms
      attributes := attributes.getD c.attributes
      active := active.getD c.active }

def asGlChange (d : Datum) :
    Reading (GlDevice GlRecorder → GlDevice GlRecorder) := do
  let change ← d.asGlConduct
  return fun device =>
    { device with driver := { device.driver with conduct := change device.driver.conduct } }

def asGlRecorder (d : Datum) : Reading GlRecorder := do
  let change ← d.asGlConduct
  return .new (← d.asGlProfile) (change .standard)

end RenderKit.Datum
