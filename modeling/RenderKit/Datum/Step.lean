import RenderKit.Datum.Recipe
import RenderKit.Resource.Image.Png
import RenderKit.Scene.Matrix
import RenderKit.Shader.Glsl.Toolchain

set_option autoImplicit false

/-! # Written steps

A step is a record that says what to do and with which objects. Written steps are played with the
toolchain for interfaces, with images in one format, and with geometry in single precision. -/

namespace RenderKit.Datum

open Session

/-! ## Commands -/

def asArea (d : Datum) : Reading PixelRect := do
  return {
    x := ← d.get "x" asSigned
    y := ← d.get "y" asSigned
    width := ← d.get "w" asWord
    height := ← d.get "h" asWord }

/-- The command of a step for a command buffer. -/
def command? (kind : String) (d : Datum) : Reading (Option Command) := do
  let name (key : String) : Reading Name := d.get key asText
  let word (key : String) : Reading UInt32 := d.get key asWord
  match kind with
  | "begin" => return some .start
  | "end" => return some .finish
  | "begin_pass" => return some (.beginPass (← name "pass"))
  | "end_pass" => return some .endPass
  | "set_pipeline" => return some (.setPipeline (← name "pipeline"))
  | "viewport" => return some (.setViewport (← asArea d))
  | "scissor" => return some (.setScissor (← asArea d))
  | "set_uniform" => return some (.setUniform (← name "name") (← d.get "value" asUniform))
  | "set_texture" => return some (.setTexture (← word "slot") (← name "texture"))
  | "set_sampler" => return some (.setSampler (← word "slot") (← name "sampler"))
  | "uniform_buffer" => return some (.bindUniformBuffer (← word "binding") (← name "buffer"))
  | "vertex_buffer" => return some (.setVertexBuffer (← name "buffer"))
  | "index_buffer" => return some (.setIndexBuffer (← name "buffer"))
  | "draw" => return some (.draw (← word "count") (← word "first"))
  | "draw_indexed" =>
      return some (.drawIndexed (← word "count") (← word "first") (← d.get "base" asSigned))
  | "draw_mesh" => return some (.drawMesh (← name "mesh"))
  | _ => return none

/-! ## Requests

A handle is written as its raw number, and no handle as zero. -/

def handleOf? (kind : ObjectKind) (d : Datum) (key : String) : Reading (Option (Handle kind)) := do
  return Handle.ofRaw? (← d.getD key asWord 0)

def handleOf (kind : ObjectKind) (d : Datum) (key : String) : Reading (Handle kind) := do
  match ← handleOf? kind d key with
  | some h => return h
  | none => unreadable key

def handlesOf (kind : ObjectKind) (d : Datum) (key : String) : Reading (List (Handle kind)) := do
  let raws ← d.getD key (each asWord) []
  return raws.filterMap Handle.ofRaw?

/-- A request to the device itself. -/
def asRequest (d : Datum) : Reading Request := do
  let word (key : String) : Reading UInt32 := d.get key asWord
  let buffer : Reading BufferHandle := handleOf .buffer d "handle"
  match ← d.get "call" asText with
  | "clear" =>
      return .clear ⟨← d.opt "color" asVec4, ← d.opt "depth" asFloat,
        ← d.opt "stencil" asWord⟩
  | "create_buffer" =>
      return .createBuffer (← d.get "kind" asNamed) (← d.get "usage" asNamed)
        (← d.get "size" asLong) (← d.opt "data" asBytes)
  | "write_buffer" =>
      return .writeBuffer (← buffer) (← d.get "kind" asNamed)
        (← d.get "offset" asLong) (← d.get "data" asBytes)
  | "read_buffer" =>
      return .readBuffer (← buffer) (← d.get "kind" asNamed)
        (← d.get "offset" asLong) (← d.get "len" asLong)
  | "bind_buffer" =>
      return .bindBuffer (← d.get "kind" asNamed) (← handleOf? .buffer d "handle")
  | "bind_buffer_base" =>
      return .bindBufferBase (← d.get "kind" asNamed) (← word "index")
        (← handleOf? .buffer d "handle")
  | "bind_texture" => return .bindTexture (← word "slot") (← handleOf? .texture d "handle")
  | "bind_sampler" => return .bindSampler (← word "slot") (← handleOf? .sampler d "handle")
  | "bind_framebuffer" => return .bindFramebuffer (← handleOf? .framebuffer d "handle")
  | "bind_vertex_array" => return .bindVertexArray (← handleOf? .vertexArray d "handle")
  | "use_program" => return .useProgram (← handleOf? .program d "handle")
  | "create_framebuffer" =>
      let depth ← handleOf? .texture d "depth"
      let depth ← match depth with
        | some h => do pure (some (h, ← d.get "point" asNamed))
        | none => pure none
      return .createFramebuffer (← handlesOf .texture d "colors") depth
  | "compile_shader" =>
      return .compileShader (← d.get "stage" asStage) (← d.get "source" asText)
  | "link_program" => return .linkProgram (← handlesOf .shader d "shaders")
  | "uniform_location" =>
      return .uniformLocation (← handleOf .program d "handle") (← d.get "name" asText)
  | "set_uniform" =>
      return .setUniform (← d.get "location" asSigned) (← d.get "value" asUniform)
  | "apply_blend" => return .applyBlend (← d.get "blend" asBlend) (← word "count")
  | "draw_elements" =>
      return .drawElements (← d.get "topology" asNamed) (← word "count")
        (← d.get "offset" asLong) (← d.get "base" asSigned)
  | call => unreadable call

/-! ## Steps -/

def asMessage (d : Datum) : Reading DriverMessage := do
  let word (key : String) : Reading UInt32 := d.get key asWord
  return {
    source := ← word "source"
    type := ← word "type"
    id := ← word "message_id"
    severity := ← word "severity"
    text := ← d.get "text" asText }

def asQuery (d : Datum) : Reading MaterialQuery := do
  match d.field? "uniform", d.field? "texture" with
  | some name, _ => return .uniform (← name.asText)
  | none, some slot => return .texture (← slot.asWord)
  | none, none => return .sampler (← d.get "sampler" asWord)

/-- A step. What it can change about the surroundings of the device is read by `change`. -/
def asStep {σ : Type} (change : Datum → Reading (σ → σ)) (d : Datum) : Reading (Step σ) := do
  let id : Reading Name := d.get "id" asText
  let text (key : String) : Reading String := d.get key asText
  let word (key : String) : Reading UInt32 := d.get key asWord
  let slot : Reading UInt32 := d.getD "slot" asWord 0
  let kind ← text "do"
  if let some recipe := ← recipe? kind d then return .make (← id) recipe
  if let some c := ← command? kind d then return .command (← id) c
  match kind with
  | "drop" => return .drop (← id)
  | "info" => return .info (← id)
  | "debug" => return .debug (← id)
  | "bind" => return .bind (← id) (← slot)
  | "unbind" => return .unbind (← id) (← slot)
  | "set_data" => return .write (← id) (← d.get "offset" asLong) (← d.get "data" asBytes)
  | "set_slice" => return .write (← id) (← d.get "offset" asLong) (← asWordBytes d)
  | "read_data" => return .read (← id) (← d.get "offset" asLong) (← d.get "len" asLong)
  | "resize" => return .resize (← id) (← word "w") (← word "h")
  | "uniform_location" => return .uniformLocation (← id) (← text "name")
  | "attribute_location" => return .attributeLocation (← id) (← text "name")
  | "reflection" => return .reflection (← id) (← d.get "stage" asStage) (← d.opt "name" asText)
  | "shader_set_uniform" => return .setUniform (← id) (← text "name") (← d.get "value" asUniform)
  | "pipeline_vertex_buffer" => return .setVertexBuffer (← id) (← text "buffer")
  | "pipeline_index_buffer" => return .setIndexBuffer (← id) (← text "buffer")
  | "mesh_attach" => return .attachMesh (← id) (← text "pipeline")
  | "apply" => return .apply (← id)
  | "material_get" => return .getMaterial (← id) (← asQuery d)
  | "material_set" =>
      let (name, arguments) ← asInstruction (← d.field "set")
      return .setMaterial (← id) (← materialSetting name arguments)
  | "apply_state" =>
      let count ← d.getD "count" asWord 1
      let blend ← d.opt "blend" asBlend
      return .applyState (← d.opt "rasterizer" asRasterizer)
        (← d.opt "depth_stencil" asDepthStencil) (blend.map fun b => (b, count))
  | "context_active" => return .contextActive
  | "capabilities" => return .capabilities
  | "device_debug" => return .deviceDebug
  | "env" => return .adjust (← change d)
  | "debug_message" => return .message (← asMessage d)
  | "debug_stats" => return .counts
  | "dev" => return .ask (← asRequest d)
  | kind => unreadable kind

end RenderKit.Datum
