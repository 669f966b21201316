import RenderKit.Datum.Setting
import RenderKit.Session.Step

set_option autoImplicit false

/-! # Written recipes

How the objects of a session are made. Parts that are objects themselves are given by name. -/

namespace RenderKit.Datum

open Session

/-- The bytes of a list of numbers. -/
def asWordBytes (d : Datum) : Reading (List UInt8) := do
  match d.field? "f32" with
  | some xs => return Buffer.wordBytes ((← xs.asFloats).map Binary32.bits)
  | none => return Buffer.wordBytes (← d.get "u32" (each asWord))

def attachmentSetting (name : String) (arguments : List Datum) : Reading AttachmentSetting := do
  match name, arguments with
  | "format", [f] => return .format (← f.asNamed)
  | "texture", [t] => return .texture (← t.asText)
  | _, _ => unreadable name

def targetSetting (name : String) (arguments : List Datum) : Reading TargetSetting := do
  match name, arguments with
  | "color", [a] => return .color (← a.asText)
  | "depth", [a] => return .depth (← a.asText)
  | "depth_stencil", [a] => return .depthStencil (← a.asText)
  | _, _ => unreadable name

def pipelineSetting (name : String) (arguments : List Datum) : Reading PipelineSetting := do
  match name, arguments with
  | "shader", [x] => return .program (← x.asText)
  | "layout", [x] => return .layout (← x.asText)
  | "topology", [x] => return .topology (← x.asNamed)
  | "rasterizer", [x] => return .rasterizer (← x.asRasterizer)
  | "depth_stencil", [x] => return .depthStencil (← x.asDepthStencil)
  | "blend", [x] => return .blend (← x.asBlend)
  | "attachments", [x] => return .attachments (← x.asWord)
  | "vertex_buffer", [x] => return .vertexBuffer (← x.asText)
  | "index_buffer", [x] => return .indexBuffer (← x.asText)
  | _, _ => unreadable name

def meshSetting (name : String) (arguments : List Datum) : Reading MeshSetting := do
  match name, arguments with
  | "vertex_buffer", [x] => return .vertexBuffer (← x.asText)
  | "index_buffer", [x] => return .indexBuffer (← x.asText)
  | "layout", [x] => return .layout (← x.asText)
  | "topology", [x] => return .topology (← x.asNamed)
  | "vertex_count", [n] => return .vertexCount (← n.asWord)
  | "index_count", [n] => return .indexCount (← n.asWord)
  | _, _ => unreadable name

def materialSetting (name : String) (arguments : List Datum) : Reading MaterialSetting := do
  match name, arguments with
  | "shader", [x] => return .program (← x.asText)
  | "uniform", [key, x] => return .uniform (← key.asText) (← x.asUniform)
  | "texture", [slot, x] => return .texture (← slot.asWord) (← x.asText)
  | "sampler", [slot, x] => return .sampler (← slot.asWord) (← x.asText)
  | "remove_texture", [slot] => return .removeTexture (← slot.asWord)
  | _, _ => unreadable name

/-- One stage of a program: a text with sections, source text, a file, bytecode, or source text that
    is compiled for a stage of its own first. -/
def asStageSetting (d : Datum) : Reading StageSetting := do
  match d.field? "source", d.field? "glsl", d.field? "path", d.field? "spirv" with
  | some x, _, _, _ => return .input (.sections (← x.asText))
  | _, some x, _, _ => return .input (.source (← d.get "stage" asStage) (← x.asText))
  | _, _, some x, _ => return .input (.file (← d.get "stage" asStage) (← x.asText))
  | _, _, _, some x => return .input (.bytecode (← d.get "stage" asStage) (← each asWord x))
  | none, none, none, none =>
      return .compiled (← d.get "stage" asStage) (← d.get "from" asStage)
        (← d.get "compiled" asText)

def programRecipe (context : Option Name) (d : Datum) : Reading Recipe := do
  return .program context (← d.opt "options" asOptions) (← d.getD "reflect" asBool false)
    (← d.get "stages" (each asStageSetting))

/-- The recipe of a step that makes an object. -/
def recipe? (kind : String) (d : Datum) : Reading (Option Recipe) := do
  let word (key : String) : Reading UInt32 := d.get key asWord
  match kind with
  | "buffer" =>
      return some (.buffer (← d.get "kind" asNamed) (← d.getD "usage" asNamed .static)
        (← d.opt "size" asLong) (← d.opt "data" asBytes))
  | "buffer_slice" =>
      return some (.buffer (← d.get "kind" asNamed) (← d.get "usage" asNamed)
        none (some (← asWordBytes d)))
  | "texture" => return some (.texture (← d.asTextureDesc) (← d.opt "data" asBytes))
  | "texture_file" =>
      return some (.image (← d.get "path" asText) (← d.opt "data" asBytes)
        (← d.getD "srgb" asBool false) (← d.getD "mipmaps" asBool false))
  | "sampler" => return some (.sampler (← d.follow .standard samplerSetting))
  | "attachment" =>
      let start : Attachment ← match ← d.get "kind" asText with
        | "color" => do pure (.color (← d.get "format" asNamed))
        | "depth" => do pure (.depth (← d.get "format" asNamed))
        | _ => pure .depthStencil
      return some (.attachment start (← d.instructions attachmentSetting))
  | "default_target" => return some (.defaultTarget (← word "w") (← word "h"))
  | "framebuffer" =>
      return some (.framebuffer (← word "w") (← word "h") (← d.instructions targetSetting))
  | "layout" =>
      return some (.layout (← d.get "attrs" (each asAttribute)) (← d.opt "stride" asWord))
  | "shader" => some <$> programRecipe none d
  | "context_shader" => some <$> programRecipe (some (← d.get "context" asText)) d
  | "pipeline" =>
      return some (.pipeline (← d.opt "mesh" asText) (← d.instructions pipelineSetting))
  | "pass" =>
      return some (.pass (← d.get "framebuffer" asText) (← d.follow .start passSetting))
  | "mesh" => return some (.mesh (← d.instructions meshSetting))
  | "material" => return some (.material (← d.instructions materialSetting))
  | "context" =>
      let api ← d.get "api" asNamed
      return some (.context (← d.follow (.new api) contextSetting))
  | "cmd" =>
      match d.field? "context" with
      | some name => return some (.contextCommands (← name.asText))
      | none => return some (.commands (← d.get "validation" asNamed))
  | _ => return none

end RenderKit.Datum
