import RenderKit.Device.Instrumented
import RenderKit.Device.Memory

set_option autoImplicit false

/-! # A device that follows a script

The device does nothing but write down what it is asked, count up its handles, and remember the
contents of buffers. A script says which requests fail and which names have a location. -/

namespace RenderKit

structure Script where
  /-- The kinds of errors of requests that fail, by the names of the requests. -/
  failures : List (String × ErrorKind)
  uniforms : List (String × Int32)
  attributes : List (String × Int32)
deriving DecidableEq, Repr

def Script.empty : Script := ⟨[], [], []⟩

structure ScriptedDevice where
  api : Api
  capabilities : Capabilities
  script : Script
  /-- The last handle that was given out. -/
  lastHandle : UInt32
  memory : Memory
  lines : Array String

namespace ScriptedDevice

/-- The limits of a scripted device, two of which can be chosen. -/
def capabilitiesOf (maxTextureSize maxColorAttachments : UInt32) : Capabilities :=
  { maxTextureSize := maxTextureSize
    maxTextureUnits := 16
    maxVertexAttributes := 16
    maxUniformLocations := 1024
    maxColorAttachments := maxColorAttachments
    maxAnisotropy := ⟨0x41800000⟩
    computeShaders := true
    geometryShaders := true
    tessellation := true }

def new (api : Api) (capabilities : Capabilities) (script : Script) : ScriptedDevice :=
  { api := api, capabilities := capabilities, script := script, lastHandle := 0
    memory := .empty, lines := #[] }

/-! ## Lines -/

def numberText (n : UInt32) : String := toString n.toNat

def handleText {kind : ObjectKind} (h : Option (Handle kind)) : String :=
  numberText (Handle.rawOf h)

def dataText : Option (List UInt8) → String
  | none => "none"
  | some bytes => Hex.ofBytes bytes

def depthText : Option (TextureHandle × AttachmentPoint) → String
  | none => "-"
  | some (h, point) => h.text ++ ":" ++ nameOf point

/-- Words with blanks between them. -/
def words (ws : List String) : String := " ".intercalate ws

/-- The line of a request, up to what it replies. -/
def line : Request → String
  | .clear what => words ["clear", what.text]
  | .setViewport area => words ["set_viewport", area.text]
  | .setScissor area => words ["set_scissor", area.text]
  | .createBuffer kind usage size data =>
      words ["create_buffer", nameOf kind, nameOf usage, toString size.toNat,
        "data=" ++ dataText data]
  | .writeBuffer buffer kind offset data =>
      words ["write_buffer", buffer.text, nameOf kind, toString offset.toNat, Hex.ofBytes data]
  | .readBuffer buffer kind offset length =>
      words ["read_buffer", buffer.text, nameOf kind, toString offset.toNat,
        toString length.toNat]
  | .bindBuffer kind buffer => words ["bind_buffer", nameOf kind, handleText buffer]
  | .bindBufferBase kind index buffer =>
      words ["bind_buffer_base", nameOf kind, numberText index, handleText buffer]
  | .deleteBuffer buffer => words ["delete_buffer", buffer.text]
  | .createTexture desc data =>
      words ["create_texture_2d", numberText desc.width ++ "x" ++ numberText desc.height,
        nameOf desc.format, "srgb=" ++ boolText desc.srgb, "mipmaps=" ++ boolText desc.mipmaps,
        "data=" ++ dataText data]
  | .bindTexture slot texture => words ["bind_texture", numberText slot, handleText texture]
  | .deleteTexture texture => words ["delete_texture", texture.text]
  | .createSampler desc => words ["create_sampler", desc.text]
  | .bindSampler slot sampler => words ["bind_sampler", numberText slot, handleText sampler]
  | .deleteSampler sampler => words ["delete_sampler", sampler.text]
  | .createFramebuffer colors depth =>
      words ["create_framebuffer", "colors=" ++ listText (colors.map Handle.text),
        "depth=" ++ depthText depth]
  | .bindFramebuffer framebuffer => words ["bind_framebuffer", handleText framebuffer]
  | .deleteFramebuffer framebuffer => words ["delete_framebuffer", framebuffer.text]
  | .compileShader stage source => words ["compile_shader", stage.name, quoted (firstLine source)]
  | .deleteShader shader => words ["delete_shader", shader.text]
  | .linkProgram shaders => words ["link_program", listText (shaders.map Handle.text)]
  | .useProgram program => words ["use_program", handleText program]
  | .deleteProgram program => words ["delete_program", program.text]
  | .uniformLocation program name => words ["uniform_location", program.text, name]
  | .attributeLocation program name => words ["attribute_location", program.text, name]
  | .setUniform location value =>
      words ["set_uniform", toString location.toInt, value.typeName, value.text]
  | .createVertexArray => "create_vertex_array"
  | .bindVertexArray array => words ["bind_vertex_array", handleText array]
  | .attachVertexBuffer array buffer layout =>
      words ["attach_vertex_buffer", array.text, buffer.text, layout.text]
  | .attachIndexBuffer array buffer => words ["attach_index_buffer", array.text, buffer.text]
  | .deleteVertexArray array => words ["delete_vertex_array", array.text]
  | .applyRasterizer state => words ["apply_rasterizer", state.text]
  | .applyDepthStencil state => words ["apply_depth_stencil", state.text]
  | .applyBlend state count => words ["apply_blend", numberText count, state.text count.toNat]
  | .drawArrays topology first count =>
      words ["draw_arrays", nameOf topology, numberText first, numberText count]
  | .drawElements topology count byteOffset base =>
      words ["draw_elements", nameOf topology, numberText count, toString byteOffset.toNat,
        toString base.toInt]

/-! ## Answers -/

def log (d : ScriptedDevice) (l : String) : ScriptedDevice := { d with lines := d.lines.push l }

/-- The first of some names whose requests fail. -/
def failure? (d : ScriptedDevice) (names : List String) : Option (String × ErrorKind) :=
  names.findSome? fun name => (d.script.failures.lookup name).map fun kind => (name, kind)

/-- Answer a request that can fail under some names. A failure is written down by its name. -/
def attempt {α : Type} (d : ScriptedDevice) (names : List String)
    (go : ScriptedDevice → α × ScriptedDevice) : Except Error α × ScriptedDevice :=
  match d.failure? names with
  | some (name, kind) =>
      (.error (.of kind ("mock failure: " ++ name)), d.log (name ++ " failed"))
  | none =>
      let (a, d) := go d
      (.ok a, d)

/-- A new handle. One counter serves all kinds of objects. -/
def fresh (kind : ObjectKind) (d : ScriptedDevice) : Handle kind × ScriptedDevice :=
  let n := d.lastHandle + 1
  if h : n ≠ 0 then (⟨n, h⟩, { d with lastHandle := n })
  else (⟨1, by decide⟩, { d with lastHandle := 1 })

/-- Create an object. -/
def create (kind : ObjectKind) (d : ScriptedDevice) (names : List String) (r : Request) :
    Except Error (Handle kind) × ScriptedDevice :=
  d.attempt names fun d =>
    let (h, d) := d.fresh kind
    (h, d.log (line r ++ " -> " ++ h.text))

/-- An outcome without entries. -/
def quiet {r : Request} (reply : r.Reply) (d : ScriptedDevice) : Outcome ScriptedDevice r :=
  { reply := some reply, notes := [], state := d }

/-- The data of a new buffer is what is written to it first. -/
def createBuffer (d : ScriptedDevice) (r : Request) (data : Option (List UInt8)) :
    Except Error BufferHandle × ScriptedDevice :=
  match d.create .buffer ["create_buffer"] r with
  | (.ok h, d) => (.ok h, { d with memory := d.memory.write h.raw 0 (data.getD []) })
  | (.error e, d) => (.error e, d)

def perform (r : Request) (d : ScriptedDevice) : Outcome ScriptedDevice r :=
  match r with
  | .createBuffer kind usage size data =>
      let (reply, d) := d.createBuffer (.createBuffer kind usage size data) data
      quiet reply d
  | .writeBuffer buffer kind offset data =>
      let (reply, d) := d.attempt ["write_buffer"] fun d =>
        ((), { d.log (line (.writeBuffer buffer kind offset data)) with
          memory := d.memory.write buffer.raw offset.toNat data })
      quiet reply d
  | .readBuffer buffer kind offset length =>
      let (reply, d) := d.attempt ["read_buffer"] fun d =>
        (d.memory.read buffer.raw offset.toNat length.toNat,
          d.log (line (.readBuffer buffer kind offset length)))
      quiet reply d
  | .createTexture desc data =>
      let (reply, d) := d.create .texture ["create_texture_2d"] (.createTexture desc data)
      quiet reply d
  | .createSampler desc =>
      let (reply, d) := d.create .sampler ["create_sampler"] (.createSampler desc)
      quiet reply d
  | .createFramebuffer colors depth =>
      let (reply, d) :=
        d.create .framebuffer ["create_framebuffer"] (.createFramebuffer colors depth)
      quiet reply d
  | .compileShader stage source =>
      let (reply, d) :=
        d.create .shader ["compile_shader", "compile_shader " ++ stage.name]
          (.compileShader stage source)
      quiet reply d
  | .linkProgram shaders =>
      let (reply, d) := d.create .program ["link_program"] (.linkProgram shaders)
      quiet reply d
  | .createVertexArray =>
      let (reply, d) := d.create .vertexArray ["create_vertex_array"] .createVertexArray
      quiet reply d
  | .uniformLocation program name =>
      quiet (r := .uniformLocation program name) ((d.script.uniforms.lookup name).getD (-1))
        (d.log (line (.uniformLocation program name)))
  | .attributeLocation program name =>
      quiet (r := .attributeLocation program name) ((d.script.attributes.lookup name).getD (-1))
        (d.log (line (.attributeLocation program name)))
  | r => { reply := r.done?, notes := [], state := d.log (line r) }

instance : GraphicsDevice ScriptedDevice where
  api d := d.api
  capabilities d := d.capabilities
  perform := perform

/-- No driver stands behind a script. -/
instance : InstrumentedDevice ScriptedDevice where
  recorded d := d.lines.size
  linesSince n d := (d.lines.extract n).toList
  deliver _ d := (false, [], d)
  counts _ := .zero
  debugText? _ := none

end ScriptedDevice

end RenderKit
