import RenderKit.Device.Instrumented
import RenderKit.OpenGL.Cause
import RenderKit.OpenGL.Driver
import RenderKit.Text.Blank

set_option autoImplicit false

/-! # The OpenGL device

Requests become commands and questions to a driver. Whatever a request makes on the way is deleted
again when the request fails, and bindings it borrows are put back. Bytes go in and out through the
targets for copies, so that no vertex array notices. -/

namespace RenderKit

structure GlDevice (δ : Type) where
  driver : δ
  version : GlVersion
  capabilities : Capabilities
  /-- Whether messages of the driver reach the journal. -/
  debugOutput : Bool
  /-- The messages that reached it so far. -/
  counts : MessageCounts

namespace GlDevice

variable {δ : Type} [GlDriver δ]

/-! ## Working with a driver -/

/-- A driver, and what was noted while working with it. -/
structure Work (δ : Type) where
  driver : δ
  notes : Journal

instance : HasJournal (Work δ) := ⟨fun e w => { w with notes := w.notes.push e }⟩

/-- The operations on a driver. -/
abbrev Task (δ : Type) := TaskOn (Work δ)

def tell (c : GlCommand) : Task δ Unit :=
  modify fun w => { w with driver := GlDriver.run c w.driver }

def tellAll : List GlCommand → Task δ Unit
  | [] => return ()
  | c :: rest => do
      tell c
      tellAll rest

def query (q : GlQuery) : Task δ q.Reply := do
  let w ← get
  let (reply, driver) := GlDriver.ask q w.driver
  set { w with driver := driver }
  return reply

/-- A new object of the driver. -/
def create (kind : ObjectKind) (object : GlObject) (what : String) : Task δ (Handle kind) := do
  let name : GlName ← query (.create object)
  match Handle.ofRaw? name with
  | some h => return h
  | none => reject (GlCause.notCreated what kind.title)

def trace (message : String) : Task δ Unit := note .trace glSource message

def debug (message : String) : Task δ Unit := note .debug glSource message

/-- Delete an object and say so. -/
def deleteNoted {kind : ObjectKind} (what : String) (h : Handle kind) : Task δ Unit := do
  trace ("Deleting " ++ what ++ " " ++ h.text)
  tell (.delete kind h.raw)

/-- The largest number of bytes the interface has room for. -/
def maxBytes : Nat := 0x7fffffff

/-- A number of bytes as the interface takes it. -/
def bytes (count : UInt64) (what : String) : Task δ Int32 := do
  if count.toNat > maxBytes then reject (GlCause.tooManyBytes what count)
  return Int32.ofNat count.toNat

/-! ## Clearing -/

/-- What sets up a clear. -/
def clearValues (what : ClearRequest) : List GlCommand :=
  (what.color.map GlCommand.clearColor).toList ++ (what.depth.map GlCommand.clearDepth).toList
    ++ (what.stencil.map fun n => GlCommand.clearStencil n.toInt32).toList

def clear (what : ClearRequest) : Task δ Unit := do
  tellAll (clearValues what)
  if !what.isEmpty then
    tell (.clear what.color.isSome what.depth.isSome what.stencil.isSome)

/-! ## Buffers -/

/-- What fills a new buffer that is bound. -/
def upload (size : Int32) (usage : BufferUsage) (data : Option (List UInt8)) : List GlCommand :=
  match data with
  | none => [.bufferSize .copyWrite size usage]
  | some data =>
      if data.length = size.toNatClampNeg then [.bufferData .copyWrite data usage]
      else [.bufferSize .copyWrite size usage, .bufferSubData .copyWrite 0 data]

def createBuffer (kind : BufferKind) (usage : BufferUsage) (size : UInt64)
    (data : Option (List UInt8)) : Task δ BufferHandle := do
  let room ← bytes size "Buffer size"
  let h ← create .buffer .buffer "buffer"
  tell (.bindBuffer .copyWrite h.raw)
  tellAll (upload room usage data)
  tell (.bindBuffer .copyWrite 0)
  debug ("Created " ++ nameOf kind ++ " buffer " ++ h.text ++ " (" ++ toString size.toNat
    ++ " bytes, " ++ nameOf usage ++ ")")
  return h

def writeBuffer (buffer : BufferHandle) (offset : UInt64) (data : List UInt8) : Task δ Unit := do
  let place ← bytes offset "Buffer offset"
  tellAll
    [.bindBuffer .copyWrite buffer.raw, .bufferSubData .copyWrite place data,
     .bindBuffer .copyWrite 0]

def readBuffer (buffer : BufferHandle) (offset length : UInt64) : Task δ (List UInt8) := do
  let place ← bytes offset "Buffer offset"
  let count ← bytes length "Buffer read"
  tell (.bindBuffer .copyRead buffer.raw)
  let data : List UInt8 ← query (.bufferContents .copyRead place count.toNatClampNeg)
  tell (.bindBuffer .copyRead 0)
  return data

/-! ## Textures -/

/-- A side of a texture as the interface takes it. -/
def side (length limit : UInt32) : Task δ Int32 := do
  if length > limit then reject (GlCause.tooLarge length limit)
  return length.toInt32

/-- What fills a new texture that is bound. Without levels of its own it has only the first, so that
    filters between levels find it complete. -/
def textureCommands (desc : TextureDesc) (width height : Int32) (data : Option (List UInt8)) :
    List GlCommand :=
  [.unpackAlignment 1, .texImage (.of desc.format desc.srgb) width height data,
   .texParameter .minFilter
     (if desc.mipmaps then Filter.linear.mipmapCode .linear else Filter.linear.code),
   .texParameter .magFilter Filter.linear.code,
   if desc.mipmaps then .generateMipmap else .texParameter .maxLevel 0]

def createTexture (limit : UInt32) (desc : TextureDesc) (data : Option (List UInt8)) :
    Task δ TextureHandle := do
  let width ← side desc.width limit
  let height ← side desc.height limit
  let h ← create .texture .texture "texture"
  let previous : GlName ← query .boundTexture
  tell (.bindTexture h.raw)
  tellAll (textureCommands desc width height data)
  tell (.bindTexture previous)
  debug ("Created texture " ++ h.text ++ " (" ++ toString desc.width.toNat ++ "x"
    ++ toString desc.height.toNat ++ ", " ++ nameOf desc.format
    ++ (if desc.srgb then ", sRGB)" else ")"))
  return h

/-- Bind a texture in the unit of a slot. A slot without a unit cuts the request off. -/
def bindTexture (slot : UInt32) (texture : Option TextureHandle) : Task δ Unit := do
  if firstTextureUnit.toNat + slot.toNat ≥ UInt32.size then abort
  tell (.activeTexture (firstTextureUnit + slot))
  tell (.bindTexture (Handle.rawOf texture))

/-! ## Samplers -/

def samplerCommands (desc : SamplerDesc) (name : GlName) : List GlCommand :=
  [.samplerParameter name .minFilter (desc.minFilter.mipmapCode desc.mipmapMode),
   .samplerParameter name .magFilter desc.magFilter.code,
   .samplerParameter name .wrapS desc.wrapU.code,
   .samplerParameter name .wrapT desc.wrapV.code,
   .samplerParameter name .wrapR desc.wrapW.code,
   .samplerBorderColor name desc.borderColor]

/-- Anisotropy is cut down to what the device offers, and left out if it offers none. -/
def setAnisotropy (limit : Binary32) (desc : SamplerDesc) (name : GlName) : Task δ Unit := do
  match desc.effectiveAnisotropy? with
  | none => return ()
  | some level =>
      if Binary32.one.lt limit then tell (.samplerAnisotropy name (level.min limit))
      else
        note .warn glSource
          ("Anisotropic filtering unavailable, ignoring level " ++ level.plainText)

def createSampler (limit : Binary32) (desc : SamplerDesc) : Task δ SamplerHandle := do
  let h ← create .sampler .sampler "sampler"
  tellAll (samplerCommands desc h.raw)
  setAnisotropy limit desc h.raw
  debug ("Created sampler " ++ h.text)
  return h

/-! ## Framebuffers -/

/-- The slots of some color textures. -/
def colorSlots (count : Nat) : List AttachmentSlot :=
  (List.range count).map fun i => .color i.toUInt32

/-- What fills a new framebuffer that is bound. Without colors nothing is written to and nothing can
    be read. -/
def framebufferCommands (colors : List TextureHandle)
    (depth : Option (TextureHandle × AttachmentSlot)) : List GlCommand :=
  let slots := colorSlots colors.length
  (colors.zip slots).map (fun c => .framebufferTexture c.2 c.1.raw)
    ++ depth.toList.map (fun d => .framebufferTexture d.2 d.1.raw)
    ++ (if slots.isEmpty then [.drawBuffers [none], .readBuffer none]
      else [.drawBuffers (slots.map some)])

def createFramebuffer (limit : UInt32) (colors : List TextureHandle)
    (depth : Option (TextureHandle × AttachmentPoint)) : Task δ FramebufferHandle := do
  if colors.length > limit.toNat then reject (GlCause.tooManyColors colors.length limit)
  let depthSlot ← match depth with
    | none => pure none
    | some (texture, point) =>
        match point.depthSlot? with
        | some slot => pure (some (texture, slot))
        | none => reject GlCause.colorAsDepth
  let h ← create .framebuffer .framebuffer "framebuffer"
  let previous : GlName ← query .boundFramebuffer
  tell (.bindFramebuffer h.raw)
  tellAll (framebufferCommands colors depthSlot)
  let status : UInt32 ← query .framebufferStatus
  tell (.bindFramebuffer previous)
  if status ≠ framebufferComplete then
    tell (.delete .framebuffer h.raw)
    reject (GlCause.incomplete status)
  debug ("Created framebuffer " ++ h.text ++ " (" ++ toString colors.length
    ++ " color attachments, depth: " ++ boolText depth.isSome ++ ")")
  return h

/-! ## Shaders and programs -/

def compileShader (stage : Stage) (source : String) : Task δ ShaderHandle := do
  let h ← create .shader (.shader stage) (stage.name ++ " shader")
  tellAll [.shaderSource h.raw source, .compileShader h.raw]
  let failure : Option String ← query (.compileFailure h.raw)
  match failure with
  | some info =>
      tell (.delete .shader h.raw)
      reject (GlCause.notCompiled stage (trimText info))
  | none => pure ()
  trace ("Compiled " ++ stage.name ++ " shader " ++ h.text)
  return h

def linkProgram (shaders : List ShaderHandle) : Task δ ProgramHandle := do
  let h ← create .program .program "program"
  tellAll (shaders.map fun s => .attachShader h.raw s.raw)
  tell (.linkProgram h.raw)
  tellAll (shaders.map fun s => .detachShader h.raw s.raw)
  let failure : Option String ← query (.linkFailure h.raw)
  match failure with
  | some info =>
      tell (.delete .program h.raw)
      reject (GlCause.notLinked (trimText info))
  | none => pure ()
  debug ("Linked program " ++ h.text ++ " from " ++ toString shaders.length ++ " stages")
  return h

/-! ## Names in programs -/

/-- Look a name up, if it exists. Names end where a null character stands, so one that holds a null
    character cannot be handed over, and cuts the request off. -/
def lookUp? (name : String) (q : GlQuery) (location : q.Reply → Int32) : Task δ (Option Int32) := do
  if name.toList.contains '\x00' then abort
  let found := location (← query q)
  return if found < 0 then none else some found

def uniformLocation? (program : ProgramHandle) (name : String) : Task δ (Option Int32) :=
  lookUp? name (.uniformLocation program.raw name) id

/-- A name without the index of a first element at its end. -/
def withoutIndex (name : List Char) : List Char :=
  if "[0]".toList.isSuffixOf name then name.take (name.length - 3) else name

/-- Whether a name is a path that ends with a member. -/
def endsWithMember (path : List Char) (member : String) : Bool :=
  ('.' :: member.toList).isSuffixOf path

/-- The first active uniform that is a member of a given name and has a location. The driver is
    asked for no more uniforms than needed. -/
def memberLocation? (program : ProgramHandle) (name : String) (index : Nat) :
    Nat → Task δ (Option Int32)
  | 0 => return none
  | left + 1 => do
      let active : Option String ← query (.activeUniform program.raw index)
      let path := withoutIndex (active.getD "").toList
      let found ←
        if active.isSome && endsWithMember path name then
          uniformLocation? program (String.ofList path)
        else pure none
      match found with
      | some location => return some location
      | none => memberLocation? program name (index + 1) left

/-- The location of a uniform of a name, or else of a member of that name; negative if there is
    neither. -/
def uniformLocation (program : ProgramHandle) (name : String) : Task δ Int32 := do
  match ← uniformLocation? program name with
  | some location => return location
  | none =>
      let count : Nat ← query (.activeUniformCount program.raw)
      return (← memberLocation? program name 0 count).getD (-1)

def attributeLocation (program : ProgramHandle) (name : String) : Task δ Int32 := do
  return (← lookUp? name (.attributeLocation program.raw name) id).getD (-1)

/-! ## Vertex arrays -/

def createVertexArray : Task δ VertexArrayHandle := create .vertexArray .vertexArray "vertex array"

/-- How one attribute is read. Integers stay integers. -/
def attributeCommands (stride : Int32) (a : VertexAttribute) : List GlCommand :=
  let f := a.format
  [.enableAttribute a.location,
   match f.scalar with
   | .float =>
       .attributePointer a.location f.components f.scalar a.normalized stride a.offset.toInt32
   | .int | .uint =>
       .attributeIntegerPointer a.location f.components f.scalar stride a.offset.toInt32]

/-- Do something with a vertex array bound, and bind the old one again. -/
def withVertexArray (array : VertexArrayHandle) (inside : List GlCommand) : Task δ Unit := do
  let previous : GlName ← query .boundVertexArray
  tell (.bindVertexArray array.raw)
  tellAll inside
  tell (.bindVertexArray previous)

def attachVertexBuffer (array : VertexArrayHandle) (buffer : BufferHandle)
    (layout : VertexLayout) : Task δ Unit := do
  withVertexArray array
    (.bindBuffer .array buffer.raw
      :: layout.attributes.flatMap (attributeCommands layout.stride.toInt32))
  tell (.bindBuffer .array 0)

/-- The index buffer stays with the vertex array. -/
def attachIndexBuffer (array : VertexArrayHandle) (buffer : BufferHandle) : Task δ Unit :=
  withVertexArray array [.bindBuffer .elementArray buffer.raw]

/-! ## Fixed functions -/

def rasterizerCommands (r : Rasterizer) : List GlCommand :=
  (match r.cull.face? with
    | some face => [.switch .cullFace true, .cullFace face]
    | none => [.switch .cullFace false])
  ++ [.frontFace r.front, .polygonMode r.polygon, .switch (.polygonOffset .fill) false,
      .switch (.polygonOffset .line) false, .switch (.polygonOffset .point) false]
  ++ (if r.offsetEnabled then
      [.switch (.polygonOffset r.polygon) true, .polygonOffset r.slope r.bias]
    else [])
  ++ [.switch .depthClamp r.depthClamp, .switch .scissorTest r.scissorTest]

def stencilCommands (face : Face) (s : StencilFace) : List GlCommand :=
  [.stencilFunc face s.compare s.reference.toInt32 s.compareMask,
   .stencilOp face s.fail s.depthFail s.pass, .stencilMask face s.writeMask]

def depthStencilCommands (d : DepthStencil) : List GlCommand :=
  [.switch .depthTest d.depthTest, .switch .stencilTest d.stencilTest, .depthMask d.depthWrite,
   .depthFunc d.depthCompare]
  ++ stencilCommands .front d.front ++ stencilCommands .back d.back

def blendAttachmentCommands (index : UInt32) (a : BlendAttachment) : List GlCommand :=
  (if a.enabled then
    [.switchBlend index true, .blendFunc index a.srcColor a.dstColor a.srcAlpha a.dstAlpha,
     .blendEquation index a.colorOp a.alphaOp]
  else [.switchBlend index false])
  ++ [.colorMask index a.mask]

def blendCommands (b : Blend) (count : UInt32) : List GlCommand :=
  (b.attachments.take count.toNat).zipIdx.flatMap
    (fun a => blendAttachmentCommands a.2.toUInt32 a.1)
  ++ [.blendColor b.constants]

/-! ## Drawing -/

/-- Draw indexed elements. An offset the interface has no room for is noted and nothing is drawn. -/
def drawElements (topology : Topology) (count : UInt32) (byteOffset : UInt64) (base : Int32) :
    Task δ Unit :=
  if byteOffset.toNat > maxBytes then
    note .error glSource
      ("Index offset " ++ toString byteOffset.toNat ++ " exceeds the GL limit, draw skipped")
  else
    tell (.drawElements topology count.toInt32 (Int32.ofNat byteOffset.toNat) base)

/-! ## Requests -/

/-- What a request comes down to. -/
def serve (capabilities : Capabilities) (r : Request) : Task δ r.Reply :=
  match r with
  | .clear what => clear what
  | .setViewport area => tell (.viewport area.x area.y area.width.toInt32 area.height.toInt32)
  | .setScissor area => tell (.scissor area.x area.y area.width.toInt32 area.height.toInt32)
  | .createBuffer kind usage size data => attempt (createBuffer kind usage size data)
  | .writeBuffer buffer _ offset data => attempt (writeBuffer buffer offset data)
  | .readBuffer buffer _ offset length => attempt (readBuffer buffer offset length)
  | .bindBuffer kind buffer => tell (.bindBuffer kind.target (Handle.rawOf buffer))
  | .bindBufferBase kind index buffer =>
      tell (.bindBufferBase kind.target index (Handle.rawOf buffer))
  | .deleteBuffer buffer => deleteNoted "buffer" buffer
  | .createTexture desc data => attempt (createTexture capabilities.maxTextureSize desc data)
  | .bindTexture slot texture => bindTexture slot texture
  | .deleteTexture texture => deleteNoted "texture" texture
  | .createSampler desc => attempt (createSampler capabilities.maxAnisotropy desc)
  | .bindSampler slot sampler => tell (.bindSampler slot (Handle.rawOf sampler))
  | .deleteSampler sampler => deleteNoted "sampler" sampler
  | .createFramebuffer colors depth =>
      attempt (createFramebuffer capabilities.maxColorAttachments colors depth)
  | .bindFramebuffer framebuffer => tell (.bindFramebuffer (Handle.rawOf framebuffer))
  | .deleteFramebuffer framebuffer => deleteNoted "framebuffer" framebuffer
  | .compileShader stage source => attempt (compileShader stage source)
  | .deleteShader shader => tell (.delete .shader shader.raw)
  | .linkProgram shaders => attempt (linkProgram shaders)
  | .useProgram program => tell (.useProgram (Handle.rawOf program))
  | .deleteProgram program => deleteNoted "program" program
  | .uniformLocation program name => uniformLocation program name
  | .attributeLocation program name => attributeLocation program name
  | .setUniform location value =>
      if location < 0 then return () else tell (.uniform location value)
  | .createVertexArray => attempt createVertexArray
  | .bindVertexArray array => tell (.bindVertexArray (Handle.rawOf array))
  | .attachVertexBuffer array buffer layout => attachVertexBuffer array buffer layout
  | .attachIndexBuffer array buffer => attachIndexBuffer array buffer
  | .deleteVertexArray array => tell (.delete .vertexArray array.raw)
  | .applyRasterizer state => tellAll (rasterizerCommands state)
  | .applyDepthStencil state => tellAll (depthStencilCommands state)
  | .applyBlend state count => tellAll (blendCommands state count)
  | .drawArrays topology first count =>
      tell (.drawArrays topology first.toInt32 count.toInt32)
  | .drawElements topology count byteOffset base => drawElements topology count byteOffset base

def perform (r : Request) (d : GlDevice δ) : Outcome (GlDevice δ) r :=
  let (outcome, work) := (serve d.capabilities r).run.run ⟨d.driver, #[]⟩
  { reply := outcome.toOption
    notes := work.notes.toList
    state := { d with driver := work.driver } }

instance : GraphicsDevice (GlDevice δ) where
  api _ := .openGL
  capabilities d := d.capabilities
  perform := perform

/-! ## Opening -/

/-- Extensions that bring anisotropic filtering to older versions. -/
def anisotropyExtensions : List String :=
  ["GL_ARB_texture_filter_anisotropic", "GL_EXT_texture_filter_anisotropic"]

/-- Whether a driver can report messages. -/
def reportsMessages (version : GlVersion) (extensions : List String) : Bool :=
  extensions.contains "GL_KHR_debug"
    || (if version.embedded then version.major = 3 && version.minor ≥ 2
      else version.major = 4 && version.minor ≥ 3)

/-- A limit that is not negative. -/
def limitOf (which : GlLimit) (driver : δ) : UInt32 :=
  (GlDriver.limit which driver).toNatClampNeg.toUInt32

def capabilitiesOf (version : GlVersion) (driver : δ) : Capabilities :=
  let extensions := GlDriver.extensions driver
  let anisotropic := version.atLeast 4 6 || anisotropyExtensions.any extensions.contains
  { maxTextureSize := limitOf .textureSize driver
    maxTextureUnits := limitOf .textureUnits driver
    maxVertexAttributes := limitOf .vertexAttributes driver
    maxUniformLocations := if version.atLeast 4 3 then limitOf .uniformLocations driver else 0
    maxColorAttachments := limitOf .colorAttachments driver
    maxAnisotropy :=
      if anisotropic then (GlDriver.maxAnisotropy driver).max .one else .one
    computeShaders := version.atLeast 4 3
    geometryShaders := version.atLeast 3 2
    tessellation := version.atLeast 4 0 }

/-- Have messages reported, if the driver can, at the time of the call that led to them. -/
def installDebugOutput (version : GlVersion) (driver : δ) : Task δ Bool := do
  if reportsMessages version (GlDriver.extensions driver) then
    tellAll [.switch .debugOutput true, .switch .debugOutputSynchronous true,
      .debugMessageCallback]
    return true
  else return false

def info (message : String) : Task δ Unit := note .info glSource message

/-- What the journal says about a new device. -/
def announce (version : GlVersion) (renderer : String) (c : Capabilities) : Task δ Unit := do
  info ("OpenGL " ++ version.text ++ " device created (" ++ renderer ++ ")")
  info ("  Max texture size: " ++ toString c.maxTextureSize.toNat)
  info ("  Max texture units: " ++ toString c.maxTextureUnits.toNat)
  info ("  Max vertex attributes: " ++ toString c.maxVertexAttributes.toNat)
  info ("  Max anisotropy: " ++ c.maxAnisotropy.plainText)
  info ("  Compute shaders: " ++ (if c.computeShaders then "yes" else "no"))

/-- Open a device on a driver. A driver whose version cannot be read cuts it off. -/
def start (driver : δ) : Task δ (GlDevice δ) := do
  match GlVersion.parse? (GlDriver.versionText driver) with
  | none => abort
  | some version =>
      if version.embedded then reject GlCause.embedded
      if !version.atLeast leastGlVersion.major leastGlVersion.minor then
        reject (GlCause.tooOld version)
      let debugOutput ← installDebugOutput version driver
      let capabilities := capabilitiesOf version driver
      announce version (GlDriver.renderer driver) capabilities
      return {
        driver := (← get).driver
        version := version
        capabilities := capabilities
        debugOutput := debugOutput
        counts := .zero }

/-- Open a device on a driver; what was noted comes with it. -/
def new (driver : δ) : Except Halt (GlDevice δ) × Journal :=
  let (outcome, work) := (start driver).run.run ⟨driver, #[]⟩
  (outcome, work.notes)

def debugText (d : GlDevice δ) : String :=
  recordText "GlDevice"
    [("version", d.version.text), ("capabilities", d.capabilities.debugText),
     ("debug_output", boolText d.debugOutput)]

end GlDevice

end RenderKit
