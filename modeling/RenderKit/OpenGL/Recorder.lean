import RenderKit.Device.Memory
import RenderKit.OpenGL.Line

set_option autoImplicit false

/-! # A driver that records

The driver draws nothing. It remembers what it was told and asked, which objects are bound, and what
is in its buffers. One counter gives names to objects of all kinds; an object that cannot be created
takes no name. Deleting an object leaves the bindings alone. -/

namespace RenderKit

/-- What the driver tells about itself. -/
structure GlProfile where
  version : String
  renderer : String
  extensions : List String
  maxTextureSize : Int32
  maxTextureUnits : Int32
  maxVertexAttributes : Int32
  maxUniformLocations : Int32
  maxColorAttachments : Int32
  maxAnisotropy : Binary32

/-- How the driver answers. -/
structure GlConduct where
  /-- The entry points that create nothing. -/
  failures : List String
  framebufferStatus : UInt32
  /-- What is said about shaders that cannot be compiled, by the number of their type. -/
  compileFailures : List (Nat × String)
  /-- What is said about programs, none of which can be linked then. -/
  linkFailure : Option String
  uniforms : List (String × Int32)
  attributes : List (String × Int32)
  /-- The active uniforms of every program. -/
  active : List String

def GlConduct.standard : GlConduct :=
  { failures := []
    framebufferStatus := framebufferComplete
    compileFailures := []
    linkFailure := none
    uniforms := []
    attributes := []
    active := [] }

inductive GlEvent where
  | command (c : GlCommand)
  | query (q : GlQuery) (reply : q.Reply)

def GlEvent.line? : GlEvent → Option String
  | .command c => some c.line
  | .query q reply => q.line? reply

structure GlRecorder where
  profile : GlProfile
  conduct : GlConduct
  history : Array GlEvent
  /-- The last name that was given out. -/
  lastName : GlName
  /-- The stages of the shaders. -/
  shaders : List (GlName × Stage)
  /-- Missing until one is chosen. -/
  activeUnit : Option UInt32
  /-- The textures bound in the units, the newest first. -/
  textures : List (Option UInt32 × GlName)
  /-- The buffers bound to the targets, the newest first. -/
  buffers : List (BufferTarget × GlName)
  framebuffer : GlName
  vertexArray : GlName
  memory : Memory

namespace GlRecorder

def new (profile : GlProfile) (conduct : GlConduct) : GlRecorder :=
  { profile := profile
    conduct := conduct
    history := #[]
    lastName := 0
    shaders := []
    activeUnit := none
    textures := []
    buffers := []
    framebuffer := 0
    vertexArray := 0
    memory := .empty }

/-! ## Bindings -/

def boundTexture (d : GlRecorder) : GlName := (d.textures.lookup d.activeUnit).getD 0

def boundBuffer (d : GlRecorder) (target : BufferTarget) : GlName :=
  (d.buffers.lookup target).getD 0

/-! ## Commands -/

/-- What a command changes, apart from the history. -/
def effect (c : GlCommand) (d : GlRecorder) : GlRecorder :=
  match c with
  | .bindBuffer target buffer => { d with buffers := (target, buffer) :: d.buffers }
  | .bufferData target data _ =>
      let buffer := d.boundBuffer target
      { d with memory := (d.memory.forget buffer).write buffer 0 data }
  | .bufferSize target _ _ => { d with memory := d.memory.forget (d.boundBuffer target) }
  | .bufferSubData target offset data =>
      { d with memory := d.memory.write (d.boundBuffer target) offset.toNatClampNeg data }
  | .activeTexture unit => { d with activeUnit := some unit }
  | .bindTexture texture => { d with textures := (d.activeUnit, texture) :: d.textures }
  | .bindFramebuffer framebuffer => { d with framebuffer := framebuffer }
  | .bindVertexArray array => { d with vertexArray := array }
  | _ => d

def run (c : GlCommand) (d : GlRecorder) : GlRecorder :=
  effect c { d with history := d.history.push (.command c) }

/-! ## Questions -/

/-- A new object, if there can be one. -/
def create (object : GlObject) (d : GlRecorder) : GlName × GlRecorder :=
  if d.conduct.failures.contains object.entryPoint then (0, d)
  else
    let name := d.lastName + 1
    let shaders := match object with
      | .shader stage => (name, stage) :: d.shaders
      | _ => d.shaders
    (name, { d with lastName := name, shaders := shaders })

/-- What is said about a shader that cannot be compiled. -/
def compileFailure (d : GlRecorder) (shader : GlName) : Option String := do
  let stage ← d.shaders.lookup shader
  d.conduct.compileFailures.lookup stage.code.toNat

def answer (q : GlQuery) (d : GlRecorder) : q.Reply × GlRecorder :=
  match q with
  | .create object => d.create object
  | .bufferContents target offset length =>
      (d.memory.read (d.boundBuffer target) offset.toNatClampNeg length, d)
  | .boundTexture => (d.boundTexture, d)
  | .boundFramebuffer => (d.framebuffer, d)
  | .boundVertexArray => (d.vertexArray, d)
  | .framebufferStatus => (d.conduct.framebufferStatus, d)
  | .compileFailure shader => (d.compileFailure shader, d)
  | .linkFailure _ => (d.conduct.linkFailure, d)
  | .uniformLocation _ name => ((d.conduct.uniforms.lookup name).getD (-1 : Int32), d)
  | .attributeLocation _ name => ((d.conduct.attributes.lookup name).getD (-1 : Int32), d)
  | .activeUniformCount _ => (d.conduct.active.length, d)
  | .activeUniform _ index => (d.conduct.active[index]?, d)

def ask (q : GlQuery) (d : GlRecorder) : q.Reply × GlRecorder :=
  let (reply, d) := d.answer q
  (reply, { d with history := d.history.push (.query q reply) })

/-- The value of a limit. -/
def limit (which : GlLimit) (d : GlRecorder) : Int32 :=
  match which with
  | .textureSize => d.profile.maxTextureSize
  | .textureUnits => d.profile.maxTextureUnits
  | .vertexAttributes => d.profile.maxVertexAttributes
  | .uniformLocations => d.profile.maxUniformLocations
  | .colorAttachments => d.profile.maxColorAttachments

instance : RecordingDriver GlRecorder where
  versionText d := d.profile.version
  renderer d := d.profile.renderer
  extensions d := d.profile.extensions
  limit := limit
  maxAnisotropy d := d.profile.maxAnisotropy
  run := run
  ask q d := d.ask q
  recorded d := d.history.size
  linesSince n d := (d.history.extract n).toList.filterMap GlEvent.line?

end GlRecorder

end RenderKit
