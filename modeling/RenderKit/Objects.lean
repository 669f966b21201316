import RenderKit.Device.Request
import RenderKit.Pool
import RenderKit.Shader.Reflection

set_option autoImplicit false

/-! # Objects with owners

Buffers, textures, samplers, framebuffers, programs and pipelines stand for objects of the device.
Each of them can be used in several places at once, and they refer to each other. -/

namespace RenderKit

structure Buffer where
  handle : BufferHandle
  kind : BufferKind
  usage : BufferUsage
  size : UInt64
deriving DecidableEq

structure Texture where
  handle : TextureHandle
  desc : TextureDesc
deriving DecidableEq

structure Sampler where
  handle : SamplerHandle
  desc : SamplerDesc
deriving DecidableEq

/-- A part of a framebuffer: a texture that is given, or one that is to be made. -/
structure Attachment where
  point : AttachmentPoint
  format : TextureFormat
  texture : Option (Ref Texture)
deriving DecidableEq

/-- A target of drawing. The default target, which is the window, has no handle. -/
structure Framebuffer where
  handle : Option FramebufferHandle
  width : UInt32
  height : UInt32
  colorAttachments : List Attachment
  depthAttachment : Option Attachment
  /-- The textures drawn to, one for each color attachment. -/
  colors : List (Ref Texture)
  depth : Option (Ref Texture)
deriving DecidableEq

/-- A value behind a lock, which is poisoned if somebody who held it was cut off. -/
structure Locked (α : Type) where
  value : α
  poisoned : Bool
deriving DecidableEq

namespace Locked

variable {α : Type}

/-- Take the lock. The value of a poisoned lock comes as an error. -/
def lock (l : Locked α) : Except α α := if l.poisoned then .error l.value else .ok l.value

/-- The value behind the lock, poisoned or not. -/
def recover (l : Locked α) : α :=
  match l.lock with
  | .ok a | .error a => a

@[simp] theorem recover_eq (l : Locked α) : l.recover = l.value := by
  unfold recover lock
  cases l.poisoned <;> rfl

end Locked

/-- The locations of uniforms that a program was asked for, also of those that do not exist. -/
structure UniformCache where
  program : Option ProgramHandle
  locations : List (String × Int32)
deriving DecidableEq

namespace UniformCache

def empty : UniformCache := ⟨none, []⟩

/-- Nothing is kept that is about another program. -/
def about (c : UniformCache) (program : ProgramHandle) : UniformCache :=
  if c.program = some program then c else ⟨some program, []⟩

def put (c : UniformCache) (name : String) (location : Int32) : UniformCache :=
  { c with locations := c.locations ++ [(name, location)] }

@[simp] theorem program_about (c : UniformCache) (program : ProgramHandle) :
    (c.about program).program = some program := by
  unfold about
  split
  · assumption
  · rfl

@[simp] theorem about_of_eq {c : UniformCache} {program : ProgramHandle}
    (h : c.program = some program) : c.about program = c := if_pos h

end UniformCache

/-- Linked shader stages. -/
structure Program where
  handle : ProgramHandle
  stages : List Stage
  reflections : List (Stage × Reflection)
  cache : Locked UniformCache
deriving DecidableEq

namespace Program

/-- What is remembered of this program. -/
def remembered (p : Program) : UniformCache := p.cache.recover.about p.handle

/-- The locations that are remembered, by name. -/
def locations (p : Program) : List (String × Int32) := p.remembered.locations

/-- The program with something else to remember. -/
def keep (p : Program) (c : UniformCache) : Program :=
  { p with cache := { p.cache with value := c } }

/-- The program after somebody was cut off who held its lock. -/
def poison (p : Program) : Program := { p with cache := { p.cache with poisoned := true } }

end Program

/-- All that a draw depends on, apart from where it goes to. -/
structure Pipeline where
  program : Ref Program
  array : VertexArrayHandle
  layout : VertexLayout
  topology : Topology
  rasterizer : Rasterizer
  depthStencil : DepthStencil
  blend : Blend
  /-- The number of attachments whose blend settings count. -/
  attachments : UInt32
  vertexBuffer : Option (Ref Buffer)
  indexBuffer : Option (Ref Buffer)
deriving DecidableEq

end RenderKit
