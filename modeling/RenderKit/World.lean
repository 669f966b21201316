import RenderKit.Device.Basic
import RenderKit.Objects

set_option autoImplicit false

/-! # The world an application works in

A world has a device, the objects that were made with it, the journal, and the history of all
requests. Operations change it step by step, and what an operation did before it failed stays
done. -/

namespace RenderKit

structure World (σ : Type) where
  device : σ
  /-- Every request so far with its reply. -/
  calls : Array Call
  journal : Journal
  /-- Whether there is a render context; there can be one at a time. -/
  contextActive : Bool
  buffers : Pool Buffer
  textures : Pool Texture
  samplers : Pool Sampler
  framebuffers : Pool Framebuffer
  programs : Pool Program
  pipelines : Pool Pipeline

namespace World

/-- A device about which nothing was asked yet. -/
def start {σ : Type} (device : σ) : World σ :=
  { device := device
    calls := #[]
    journal := #[]
    contextActive := false
    buffers := .empty
    textures := .empty
    samplers := .empty
    framebuffers := .empty
    programs := .empty
    pipelines := .empty }

end World

instance {σ : Type} : HasJournal (World σ) :=
  ⟨fun e w => { w with journal := w.journal.push e }⟩

/-- The operations on a world. -/
abbrev Render (σ : Type) := TaskOn (World σ)

/-- Ask something of the device. -/
def ask {σ : Type} [GraphicsDevice σ] (r : Request) : Render σ r.Reply := do
  let w ← get
  let outcome := GraphicsDevice.perform r w.device
  set { w with
    device := outcome.state
    calls := w.calls.push ⟨r, outcome.reply⟩
    journal := w.journal ++ outcome.notes }
  match outcome.reply with
  | some reply => return reply
  | none => abort

/-! ## Objects -/

/-- A type whose objects live in a pool of the world. -/
class Pooled (α : Type) where
  pool : {σ : Type} → World σ → Pool α
  setPool : {σ : Type} → World σ → Pool α → World σ

instance : Pooled Buffer := ⟨fun w => w.buffers, fun w p => { w with buffers := p }⟩

instance : Pooled Texture := ⟨fun w => w.textures, fun w p => { w with textures := p }⟩

instance : Pooled Sampler := ⟨fun w => w.samplers, fun w p => { w with samplers := p }⟩

instance : Pooled Framebuffer :=
  ⟨fun w => w.framebuffers, fun w p => { w with framebuffers := p }⟩

instance : Pooled Program := ⟨fun w => w.programs, fun w p => { w with programs := p }⟩

instance : Pooled Pipeline := ⟨fun w => w.pipelines, fun w p => { w with pipelines := p }⟩

section Objects

variable {σ α : Type} [Pooled α]

/-- Put an object into the world. The caller is its owner. -/
def share (a : α) : Render σ (Ref α) := do
  let w ← get
  let (r, p) := (Pooled.pool w).add a
  set (Pooled.setPool w p)
  return r

/-- The object behind a reference. A reference without an owner leads nowhere, and no operation
    follows one. -/
def view (r : Ref α) : Render σ α := do
  match (Pooled.pool (← get)).get? r with
  | some a => return a
  | none => abort

/-- Become one more owner of an object. -/
def hold (r : Ref α) : Render σ Unit :=
  modify fun w => Pooled.setPool w ((Pooled.pool w).retain r)

/-- The world with another value of an object. -/
def World.altered (w : World σ) (r : Ref α) (f : α → α) : World σ :=
  Pooled.setPool w ((Pooled.pool w).update r f)

/-- Change an object. -/
def alter (r : Ref α) (f : α → α) : Render σ Unit := modify fun w => w.altered r f

/-- Stop being an owner. The last owner gets the object, to take it apart. -/
def leave (r : Ref α) : Render σ (Option α) := do
  let w ← get
  let (last, p) := (Pooled.pool w).release r
  set (Pooled.setPool w p)
  return last

end Objects

/-- A type whose objects are taken apart when nobody owns them any more. -/
class Owned (α : Type) extends Pooled α where
  discard : {σ : Type} → [GraphicsDevice σ] → α → Render σ Unit

/-- Give up an object. With its last owner it is taken apart. -/
def release {σ α : Type} [GraphicsDevice σ] [Owned α] (r : Ref α) : Render σ Unit := do
  match ← leave r with
  | some a => Owned.discard a
  | none => return ()

/-- Give up several objects one after the other. -/
def releaseAll {σ α : Type} [GraphicsDevice σ] [Owned α] : List (Ref α) → Render σ Unit
  | [] => return ()
  | r :: rest => do
      release r
      releaseAll rest

/-- Give up an object that may be missing. -/
def releaseOption {σ α : Type} [GraphicsDevice σ] [Owned α] (r : Option (Ref α)) :
    Render σ Unit :=
  releaseAll r.toList

def holdAll {σ α : Type} [Pooled α] : List (Ref α) → Render σ Unit
  | [] => return ()
  | r :: rest => do
      hold r
      holdAll rest

end RenderKit
