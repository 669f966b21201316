import RenderKit.Command.Buffer
import RenderKit.Proofs.Ledger.Books

set_option autoImplicit false

/-! # Blind tasks

A task is blind if it does not see the journal: in worlds that differ in nothing else it comes to
the same, and they differ in nothing else afterwards. -/

namespace RenderKit

/-- The world apart from its journal. -/
def World.unlogged {σ : Type} (w : World σ) : World σ := { w with journal := #[] }

/-- A type whose objects are not in the journal. -/
class Unlogged (α : Type) [Pooled α] : Prop where
  pool_unlogged {σ : Type} (w : World σ) : Pooled.pool w.unlogged = (Pooled.pool w : Pool α)
  unlogged_setPool {σ : Type} (w : World σ) (p : Pool α) :
    (Pooled.setPool w p).unlogged = Pooled.setPool w.unlogged p

instance : Unlogged Buffer := ⟨fun _ => rfl, fun _ _ => rfl⟩

instance : Unlogged Texture := ⟨fun _ => rfl, fun _ _ => rfl⟩

instance : Unlogged Sampler := ⟨fun _ => rfl, fun _ _ => rfl⟩

instance : Unlogged Framebuffer := ⟨fun _ => rfl, fun _ _ => rfl⟩

instance : Unlogged Program := ⟨fun _ => rfl, fun _ _ => rfl⟩

instance : Unlogged Pipeline := ⟨fun _ => rfl, fun _ _ => rfl⟩

section Rules

variable {σ α β c : Type} [Cause c] {w w' : World σ}

def Blind (t : Render σ α) : Prop :=
  ∀ w w' : World σ, w.unlogged = w'.unlogged →
    (t.run.run w).1 = (t.run.run w').1 ∧ (t.run.run w).2.unlogged = (t.run.run w').2.unlogged

theorem blind_pure (a : α) : Blind (pure a : Render σ α) := fun _ _ h => ⟨rfl, h⟩

theorem blind_raise (e : Error) : Blind (raise e : Render σ α) := fun _ _ h => ⟨rfl, h⟩

theorem blind_note (severity : Severity) (source message : String) :
    Blind (note severity source message : Render σ Unit) := fun _ _ h => ⟨rfl, h⟩

theorem Blind.bind {t : Render σ α} {f : α → Render σ β} (ht : Blind t) (hf : ∀ a, Blind (f a)) :
    Blind (t >>= f) := by
  intro w w' h
  obtain ⟨houtcome, hworld⟩ := ht w w' h
  rw [run_bind, run_bind]
  rcases hw : t.run.run w with ⟨e | a, w₁⟩
  all_goals
    rcases hw' : t.run.run w' with ⟨e' | a', w₁'⟩
    all_goals
      rw [hw, hw'] at houtcome hworld
      cases houtcome
  · exact ⟨rfl, hworld⟩
  · exact hf a w₁ w₁' hworld

theorem Blind.unwinding {t : Render σ α} {change : World σ → World σ} (ht : Blind t)
    (hchange : ∀ w w' : World σ, w.unlogged = w'.unlogged →
      (change w).unlogged = (change w').unlogged) : Blind (unwinding t change) := by
  intro w w' h
  obtain ⟨houtcome, hworld⟩ := ht w w' h
  rw [run_unwinding, run_unwinding, houtcome]
  split
  · exact ⟨rfl, hchange _ _ hworld⟩
  · exact ⟨rfl, hworld⟩

theorem blind_reject (cause : c) : Blind (reject cause : Render σ α) :=
  (blind_note _ _ _).bind fun _ => blind_raise _

theorem Blind.reject_if {wrong : Prop} [Decidable wrong] {cause : c} {f : α → Render σ β}
    {t : Render σ β} (ht : Blind t) : Blind (if wrong then reject cause >>= f else t) := by
  split
  · exact fun _ _ h => ⟨rfl, h⟩
  · exact ht

variable [Pooled α] [Unlogged α] {r : Ref α}

theorem pool_eq (h : w.unlogged = w'.unlogged) :
    (Pooled.pool w : Pool α) = Pooled.pool w' := by
  rw [← Unlogged.pool_unlogged w, h, Unlogged.pool_unlogged]

/-- A task that exchanges a pool for another one. -/
theorem unlogged_exchange (h : w.unlogged = w'.unlogged) (f : Pool α → Pool α) :
    (Pooled.setPool w (f (Pooled.pool w))).unlogged =
      (Pooled.setPool w' (f (Pooled.pool w'))).unlogged := by
  rw [Unlogged.unlogged_setPool, Unlogged.unlogged_setPool, h, pool_eq h]

theorem blind_view : Blind (view r : Render σ α) := by
  intro w w' h
  rw [run_view, run_view, pool_eq h]
  rcases (Pooled.pool w').get? r with _ | a
  · exact ⟨rfl, h⟩
  · exact ⟨rfl, h⟩

theorem blind_hold : Blind (hold r : Render σ Unit) :=
  fun _ _ h => ⟨rfl, unlogged_exchange h fun p => p.retain r⟩

theorem blind_alter (f : α → α) : Blind (alter r f : Render σ Unit) :=
  fun _ _ h => ⟨rfl, unlogged_exchange h fun p => p.update r f⟩

theorem blind_leave : Blind (leave r : Render σ (Option α)) := by
  intro w w' h
  refine ⟨?_, unlogged_exchange h fun p => (p.release r).2⟩
  show Except.ok ((Pooled.pool w).release r).1 = Except.ok ((Pooled.pool w').release r).1
  rw [pool_eq h]

end Rules

section Devices

variable {σ α : Type} [GraphicsDevice σ]

/-- A device writes into the journal, but it does not read it. -/
theorem blind_ask (r : Request) : Blind (ask r : Render σ r.Reply) := by
  intro w w' h
  have hdevice : w.unlogged.device = w'.unlogged.device := congrArg World.device h
  have hdevice : w.device = w'.device := hdevice
  have hasked : (w.asked r).unlogged = (w'.asked r).unlogged := by
    show (w.unlogged.asked r).unlogged = (w'.unlogged.asked r).unlogged
    rw [h]
  rw [run_ask, run_ask, hdevice]
  rcases (GraphicsDevice.perform r w'.device).reply with _ | reply
  · exact ⟨rfl, hasked⟩
  · exact ⟨rfl, hasked⟩

/-- A type whose objects are taken apart blindly. -/
class BlindlyOwned (α : Type) [Owned α] : Prop where
  blind_discard {σ : Type} [GraphicsDevice σ] (a : α) : Blind (Owned.discard a : Render σ Unit)

variable [Owned α] [Unlogged α] [BlindlyOwned α]

theorem blind_release (r : Ref α) : Blind (release r : Render σ Unit) := by
  refine blind_leave.bind fun last => ?_
  rcases last with _ | a
  · exact blind_pure _
  · exact BlindlyOwned.blind_discard a

theorem blind_releaseAll (rs : List (Ref α)) : Blind (releaseAll rs : Render σ Unit) := by
  induction rs with
  | nil => exact blind_pure _
  | cons r rest ih => exact (blind_release r).bind fun _ => ih

theorem blind_releaseOption (r : Option (Ref α)) : Blind (releaseOption r : Render σ Unit) :=
  blind_releaseAll _

end Devices

/-! ## Objects -/

instance : BlindlyOwned Buffer := ⟨fun _ => blind_ask _⟩

instance : BlindlyOwned Texture := ⟨fun _ => blind_ask _⟩

instance : BlindlyOwned Program := ⟨fun _ => blind_ask _⟩

instance : BlindlyOwned Framebuffer where
  blind_discard {σ} _ f := by
    have hreleases : Blind (do
        releaseAll (f.colorAttachments.flatMap Attachment.owned)
        releaseAll (f.depthAttachment.toList.flatMap Attachment.owned)
        releaseAll f.colors
        releaseOption f.depth : Render σ Unit) :=
      (blind_releaseAll _).bind fun _ => (blind_releaseAll _).bind fun _ =>
        (blind_releaseAll _).bind fun _ => blind_releaseOption _
    show Blind (match f.handle with
      | some h => _
      | none => _)
    rcases f.handle with _ | h
    · exact hreleases
    · exact (blind_ask _).bind fun _ => hreleases

instance : BlindlyOwned Pipeline where
  blind_discard _ :=
    (blind_ask _).bind fun _ => (blind_release _).bind fun _ =>
      (blind_releaseOption _).bind fun _ => blind_releaseOption _

section Operations

variable {σ : Type} [GraphicsDevice σ]

theorem Texture.blind_bind (r : Ref Texture) (slot : UInt32) :
    Blind (bind r slot : Render σ Unit) :=
  blind_view.bind fun _ => blind_ask _

theorem Sampler.blind_bind (r : Ref Sampler) (slot : UInt32) :
    Blind (bind r slot : Render σ Unit) :=
  blind_view.bind fun _ => blind_ask _

theorem Framebuffer.blind_bind (r : Ref Framebuffer) : Blind (bind r : Render σ Unit) :=
  blind_view.bind fun _ => (blind_ask _).bind fun _ => blind_ask _

omit [GraphicsDevice σ] in
theorem Program.blind_lockCache {α : Type} {r : Ref Program} {use : UniformCache → Render σ α}
    (huse : ∀ cache, Blind (use cache)) : Blind (lockCache r use) :=
  blind_view.bind fun _ => (huse _).unwinding fun _ _ h =>
    unlogged_exchange h fun p => p.update r poison

theorem Program.blind_askLocation (r : Ref Program) (program : ProgramHandle) (name : String)
    (cache : UniformCache) : Blind (askLocation r program name cache : Render σ Int32) := by
  refine (blind_ask _).bind fun location => ?_
  extract_lets remember
  have hremember : Blind (remember ()) := (blind_alter _).bind fun _ => blind_pure _
  split
  · exact (blind_note _ _ _).bind fun _ => hremember
  · exact hremember

theorem Program.blind_uniformLocation (r : Ref Program) (name : String) :
    Blind (uniformLocation r name : Render σ Int32) := by
  refine blind_view.bind fun p => blind_lockCache fun cache => ?_
  refine (blind_alter _).bind fun _ => ?_
  split
  · exact blind_pure _
  · exact blind_askLocation r _ name _

theorem Program.blind_setUniform (r : Ref Program) (name : String) (value : UniformValue) :
    Blind (setUniform r name value : Render σ Bool) := by
  refine (blind_uniformLocation r name).bind fun location => ?_
  split
  · exact blind_pure _
  · exact (blind_ask _).bind fun _ => blind_pure _

theorem Program.blind_bind (r : Ref Program) : Blind (bind r : Render σ Unit) :=
  blind_view.bind fun _ => blind_ask _

theorem Pipeline.blind_bind (r : Ref Pipeline) : Blind (bind r : Render σ Unit) := by
  refine blind_view.bind fun p => (Program.blind_bind _).bind fun _ => ?_
  refine (blind_ask _).bind fun _ => ?_
  refine (blind_ask (.applyRasterizer p.rasterizer)).bind fun _ => ?_
  exact (blind_ask (.applyDepthStencil p.depthStencil)).bind fun _ => blind_ask _

theorem Pipeline.blind_setVertexBuffer (r : Ref Pipeline) (buffer : Ref Buffer) :
    Blind (setVertexBuffer r buffer : Render σ Unit) := by
  refine blind_view.bind fun b => Blind.reject_if (blind_view.bind fun p => ?_)
  refine (blind_ask _).bind fun _ => blind_hold.bind fun _ => ?_
  exact (blind_alter _).bind fun _ => blind_releaseOption _

theorem Pipeline.blind_setIndexBuffer (r : Ref Pipeline) (buffer : Ref Buffer) :
    Blind (setIndexBuffer r buffer : Render σ Unit) := by
  refine blind_view.bind fun b => Blind.reject_if (blind_view.bind fun p => ?_)
  refine (blind_ask _).bind fun _ => blind_hold.bind fun _ => ?_
  exact (blind_alter _).bind fun _ => blind_releaseOption _

theorem Mesh.blind_attach (m : Mesh) (r : Ref Pipeline) : Blind (m.attach r : Render σ Unit) := by
  refine blind_view.bind fun p => Blind.reject_if ?_
  refine (Pipeline.blind_setVertexBuffer r _).bind fun _ => ?_
  split
  · exact Pipeline.blind_setIndexBuffer r _
  · exact blind_pure _

end Operations

end RenderKit
