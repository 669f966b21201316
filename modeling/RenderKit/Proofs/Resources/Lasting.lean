import RenderKit.Command.Buffer
import RenderKit.Context
import RenderKit.Proofs.Ledger.Books
import RenderKit.Proofs.Quiet
import RenderKit.Proofs.Targets.Slots
import RenderKit.Scene.Material

set_option autoImplicit false

/-! # References to resources

Nothing changes a buffer, a texture or a sampler once it exists, and no place of a pool is used
twice. So whatever is done with a world, a reference to one of them leads to what it always led to,
or nowhere any more. Every operation is gone through once for this, and for whether it can fail. -/

namespace RenderKit

/-! ## Pools and worlds -/

namespace Pool

variable {α : Type} {p p' p'' : Pool α}

/-- A pool at a later time: it has the old places, and what is still found there is what was
    there. -/
structure Later (p p' : Pool α) : Prop where
  length_le : p.slots.length ≤ p'.slots.length
  found : ∀ (r : Ref α) (a : α), r.place < p.slots.length → p'.get? r = some a → p.get? r = some a

theorem Later.refl (p : Pool α) : p.Later p := ⟨Nat.le_refl _, fun _ _ _ h => h⟩

theorem Later.trans (h : p.Later p') (h' : p'.Later p'') : p.Later p'' :=
  ⟨Nat.le_trans h.length_le h'.length_le, fun r a hr ha =>
    h.found r a hr (h'.found r a (Nat.lt_of_lt_of_le hr h.length_le) ha)⟩

theorem place_lt_of_isSome {r : Ref α} (h : (p.get? r).isSome) : r.place < p.slots.length := by
  refine Nat.lt_of_not_le fun hle => ?_
  rw [get?, slot?, List.getElem?_eq_none hle] at h
  cases h

/-- What is there at both times is the same. -/
theorem Later.get?_eq (h : p.Later p') {r : Ref α} (hr : (p.get? r).isSome)
    (hr' : (p'.get? r).isSome) : p'.get? r = p.get? r := by
  obtain ⟨a, ha⟩ := Option.isSome_iff_exists.mp hr'
  rw [ha, h.found r a (place_lt_of_isSome hr) ha]

theorem later_add (p : Pool α) (a : α) : p.Later (p.add a).2 := by
  refine ⟨by simp [add], fun r b hr hb => ?_⟩
  simpa [get?, slot?, add, List.getElem?_append_left hr] using hb

theorem later_retain (p : Pool α) (r : Ref α) : p.Later (p.retain r) :=
  ⟨by simp [retain], fun r' _ _ h => (get?_retain p r r').symm.trans h⟩

theorem later_release (p : Pool α) (r : Ref α) : p.Later (p.release r).2 := by
  refine ⟨?_, fun _ _ _ => get?_of_release⟩
  -- a place that becomes empty is a place still
  unfold release
  split
  · exact Nat.le_refl _
  · split <;> simp

end Pool

namespace World

variable {σ : Type} {w w' w'' : World σ}

/-- A world at a later time, as far as resources go that nothing changes. -/
structure Later (w w' : World σ) : Prop where
  buffers : w.buffers.Later w'.buffers
  textures : w.textures.Later w'.textures
  samplers : w.samplers.Later w'.samplers

theorem Later.of_same (hbuffers : w'.buffers = w.buffers) (htextures : w'.textures = w.textures)
    (hsamplers : w'.samplers = w.samplers) : w.Later w' :=
  ⟨hbuffers ▸ .refl _, htextures ▸ .refl _, hsamplers ▸ .refl _⟩

theorem Later.refl (w : World σ) : w.Later w := .of_same rfl rfl rfl

theorem Later.trans (h : w.Later w') (h' : w'.Later w'') : w.Later w'' :=
  ⟨h.buffers.trans h'.buffers, h.textures.trans h'.textures, h.samplers.trans h'.samplers⟩

end World

/-- A type whose pool gets later together with the world. -/
class Aging (α : Type) [Pooled α] : Prop where
  later_setPool {σ : Type} (w : World σ) {p : Pool α} (h : (Pooled.pool w).Later p) :
    w.Later (Pooled.setPool w p)

instance : Aging Buffer := ⟨fun _ _ h => ⟨h, .refl _, .refl _⟩⟩

instance : Aging Texture := ⟨fun _ _ h => ⟨.refl _, h, .refl _⟩⟩

instance : Aging Sampler := ⟨fun _ _ h => ⟨.refl _, .refl _, h⟩⟩

/-- A type whose objects may be changed. -/
class Changing (α : Type) [Pooled α] : Prop where
  later_setPool {σ : Type} (w : World σ) (p : Pool α) : w.Later (Pooled.setPool w p)

instance : Changing Framebuffer := ⟨fun _ _ => .of_same rfl rfl rfl⟩

instance : Changing Program := ⟨fun _ _ => .of_same rfl rfl rfl⟩

instance : Changing Pipeline := ⟨fun _ _ => .of_same rfl rfl rfl⟩

instance {α : Type} [Pooled α] [Changing α] : Aging α := ⟨fun w p _ => Changing.later_setPool w p⟩

/-! ## Tasks -/

/-- Whatever a task does, the world is a later one, and the task fails only if that is allowed. -/
def Lasting {σ α : Type} (fallible : Prop) (t : Render σ α) : Prop :=
  ∀ w, Runs t w (fun _ => w.Later) fun w' => fallible ∧ w.Later w'

section Rules

variable {σ α β c : Type} [Cause c] {fallible : Prop}

theorem lasting_pure (a : α) : Lasting fallible (pure a : Render σ α) :=
  fun w => Runs.pure (.refl w)

theorem lasting_abort : Lasting fallible (abort : Render σ α) := fun _ => runs_abort

theorem Lasting.bind {t : Render σ α} {f : α → Render σ β} (ht : Lasting fallible t)
    (hf : ∀ a, Lasting fallible (f a)) : Lasting fallible (t >>= f) := by
  intro w
  refine Runs.bind (ht w) fun a w₁ h₁ => ?_
  exact (hf a w₁).mono (fun _ _ h => h₁.trans h) fun _ h => ⟨h.1, h₁.trans h.2⟩

theorem Lasting.get {f : World σ → Render σ β} (hf : ∀ w, Lasting fallible (f w)) :
    Lasting fallible (get >>= f) := fun w => Runs.bind_get (hf w w)

theorem Lasting.modify {f : World σ → World σ} (hf : ∀ w : World σ, w.Later (f w)) :
    Lasting fallible (modify f : Render σ PUnit) := fun w => Runs.modify (hf w)

theorem lasting_note (severity : Severity) (source message : String) :
    Lasting fallible (note severity source message : Render σ Unit) :=
  Lasting.modify fun _ => .of_same rfl rfl rfl

/-- Whether a task fails does not matter to whoever looks at its outcome. -/
theorem Lasting.attempt {t : Render σ α} (ht : Lasting True t) :
    Lasting fallible (attempt t) := by
  refine fun w => (runs_attempt (ht w)).imp ?_
  -- a failed task has left a later world too
  rintro (e | a) w' h
  · exact h.2
  · exact h

theorem Lasting.unwinding {t : Render σ α} {change : World σ → World σ}
    (ht : Lasting fallible t) : Lasting fallible (unwinding t change) := fun w => (ht w).unwinding

theorem lasting_raise (e : Error) : Lasting True (raise e : Render σ α) :=
  fun w => runs_raise ⟨trivial, .refl w⟩

theorem Quiet.lasting {t : Render σ α} (ht : Quiet t) : Lasting True t :=
  fun w => (ht w.Later (fun _ _ h => ⟨h.buffers, h.textures, h.samplers⟩) w (.refl w)).mono
    (fun _ _ h => h) fun _ h => ⟨trivial, h⟩

theorem lasting_reject (cause : c) : Lasting True (reject cause : Render σ α) :=
  (quiet_reject cause).lasting

theorem lasting_accept (r : Except c α) : Lasting True (accept r : Render σ α) :=
  (quiet_accept r).lasting

theorem lasting_settle (r : Except Error α) : Lasting True (settle r : Render σ α) := by
  rcases r with e | a
  · exact lasting_raise e
  · exact lasting_pure a

theorem Lasting.reject_if {wrong : Prop} [Decidable wrong] {cause : c} {f : α → Render σ β}
    {t : Render σ β} (ht : Lasting True t) :
    Lasting True (if wrong then reject cause >>= f else t) := by
  split
  · exact fun w => Runs.bind_reject ⟨trivial, .of_same rfl rfl rfl⟩
  · exact ht

end Rules

section Objects

variable {σ α : Type} [Pooled α] {fallible : Prop}

theorem lasting_view (r : Ref α) : Lasting fallible (view r : Render σ α) :=
  fun w => runs_view.imp fun _ _ h => h.1 ▸ .refl w

/-- A change of something that may be changed. -/
theorem lasting_alter [Changing α] (r : Ref α) (f : α → α) :
    Lasting fallible (alter r f : Render σ Unit) :=
  Lasting.modify fun w => Changing.later_setPool w _

variable [Aging α]

theorem lasting_share (a : α) : Lasting fallible (share a : Render σ (Ref α)) :=
  fun w => Runs.bind_get (Runs.bind_set (Runs.pure
    (Aging.later_setPool w (Pool.later_add _ a))))

theorem lasting_hold (r : Ref α) : Lasting fallible (hold r : Render σ Unit) :=
  Lasting.modify fun w => Aging.later_setPool w (Pool.later_retain _ r)

theorem lasting_holdAll (rs : List (Ref α)) : Lasting fallible (holdAll rs : Render σ Unit) := by
  induction rs with
  | nil => exact lasting_pure _
  | cons r rest ih => exact (lasting_hold r).bind fun _ => ih

theorem lasting_leave (r : Ref α) : Lasting fallible (leave r : Render σ (Option α)) :=
  fun w => Runs.bind_get (Runs.bind_set (Runs.pure
    (Aging.later_setPool w (Pool.later_release _ r))))

end Objects

section Devices

variable {σ α : Type} [GraphicsDevice σ] {fallible : Prop}

theorem lasting_ask (r : Request) : Lasting fallible (ask r : Render σ r.Reply) := by
  refine fun w => runs_ask.imp ?_
  rintro reply _ ⟨rfl, -⟩
  exact .of_same rfl rfl rfl

/-- A type whose objects are taken apart without failing. -/
class AgingOwned (α : Type) [Owned α] : Prop extends Aging α where
  lasting_discard {σ : Type} [GraphicsDevice σ] {fallible : Prop} (a : α) :
    Lasting fallible (Owned.discard a : Render σ Unit)

variable [Owned α] [AgingOwned α]

theorem lasting_release (r : Ref α) : Lasting fallible (release r : Render σ Unit) := by
  refine (lasting_leave r).bind fun last => ?_
  rcases last with _ | a
  · exact lasting_pure _
  · exact AgingOwned.lasting_discard a

theorem lasting_releaseAll (rs : List (Ref α)) :
    Lasting fallible (releaseAll rs : Render σ Unit) := by
  induction rs with
  | nil => exact lasting_pure _
  | cons r rest ih => exact (lasting_release r).bind fun _ => ih

theorem lasting_releaseOption (r : Option (Ref α)) :
    Lasting fallible (releaseOption r : Render σ Unit) := lasting_releaseAll _

end Devices

instance : AgingOwned Buffer := ⟨fun _ => lasting_ask _⟩

instance : AgingOwned Texture := ⟨fun _ => lasting_ask _⟩

instance : AgingOwned Sampler := ⟨fun _ => lasting_ask _⟩

instance : AgingOwned Program := ⟨fun _ => lasting_ask _⟩

instance : AgingOwned Framebuffer where
  lasting_discard {σ} _ fallible f := by
    have hreleases : Lasting fallible (do
        releaseAll (f.colorAttachments.flatMap Attachment.owned)
        releaseAll (f.depthAttachment.toList.flatMap Attachment.owned)
        releaseAll f.colors
        releaseOption f.depth : Render σ Unit) :=
      (lasting_releaseAll _).bind fun _ => (lasting_releaseAll _).bind fun _ =>
        (lasting_releaseAll _).bind fun _ => lasting_releaseOption _
    show Lasting fallible (match f.handle with
      | some h => _
      | none => _)
    rcases f.handle with _ | h
    · exact hreleases
    · exact (lasting_ask _).bind fun _ => hreleases

instance : AgingOwned Pipeline where
  lasting_discard _ :=
    (lasting_ask _).bind fun _ => (lasting_release _).bind fun _ =>
      (lasting_releaseOption _).bind fun _ => lasting_releaseOption _

end RenderKit
