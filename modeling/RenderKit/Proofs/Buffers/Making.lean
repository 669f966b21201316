import RenderKit.Proofs.Ledger.Books
import RenderKit.Resource.Buffer

set_option autoImplicit false

/-! # Buffers that were created

A buffer that was created has the size it was asked for, or else that of its data, and its data fits
into it. The device was asked for exactly this buffer and replied with its handle. -/

namespace RenderKit

namespace Buffer

variable {σ : Type} [GraphicsDevice σ]

/-- The size of a new buffer: the one that is given, or else that of the data. -/
def sizeOf (size? : Option UInt64) (data? : Option (List UInt8)) : UInt64 :=
  (size?.or (data?.map fun d => d.length.toUInt64)).getD 0

/-- What a request for a new buffer leaves behind: the buffer, and the reply of the device. -/
structure Made (w : World σ) (b : Buffer) (data? : Option (List UInt8)) (r : Ref Buffer)
    (w' : World σ) : Prop where
  size_ne_zero : b.size ≠ 0
  fits : (data?.getD []).length ≤ b.size.toNat
  reply : (GraphicsDevice.perform (.createBuffer b.kind b.usage b.size data?) w.device).reply =
    some (.ok b.handle)
  device : w'.device =
    (GraphicsDevice.perform (.createBuffer b.kind b.usage b.size data?) w.device).state
  object : (Pooled.pool w').get? r = some b

theorem made_create {w : World σ} {kind : BufferKind} {usage : BufferUsage}
    {size? : Option UInt64} {data? : Option (List UInt8)} :
    Runs (create kind usage size? data?) w
      (fun r w' => ∃ handle, Made w ⟨handle, kind, usage, sizeOf size? data?⟩ data? r w')
      (fun _ => True) := by
  unfold create
  extract_lets size make check
  have hmake (hsize : size ≠ 0) (fits : (data?.getD []).length ≤ size.toNat) :
      Runs (make ()) w
        (fun r w' => ∃ handle, Made w ⟨handle, kind, usage, size⟩ data? r w') (fun _ => True) := by
    refine Runs.bind runs_ask ?_
    rintro reply _ ⟨rfl, hreply⟩
    refine Runs.bind_settle ?_ fun _ _ => trivial
    rintro handle rfl
    refine Runs.bind_note (Runs.bind_get (Runs.bind_set (Runs.pure ⟨handle, ?_⟩)))
    exact ⟨hsize, fits, hreply, rfl, Pool.get?_add _ _⟩
  refine Runs.reject_if trivial fun hsize => ?_
  unfold check
  cases data? with
  | none => exact hmake hsize (Nat.zero_le _)
  | some data => exact Runs.reject_if trivial fun past => hmake hsize (Nat.le_of_not_lt past)

/-- The buffer is one that a device of this type was asked for and replied. -/
def Created (σ : Type) [GraphicsDevice σ] (b : Buffer) : Prop :=
  ∃ (w w' : World σ) (kind : BufferKind) (usage : BufferUsage) (size? : Option UInt64)
    (data? : Option (List UInt8)) (r : Ref Buffer),
    (create kind usage size? data?).run.run w = (.ok r, w') ∧ (Pooled.pool w').get? r = some b

theorem Created.made {b : Buffer} (h : b.Created σ) :
    ∃ (w w' : World σ) (data? : Option (List UInt8)) (r : Ref Buffer), Made w b data? r w' := by
  obtain ⟨w, w', kind, usage, size?, data?, r, hrun, hb⟩ := h
  obtain ⟨handle, made⟩ := made_create.of_ok hrun
  obtain rfl : _ = b := Option.some.inj (made.object.symm.trans hb)
  exact ⟨w, w', data?, r, made⟩

end Buffer

end RenderKit
