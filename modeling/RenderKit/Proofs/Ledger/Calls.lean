import Mathlib.Data.List.Induction
import Mathlib.Data.Multiset.UnionInter
import RenderKit.Device.Request

set_option autoImplicit false

/-! # What a history of calls says

A history tells which objects of the device are live, and which of them hold others: a framebuffer
the textures it was made of, a vertex array the buffers that are attached to it. A history is
lawful if no call names an object that is not live, and no call deletes what something live
holds. -/

namespace RenderKit

/-- An object of a device. -/
structure Native where
  kind : ObjectKind
  raw : UInt32
deriving DecidableEq

def Handle.native {kind : ObjectKind} (h : Handle kind) : Native := ⟨kind, h.raw⟩

theorem Handle.native_inj {kind : ObjectKind} {h k : Handle kind} :
    h.native = k.native ↔ h = k := by
  obtain ⟨raw, _⟩ := h
  obtain ⟨raw', _⟩ := k
  simp [Handle.native]

/-- How an object holds another one. -/
inductive Role where
  /-- A framebuffer draws colors into it, which is at some place among its colors. -/
  | color (place : Nat)
  | depth
  | vertices
  | indices
deriving DecidableEq

structure Bond where
  holder : Native
  role : Role
  on : Native
deriving DecidableEq

/-! ## Requests -/

namespace Request

/-- The objects a request names. -/
def named : Request → List Native
  | .writeBuffer b .. | .readBuffer b .. | .deleteBuffer b => [b.native]
  | .bindBuffer _ b | .bindBufferBase _ _ b => b.toList.map Handle.native
  | .bindTexture _ t => t.toList.map Handle.native
  | .deleteTexture t => [t.native]
  | .bindSampler _ s => s.toList.map Handle.native
  | .deleteSampler s => [s.native]
  | .createFramebuffer colors depth =>
      colors.map Handle.native ++ depth.toList.map fun d => d.1.native
  | .bindFramebuffer f => f.toList.map Handle.native
  | .deleteFramebuffer f => [f.native]
  | .deleteShader s => [s.native]
  | .linkProgram shaders => shaders.map Handle.native
  | .useProgram p => p.toList.map Handle.native
  | .deleteProgram p | .uniformLocation p _ | .attributeLocation p _ => [p.native]
  | .bindVertexArray a => a.toList.map Handle.native
  | .attachVertexBuffer a b _ => [a.native, b.native]
  | .attachIndexBuffer a b => [a.native, b.native]
  | .deleteVertexArray a => [a.native]
  | _ => []

/-- The object a request deletes. -/
def deleted : Request → List Native
  | .deleteBuffer b => [b.native]
  | .deleteTexture t => [t.native]
  | .deleteSampler s => [s.native]
  | .deleteFramebuffer f => [f.native]
  | .deleteShader s => [s.native]
  | .deleteProgram p => [p.native]
  | .deleteVertexArray a => [a.native]
  | _ => []

/-- A request deletes one object at most. -/
theorem deleted_eq (r : Request) : r.deleted = [] ∨ ∃ x, r.deleted = [x] := by
  cases r <;> simp [deleted]

/-- The object in a reply. -/
def issued (r : Request) (reply : r.Reply) : List Native :=
  let ofHandle {kind : ObjectKind} (h : Except Error (Handle kind)) : List Native :=
    match h with
    | .ok h => [h.native]
    | .error _ => []
  match r with
  | .createBuffer .. => ofHandle reply
  | .createTexture .. => ofHandle reply
  | .createSampler .. => ofHandle reply
  | .createFramebuffer .. => ofHandle reply
  | .compileShader .. => ofHandle reply
  | .linkProgram .. => ofHandle reply
  | .createVertexArray => ofHandle reply
  | _ => []

/-- What a new framebuffer holds. -/
def targets (holder : Native) (colors : List TextureHandle)
    (depth : Option (TextureHandle × AttachmentPoint)) : List Bond :=
  colors.zipIdx.map (fun c => ⟨holder, .color c.2, c.1.native⟩) ++
    depth.toList.map fun d => ⟨holder, .depth, d.1.native⟩

/-- Let something be held in a role in place of what was held before. -/
def rebond (bonds : List Bond) (holder : Native) (role : Role) (on : Native) : List Bond :=
  bonds.filter (fun b => ¬(b.holder = holder ∧ b.role = role)) ++ [⟨holder, role, on⟩]

/-- The bonds after a request. -/
def bondsAfter (bonds : List Bond) (r : Request) (reply : r.Reply) : List Bond :=
  match r with
  | .createFramebuffer colors depth =>
      match (reply : Except Error FramebufferHandle) with
      | .ok f => bonds ++ targets f.native colors depth
      | .error _ => bonds
  | .attachVertexBuffer a b _ => rebond bonds a.native .vertices b.native
  | .attachIndexBuffer a b => rebond bonds a.native .indices b.native
  | r => bonds.filter fun b => b.holder ∉ r.deleted

end Request

namespace Call

/-- The object a call brought forth. -/
def issued (c : Call) : List Native :=
  match c.reply with
  | some reply => c.request.issued reply
  | none => []

def deleted (c : Call) : List Native := c.request.deleted

end Call

/-! ## Histories -/

namespace Calls

/-- What the last request of a history says that says anything. -/
def last? {α : Type} (say : Request → Option α) (calls : List Call) : Option α :=
  calls.foldl (fun said c => (say c.request).or said) none

@[simp] theorem last?_concat {α : Type} (say : Request → Option α) (calls : List Call) (c : Call) :
    last? say (calls ++ [c]) = (say c.request).or (last? say calls) := by
  simp [last?]

theorem last?_append {α : Type} {say : Request → Option α} {calls more : List Call}
    (hmore : ∀ d ∈ more, say d.request = none) :
    last? say (calls ++ more) = last? say calls := by
  induction more using List.reverseRecOn with
  | nil => rw [List.append_nil]
  | append_singleton more d ih =>
      rw [← List.append_assoc, last?_concat, hmore d (by simp),
        ih fun e he => hmore e (by simp [he])]
      rfl

theorem last?_eq_some_iff {α : Type} {say : Request → Option α} {calls : List Call} {a : α} :
    last? say calls = some a ↔ ∃ before c after, calls = before ++ c :: after ∧
      say c.request = some a ∧ ∀ d ∈ after, say d.request = none := by
  constructor
  · induction calls using List.reverseRecOn with
    | nil =>
        intro h
        cases h
    | append_singleton calls c ih =>
        intro h
        rw [last?_concat] at h
        rcases hsay : say c.request with _ | b
        · rw [hsay] at h
          obtain ⟨before, d, after, rfl, hd, hafter⟩ := ih h
          refine ⟨before, d, after ++ [c], by simp, hd, fun e he => ?_⟩
          rcases List.mem_append.mp he with he | he
          · exact hafter e he
          · rw [List.mem_singleton.mp he, hsay]
        · rw [hsay] at h
          exact ⟨calls, c, [], rfl, hsay.trans h, by simp⟩
  · rintro ⟨before, c, after, rfl, hc, hafter⟩
    rw [List.append_cons, last?_append hafter, last?_concat, hc]
    rfl

/-- Every object the device ever returned, in the order of the calls. -/
def issued (calls : List Call) : List Native := calls.flatMap Call.issued

/-- Every object that was deleted, in the order of the calls. -/
def deleted (calls : List Call) : List Native := calls.flatMap Call.deleted

/-- The objects that exist after some calls. -/
def live (calls : List Call) : Multiset Native :=
  calls.foldl (fun l c => l + ↑c.issued - ↑c.deleted) 0

/-- What is held after some calls. -/
def bonds (calls : List Call) : List Bond :=
  calls.foldl (fun b c => match c.reply with
    | some reply => c.request.bondsAfter b reply
    | none => b) []

@[simp] theorem issued_concat (calls : List Call) (c : Call) :
    issued (calls ++ [c]) = issued calls ++ c.issued := by
  simp [issued]

@[simp] theorem deleted_concat (calls : List Call) (c : Call) :
    deleted (calls ++ [c]) = deleted calls ++ c.deleted := by
  simp [deleted]

@[simp] theorem live_concat (calls : List Call) (c : Call) :
    live (calls ++ [c]) = live calls + ↑c.issued - ↑c.deleted := by
  simp [live]

@[simp] theorem bonds_concat (calls : List Call) (r : Request) (reply : r.Reply) :
    bonds (calls ++ [⟨r, some reply⟩]) = r.bondsAfter (bonds calls) reply := by
  simp [bonds]

/-- Something holds of each call and the calls before it. -/
def Stepwise (P : List Call → Call → Prop) (calls : List Call) : Prop :=
  ∀ before c after, calls = before ++ c :: after → P before c

namespace Stepwise

variable {P Q : List Call → Call → Prop} {calls : List Call} {c : Call}

theorem nil : Stepwise P [] := by
  intro before c after h
  simp at h

theorem concat_iff : Stepwise P (calls ++ [c]) ↔ Stepwise P calls ∧ P calls c := by
  constructor
  · intro h
    refine ⟨?_, h calls c [] rfl⟩
    intro before d after hd
    exact h before d (after ++ [c]) (by simp [hd])
  · rintro ⟨h, hc⟩ before d after hd
    rcases List.eq_nil_or_concat after with rfl | ⟨after', e, rfl⟩
    · obtain ⟨rfl, hdc⟩ := List.append_inj' hd rfl
      cases hdc
      exact hc
    · have hd' : calls ++ [c] = (before ++ d :: after') ++ [e] := by simpa using hd
      obtain ⟨hcalls, -⟩ := List.append_inj' hd' rfl
      exact h before d after' hcalls

theorem of_append {more : List Call} (h : Stepwise P (calls ++ more)) : Stepwise P calls := by
  intro before c after hc
  exact h before c (after ++ more) (by simp [hc])

end Stepwise

/-- Every object the device returned was no object that existed then. -/
def Fresh : List Call → Prop := Stepwise fun before c => ∀ x ∈ c.issued, x ∉ live before

/-- A call that names only what exists, and deletes only what nothing holds. -/
structure LawfulAfter (before : List Call) (c : Call) : Prop where
  named : ∀ x ∈ c.request.named, x ∈ live before
  free : ∀ x ∈ c.deleted, ∀ b ∈ bonds before, b.on ≠ x

/-- Every call is lawful, as far as the device returned fresh objects. -/
def Lawful : List Call → Prop := Stepwise fun before c => Fresh before → LawfulAfter before c

/-- No call was cut off. -/
def Answered (calls : List Call) : Prop := ∀ c ∈ calls, c.reply.isSome

theorem answered_nil : Answered [] := by
  intro c hc
  cases hc

theorem answered_concat {calls : List Call} {c : Call} :
    Answered (calls ++ [c]) ↔ Answered calls ∧ c.reply.isSome := by
  simp [Answered, or_imp, forall_and]

theorem fresh_nil : Fresh [] := .nil

theorem lawful_nil : Lawful [] := .nil

/-- Only objects that were named can be deleted. -/
theorem named_of_deleted {r : Request} {x : Native} (h : x ∈ r.deleted) : x ∈ r.named := by
  cases r <;> simp_all [Request.deleted, Request.named]

theorem live_le_issued (calls : List Call) : live calls ≤ ↑(issued calls) := by
  induction calls using List.reverseRecOn with
  | nil => exact Multiset.zero_le _
  | append_singleton calls c ih =>
      rw [live_concat, issued_concat, ← Multiset.coe_add]
      exact (Multiset.sub_le_self _ _).trans (Multiset.add_le_add_right ih)

/-- Handles that are never given out twice are fresh. -/
theorem fresh_of_nodup {calls : List Call} (h : (issued calls).Nodup) : Fresh calls := by
  intro before c after hcalls x hx hlive
  have hbefore : x ∈ issued before := Multiset.mem_of_le (live_le_issued before) hlive
  rw [hcalls, issued, List.flatMap_append, List.flatMap_cons] at h
  exact (List.disjoint_of_nodup_append h) hbefore (by simp [hx])

theorem deleted_le_live {calls : List Call} {c : Call} (h : LawfulAfter calls c) :
    (↑c.deleted : Multiset Native) ≤ live calls := by
  have hnamed : ∀ x ∈ c.deleted, x ∈ live calls := fun x hx => h.named x (named_of_deleted hx)
  rcases Request.deleted_eq c.request with hnone | ⟨x, hone⟩
  · rw [Call.deleted, hnone]
    exact Multiset.zero_le _
  · simpa [Call.deleted, hone] using hnamed

/-- Nothing is lost: an object that was returned either exists or was deleted. -/
theorem live_add_deleted {calls : List Call} (hlawful : Lawful calls) (hfresh : Fresh calls) :
    live calls + ↑(deleted calls) = (↑(issued calls) : Multiset Native) := by
  induction calls using List.reverseRecOn with
  | nil => simp [live, deleted, issued]
  | append_singleton calls c ih =>
      obtain ⟨hl, hc⟩ := Stepwise.concat_iff.mp hlawful
      obtain ⟨hf, -⟩ := Stepwise.concat_iff.mp hfresh
      have hdeleted : (↑c.deleted : Multiset Native) ≤ live calls :=
        deleted_le_live (hc hf)
      rw [live_concat, issued_concat, deleted_concat, ← Multiset.coe_add, ← Multiset.coe_add,
        ← ih hl hf]
      ext x
      have hx := Multiset.count_le_of_le x hdeleted
      simp only [Multiset.count_add, Multiset.count_sub]
      omega

theorem issued_eq (c : Call) : c.issued = [] ∨ ∃ x, c.issued = [x] := by
  obtain ⟨r, _ | reply⟩ := c
  · exact .inl rfl
  · cases r with
    | createBuffer | createTexture | createSampler | createFramebuffer | compileShader
    | linkProgram | createVertexArray =>
        rcases reply with e | h
        · exact .inl rfl
        · exact .inr ⟨_, rfl⟩
    | _ => exact .inl rfl

theorem nodup_add_issued {calls : List Call} {c : Call} (hlive : (live calls).Nodup)
    (hc : ∀ x ∈ c.issued, x ∉ live calls) : (live calls + ↑c.issued).Nodup := by
  refine Multiset.nodup_add.mpr ⟨hlive, ?_, ?_⟩
  · rcases issued_eq c with hnone | ⟨x, hone⟩
    · rw [hnone]
      exact Multiset.nodup_zero
    · rw [hone]
      exact Multiset.nodup_singleton x
  · rw [Multiset.disjoint_left]
    intro x hx hnew
    exact hc x (Multiset.mem_coe.mp hnew) hx

/-- No object is there twice. -/
theorem nodup_live {calls : List Call} (h : Fresh calls) : (live calls).Nodup := by
  induction calls using List.reverseRecOn with
  | nil => exact Multiset.nodup_zero
  | append_singleton calls c ih =>
      obtain ⟨hcalls, hc⟩ := Stepwise.concat_iff.mp h
      rw [live_concat]
      exact Multiset.nodup_of_le (Multiset.sub_le_self _ _) (nodup_add_issued (ih hcalls) hc)

/-- What is there after a call was there or is new, and was not deleted. -/
theorem mem_live_concat {calls : List Call} {c : Call} (h : Fresh (calls ++ [c])) {x : Native}
    (hx : x ∈ live (calls ++ [c])) : (x ∈ live calls ∨ x ∈ c.issued) ∧ x ∉ c.deleted := by
  obtain ⟨hcalls, hc⟩ := Stepwise.concat_iff.mp h
  rw [live_concat, Multiset.mem_sub_of_nodup (nodup_add_issued (nodup_live hcalls) hc)] at hx
  simpa using hx

end Calls

end RenderKit
