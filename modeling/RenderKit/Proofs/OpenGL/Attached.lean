import RenderKit.Proofs.OpenGL.History

set_option autoImplicit false

/-! # What is attached

A history says twice what its objects hold: its bonds are what the device was asked for, and the
trace is what commands made of that. They agree about framebuffers. They agree about the elements of
a vertex array as long as nobody binds a buffer of elements while that array is bound, which changes
the array behind the back of its owner. -/

namespace RenderKit

/-! ## Bonds after a request -/

namespace Request

variable {r : Request} {bonds : List Bond} {holder on : Native} {role : Role} {b : Bond}

theorem mem_filter_deleted (hkept : b.holder ∉ r.deleted) :
    b ∈ bonds.filter (fun b => b.holder ∉ r.deleted) ↔ b ∈ bonds := by
  simp [hkept]

theorem mem_rebond_of_ne (hne : ¬(b.holder = holder ∧ b.role = role)) :
    b ∈ rebond bonds holder role on ↔ b ∈ bonds := by
  have hnew : b ≠ ⟨holder, role, on⟩ := by
    rintro rfl
    exact hne ⟨rfl, rfl⟩
  have hkept : decide (¬(b.holder = holder ∧ b.role = role)) = true := decide_eq_true hne
  rw [rebond, List.mem_append, List.mem_singleton, or_iff_left hnew, List.mem_filter,
    and_iff_left hkept]

/-- In a role that was exchanged there is the new bond alone. -/
theorem eq_of_mem_rebond (hb : b ∈ rebond bonds holder role on) (hholder : b.holder = holder)
    (hrole : b.role = role) : b.on = on := by
  rcases List.mem_append.mp hb with hb | hb
  · have hne := (List.mem_filter.mp hb).2
    simp [hholder, hrole] at hne
  · rw [List.mem_singleton.mp hb]

theorem holder_of_mem_targets {colors : List TextureHandle}
    {depth : Option (TextureHandle × AttachmentPoint)} (hb : b ∈ targets holder colors depth) :
    b.holder = holder := by
  rcases List.mem_append.mp hb with hb | hb
  all_goals
    obtain ⟨_, -, rfl⟩ := List.mem_map.mp hb
    rfl

/-- A framebuffer holds one texture at each place of its colors. -/
theorem exists_mem_targets_iff (holder : Native) {colors : List TextureHandle}
    (depth : Option (TextureHandle × AttachmentPoint)) {place : Nat} :
    (∃ b ∈ targets holder colors depth, b.role = .color place) ↔ place < colors.length := by
  constructor
  · rintro ⟨b, hb, hrole⟩
    rcases List.mem_append.mp hb with hb | hb
    · obtain ⟨⟨h, i⟩, hh, rfl⟩ := List.mem_map.mp hb
      obtain rfl : i = place := by simpa using hrole
      simpa using List.snd_lt_of_mem_zipIdx hh
    · obtain ⟨h, -, rfl⟩ := List.mem_map.mp hb
      cases hrole
  · intro hplace
    have hmem : (colors[place], place) ∈ colors.zipIdx :=
      List.mk_mem_zipIdx_iff_getElem?.mpr (List.getElem?_eq_getElem hplace)
    exact ⟨_, List.mem_append_left _ (List.mem_map_of_mem hmem), rfl⟩

/-- A holder after a request was one before, or was named or made, and is still there. -/
theorem holder_of_mem_bondsAfter {reply : r.Reply} (hb : b ∈ r.bondsAfter bonds reply) :
    b.holder ∉ r.deleted ∧ (b ∈ bonds ∨ b.holder ∈ r.named ∨ b.holder ∈ r.issued reply) := by
  cases r with
  | createFramebuffer colors depth =>
      refine ⟨List.not_mem_nil, ?_⟩
      rcases reply with e | f
      · exact .inl hb
      · rcases List.mem_append.mp hb with hb | hb
        · exact .inl hb
        · exact .inr (.inr (List.mem_singleton.mpr (holder_of_mem_targets hb)))
  | attachVertexBuffer array buffer | attachIndexBuffer array buffer =>
      refine ⟨List.not_mem_nil, ?_⟩
      rcases List.mem_append.mp hb with hb | hb
      · exact .inl (List.mem_of_mem_filter hb)
      · rw [List.mem_singleton.mp hb]
        exact .inr (.inl List.mem_cons_self)
  | _ =>
      obtain ⟨hb, hkept⟩ := List.mem_filter.mp hb
      exact ⟨by simpa using hkept, .inl hb⟩

end Request

namespace Calls

variable {calls : List Call}

/-- A history that is in order, and in which no call was cut off. -/
structure Orderly (calls : List Call) : Prop where
  answered : Answered calls
  lawful : Lawful calls
  fresh : Fresh calls

/-- What holds of an orderly history holds of the beginning and is kept by each call. -/
@[elab_as_elim]
theorem Orderly.induction {motive : List Call → Prop} (h : Orderly calls) (nil : motive [])
    (concat : ∀ (calls : List Call) (r : Request) (reply : r.Reply), Orderly calls →
      LawfulAfter calls ⟨r, some reply⟩ → (∀ x ∈ r.issued reply, x ∉ live calls) →
      motive calls → motive (calls ++ [⟨r, some reply⟩])) : motive calls := by
  induction calls using List.reverseRecOn with
  | nil => exact nil
  | append_singleton calls c ih =>
      obtain ⟨hanswered, hreply⟩ := answered_concat.mp h.answered
      obtain ⟨hlawful, hc⟩ := Stepwise.concat_iff.mp h.lawful
      obtain ⟨hfresh, hnew⟩ := Stepwise.concat_iff.mp h.fresh
      obtain ⟨r, _ | reply⟩ := c
      · cases hreply
      · have hcalls : Orderly calls := ⟨hanswered, hlawful, hfresh⟩
        exact concat calls r reply hcalls (hc hfresh) hnew (ih hcalls)

theorem Orderly.mem_live_concat_iff (h : Orderly calls) {r : Request} {reply : r.Reply}
    (hnew : ∀ x ∈ r.issued reply, x ∉ live calls) {x : Native} :
    x ∈ live (calls ++ [⟨r, some reply⟩]) ↔
      (x ∈ live calls ∨ x ∈ r.issued reply) ∧ x ∉ r.deleted := by
  have hnodup := nodup_add_issued (c := ⟨r, some reply⟩) (nodup_live h.fresh) hnew
  rw [live_concat, Multiset.mem_sub_of_nodup hnodup]
  simp [Call.issued, Call.deleted]

/-- Whoever holds something is there. -/
theorem Orderly.holder_mem_live (h : Orderly calls) : ∀ b ∈ bonds calls, b.holder ∈ live calls := by
  refine h.induction (fun b hb => absurd hb List.not_mem_nil) ?_
  intro calls r reply hcalls hlawful hnew ih b hb
  rw [bonds_concat] at hb
  obtain ⟨hkept, hholder⟩ := Request.holder_of_mem_bondsAfter hb
  refine (hcalls.mem_live_concat_iff hnew).mpr ⟨?_, hkept⟩
  rcases hholder with hb | hnamed | hissued
  · exact .inl (ih b hb)
  · exact .inl (hlawful.named _ hnamed)
  · exact .inr hissued

end Calls

/-! ## Elements -/

/-- The elements of a vertex array are those of the buffer that it holds for that. -/
structure ElementsHeld (t : Trace) (bonds : List Bond) (array : GlName) : Prop where
  held : ∀ b ∈ bonds, b.holder = ⟨.vertexArray, array⟩ → b.role = .indices →
    b.on = ⟨.buffer, t.elements array⟩
  free : (∀ b ∈ bonds, b.holder = ⟨.vertexArray, array⟩ → b.role ≠ .indices) →
    t.elements array = 0

/-- Whether a call leaves the elements of a vertex array to those who attach buffers to it. -/
def Calls.SparesElements (array : GlName) (before : List Call) (c : Call) : Prop :=
  ∀ buffer, c.request = .bindBuffer .index buffer → (trace before).bindings.vertexArray ≠ array

/-- Whether a request binds a buffer of elements, or none, by itself. -/
def Request.bindsElements : Request → Bool
  | .bindBuffer .index _ => true
  | _ => false

theorem Calls.sparesElements_of_all {calls : List Call} (array : GlName)
    (h : calls.all fun c => !c.request.bindsElements) : Stepwise (SparesElements array) calls := by
  intro before c after hcalls buffer hbind
  have hc := List.all_eq_true.mp h c (by simp [hcalls])
  simp [hbind, Request.bindsElements] at hc

namespace ElementsHeld

variable {t t' : Trace} {bonds bonds' : List Bond} {array : GlName} {r : Request}

theorem congr (h : ElementsHeld t bonds array)
    (hbonds : ∀ b : Bond, b.holder = ⟨.vertexArray, array⟩ → b.role = .indices →
      (b ∈ bonds' ↔ b ∈ bonds))
    (helements : t'.elements array = t.elements array) : ElementsHeld t' bonds' array := by
  refine ⟨fun b hb hholder hrole => ?_, fun hnone => ?_⟩
  · rw [helements]
    exact h.held b ((hbonds b hholder hrole).mp hb) hholder hrole
  · rw [helements]
    exact h.free fun b hb hholder hrole =>
      hnone b ((hbonds b hholder hrole).mpr hb) hholder hrole

/-- A buffer that goes is one that no vertex array holds. -/
theorem without_buffer (h : ElementsHeld t bonds array) {x : Native}
    (hfree : ∀ b ∈ bonds, b.on ≠ x) (hkind : x.kind = .buffer) :
    t.elementsWithout [x] array = t.elements array := by
  have harray : (⟨.vertexArray, array⟩ : Native) ∉ [x] := by
    intro hmem
    rw [← List.mem_singleton.mp hmem] at hkind
    cases hkind
  rw [Trace.elementsWithout, if_neg harray]
  split
  · by_cases hsame : (⟨.buffer, t.elements array⟩ : Native) = x
    · -- nobody holds this buffer, so the array has none
      have hnone : t.elements array = 0 := h.free fun b hb hholder hrole =>
        hfree b hb ((h.held b hb hholder hrole).trans hsame)
      rw [hnone, Bindings.clearName_zero]
    · exact if_neg (fun hmem => hsame (List.mem_singleton.mp hmem))
  · rfl

/-- Something goes that is neither a buffer nor the array. -/
theorem after_deleted (h : ElementsHeld t bonds array) {x : Native} {made : List Native}
    (hdeleted : r.deleted = [x]) (hbuffer : x.kind ≠ .buffer) (hne : x ≠ ⟨.vertexArray, array⟩) :
    ElementsHeld (t.after r made) (bonds.filter fun b => b.holder ∉ r.deleted) array := by
  refine h.congr (fun b hholder _ => Request.mem_filter_deleted ?_) ?_
  · rw [hdeleted, List.mem_singleton, hholder]
    exact Ne.symm hne
  · rw [Request.after_of_deleted hdeleted]
    show t.elementsWithout [x] array = _
    have hmem : (⟨.vertexArray, array⟩ : Native) ∉ [x] := fun hmem =>
      hne (List.mem_singleton.mp hmem).symm
    have hname : (⟨.buffer, t.elements array⟩ : Native) ∉ [x] := fun hmem =>
      hbuffer (List.mem_singleton.mp hmem ▸ rfl)
    rw [Trace.elementsWithout, if_neg hmem, Bindings.clearName, if_neg hname, ite_self]

/-- A buffer is attached to this array or to another one. -/
theorem after_attachIndexBuffer (h : ElementsHeld t bonds array) (a : VertexArrayHandle)
    (buffer : BufferHandle) {made : List Native} :
    ElementsHeld (t.after (.attachIndexBuffer a buffer) made)
      (Request.rebond bonds a.native .indices buffer.native) array := by
  by_cases ha : a.raw = array
  · subst ha
    have helements : (t.after (.attachIndexBuffer a buffer) made).elements a.raw = buffer.raw :=
      Function.update_self _ _ _
    refine ⟨fun b hb hholder hrole => ?_, fun hnone => ?_⟩
    · rw [helements]
      exact Request.eq_of_mem_rebond hb hholder hrole
    · exact absurd rfl (hnone ⟨a.native, .indices, buffer.native⟩
        (List.mem_append_right _ (List.mem_singleton_self _)) rfl)
  · refine h.congr (fun b hholder _ => Request.mem_rebond_of_ne fun hsame => ?_) ?_
    · exact ha (congrArg Native.raw (hsame.1.symm.trans hholder))
    · exact Function.update_of_ne (Ne.symm ha) _ _

theorem after (h : ElementsHeld t bonds array) {reply : r.Reply} {made : List Native}
    (hfree : ∀ x ∈ r.deleted, ∀ b ∈ bonds, b.on ≠ x)
    (hspares : ∀ buffer, r = .bindBuffer .index buffer → t.bindings.vertexArray ≠ array) :
    ElementsHeld (t.after r made) (r.bondsAfter bonds reply) array := by
  have hkind : ∀ {kind : ObjectKind} {h : Handle kind}, kind ≠ .vertexArray →
      h.native ≠ ⟨.vertexArray, array⟩ := fun hne heq => hne (congrArg Native.kind heq)
  cases r with
  | attachIndexBuffer a buffer => exact h.after_attachIndexBuffer a buffer
  | attachVertexBuffer a buffer layout =>
      refine h.congr (fun b _ hrole => Request.mem_rebond_of_ne fun hsame => ?_) ?_
      · rw [hrole] at hsame
        cases hsame.2
      · simp [Trace.after, Request.deleted]
  | createFramebuffer colors depth =>
      refine h.congr (fun b hholder _ => ?_) (by simp [Trace.after, Request.deleted])
      rcases reply with e | f
      · exact Iff.rfl
      · refine List.mem_append.trans (or_iff_left fun hb => ?_)
        have hframebuffer := (Request.holder_of_mem_targets hb).symm.trans hholder
        cases congrArg Native.kind hframebuffer
  | deleteBuffer buffer =>
      refine h.congr (fun b hholder _ => Request.mem_filter_deleted ?_) ?_
      · rw [Request.deleted, List.mem_singleton, hholder]
        exact (hkind (h := buffer) (by decide)).symm
      · exact h.without_buffer (hfree _ (List.mem_singleton_self _)) rfl
  | deleteVertexArray a =>
      by_cases ha : a.raw = array
      · subst ha
        refine ⟨fun b hb hholder _ => ?_, fun _ => if_pos (List.mem_singleton_self _)⟩
        obtain ⟨-, hkept⟩ := List.mem_filter.mp hb
        simp [hholder, Request.deleted, Handle.native] at hkept
      · exact h.after_deleted rfl (by simp [Handle.native]) fun heq => ha (congrArg Native.raw heq)
  | deleteTexture | deleteSampler | deleteFramebuffer | deleteShader | deleteProgram =>
      exact h.after_deleted rfl (by simp [Handle.native]) (hkind (by decide))
  | bindBuffer kind buffer =>
      refine h.congr (fun b _ _ => Request.mem_filter_deleted List.not_mem_nil) ?_
      cases kind with
      | index => exact Function.update_of_ne (hspares buffer rfl).symm _ _
      | vertex | uniform | storage => simp [Trace.after, Request.deleted]
  | _ =>
      refine h.congr (fun b _ _ => Request.mem_filter_deleted List.not_mem_nil) ?_
      simp [Trace.after, Request.deleted]

end ElementsHeld

/-- The bonds tell the elements of a vertex array, unless they are changed behind its back. -/
theorem Calls.Orderly.elementsHeld {calls : List Call} {array : GlName} (h : Orderly calls) :
    Stepwise (SparesElements array) calls → ElementsHeld (trace calls) (bonds calls) array := by
  refine h.induction (fun _ => ⟨fun b hb => absurd hb List.not_mem_nil, fun _ => rfl⟩) ?_
  intro calls r reply _ hlawful _ ih hspares
  obtain ⟨hcalls, hspare⟩ := Stepwise.concat_iff.mp hspares
  rw [trace_concat, bonds_concat]
  exact (ih hcalls).after hlawful.free hspare

/-! ## Framebuffers -/

/-- A framebuffer draws into the slots of as many colors as it holds. -/
def DrawsHeld (t : Trace) (bonds : List Bond) (f : FramebufferHandle) : Prop :=
  ∃ n, t.drawBuffers f.raw = GlDevice.drawSlots n ∧
    ∀ place, (∃ b ∈ bonds, b.holder = f.native ∧ b.role = .color place) ↔ place < n

namespace DrawsHeld

variable {t t' : Trace} {bonds bonds' : List Bond} {f : FramebufferHandle} {r : Request}

theorem congr (h : DrawsHeld t bonds f)
    (hbonds : ∀ (b : Bond) (place : Nat), b.holder = f.native → b.role = .color place →
      (b ∈ bonds' ↔ b ∈ bonds))
    (hdraw : t'.drawBuffers f.raw = t.drawBuffers f.raw) : DrawsHeld t' bonds' f := by
  obtain ⟨n, hn, hplace⟩ := h
  refine ⟨n, hdraw.trans hn, fun place => ?_⟩
  rw [← hplace place]
  refine exists_congr fun b => and_congr_left fun hb => ?_
  exact hbonds b place hb.1 hb.2

/-- A request that neither makes nor deletes the framebuffer. -/
theorem after (h : DrawsHeld t bonds f) {reply : r.Reply}
    (hmade : f.native ∉ r.issued reply) (hkept : f.native ∉ r.deleted) :
    DrawsHeld (t.after r (r.issued reply)) (r.bondsAfter bonds reply) f := by
  have hwithout : t.drawBuffersWithout r.deleted f.raw = t.drawBuffers f.raw := if_neg hkept
  cases r with
  | createFramebuffer colors depth =>
      refine h.congr (fun b place hholder _ => ?_) (if_neg hmade)
      rcases reply with e | made
      · exact Iff.rfl
      · refine List.mem_append.trans (or_iff_left fun hb => hmade ?_)
        rw [← hholder, Request.holder_of_mem_targets hb]
        exact List.mem_singleton_self _
  | attachVertexBuffer array buffer | attachIndexBuffer array buffer =>
      refine h.congr (fun b place _ hrole => Request.mem_rebond_of_ne fun hsame => ?_) hwithout
      rw [hrole] at hsame
      cases hsame.2
  | _ =>
      refine h.congr (fun b place hholder _ => Request.mem_filter_deleted ?_) hwithout
      exact hholder ▸ hkept

/-- The framebuffer is made. Nothing was held by it before. -/
theorem made (hnew : ∀ b ∈ bonds, b.holder ≠ f.native) {reply : r.Reply}
    (hmade : f.native ∈ r.issued reply) :
    DrawsHeld (t.after r (r.issued reply)) (r.bondsAfter bonds reply) f := by
  cases r with
  | createFramebuffer colors depth =>
      rcases reply with e | made
      · exact absurd hmade List.not_mem_nil
      · have hsame : made.native = f.native := (List.mem_singleton.mp hmade).symm
        refine ⟨colors.length, if_pos hmade, fun place => ?_⟩
        rw [← Request.exists_mem_targets_iff made.native depth]
        constructor
        · rintro ⟨b, hb, hholder, hrole⟩
          exact ⟨b, (List.mem_append.mp hb).resolve_left fun hb => hnew b hb hholder, hrole⟩
        · rintro ⟨b, hb, hrole⟩
          exact ⟨b, List.mem_append_right _ hb, (Request.holder_of_mem_targets hb).trans hsame,
            hrole⟩
  | createBuffer | createTexture | createSampler | compileShader | linkProgram
  | createVertexArray =>
      rcases reply with e | made
      · exact absurd hmade List.not_mem_nil
      · cases congrArg Native.kind (List.mem_singleton.mp hmade)
  | _ => exact absurd hmade List.not_mem_nil

end DrawsHeld

/-- The bonds tell where a framebuffer draws into. -/
theorem Calls.Orderly.drawsHeld {calls : List Call} {f : FramebufferHandle} (h : Orderly calls) :
    f.native ∈ live calls → DrawsHeld (trace calls) (bonds calls) f := by
  refine h.induction (fun hlive => absurd hlive (Multiset.notMem_zero _)) ?_
  intro calls r reply hcalls _ hnew ih hlive
  obtain ⟨hbefore, hkept⟩ := (hcalls.mem_live_concat_iff hnew).mp hlive
  rw [trace_concat, bonds_concat]
  by_cases hmade : f.native ∈ r.issued reply
  · -- whoever holds something was there before, and what is made was not
    refine DrawsHeld.made (fun b hb hholder => hnew f.native hmade ?_) hmade
    exact hholder ▸ hcalls.holder_mem_live b hb
  · exact (ih (hbefore.resolve_right hmade)).after hmade hkept

/-! ## In a world -/

/-- Whether a name is the one of the index buffer of a pipeline, or zero if that has none. -/
def World.HasElements {σ : Type} (w : World σ) (p : Pipeline) (name : GlName) : Prop :=
  match p.indexBuffer with
  | none => name = 0
  | some r => (w.buffers.get? r).map (fun b => b.handle.raw) = some name

section Worlds

variable {σ : Type} [GraphicsDevice σ] {g : Guard σ} {ext : Multiset Node} {w : World σ}

theorem Owns.orderly (hb : Owns g ext w) (hfresh : w.Fresh) : Calls.Orderly w.history :=
  ⟨hb.answered, hb.lawful, hfresh⟩

/-- The elements of the vertex array of a pipeline are in its index buffer. -/
theorem Owns.hasElements (hb : Owns g ext w) (hfresh : w.Fresh) {r : Ref Pipeline} {p : Pipeline}
    (hp : w.pipelines.get? r = some p)
    (hspares : Calls.Stepwise (Calls.SparesElements p.array.raw) w.history) :
    w.HasElements p ((Calls.trace w.history).elements p.array.raw) := by
  have hsound := hb.sound hfresh
  have helements := (hb.orderly hfresh).elementsHeld hspares
  obtain ⟨s, hslot, rfl⟩ := Pool.slot?_of_get? hp
  have hcell : s.cell r ∈ w.cells := mem_cells_of_slot? hslot
  have harray : s.value.array.native ∈ (s.cell r).body.natives := Multiset.mem_singleton_self _
  have hgrips : ∀ grip ∈ (s.cell r).body.grips, grip.role = .indices →
      ∃ i, s.value.indexBuffer = some i ∧ grip.node = .buffer i := by
    intro grip hgrip hrole
    rcases Multiset.mem_add.mp hgrip with hgrip | hgrip
    · obtain ⟨_, -, rfl⟩ := List.mem_map.mp hgrip
      cases hrole
    · obtain ⟨i, hi, rfl⟩ := List.mem_map.mp hgrip
      exact ⟨i, Option.mem_toList.mp hi, rfl⟩
  unfold World.HasElements
  rcases hindex : s.value.indexBuffer with _ | i
  · -- a bond would be on a buffer that the pipeline refers to
    refine helements.free fun b hb hholder hrole => ?_
    obtain ⟨d, -, -, hgrip⟩ := hsound.held hcell hb (hholder ▸ harray)
    obtain ⟨i, hi, -⟩ := hgrips _ hgrip hrole
    rw [hindex] at hi
    cases hi
  · -- there is a bond for the reference, and what it is on is the buffer itself
    have hgrip : (⟨.indices, .buffer i⟩ : Grip) ∈ (s.cell r).body.grips := by
      simp [Traced.body, bufferGrips, hindex]
    obtain ⟨b, hb, hholder, hrole⟩ := hsound.bonded _ hcell _ harray _ hgrip
    obtain ⟨d, hd, hon, hheld⟩ := hsound.held hcell hb (hholder ▸ harray)
    obtain ⟨j, hj, hnode⟩ := hgrips _ hheld hrole
    obtain rfl : i = j := Option.some.inj (hindex.symm.trans hj)
    obtain ⟨t, ht, rfl⟩ := exists_slot_of_mem (α := Buffer) hd hnode
    have hsame : b.on = t.value.handle.native := Multiset.mem_singleton.mp hon
    have hname : t.value.handle.raw = (Calls.trace w.history).elements s.value.array.raw :=
      congrArg Native.raw (hsame.symm.trans (helements.held b hb hholder hrole))
    have ht : w.buffers.slot? i = some t := ht
    simpa [Pool.get?, ht] using hname

/-- A framebuffer draws into the slots of its colors. -/
theorem Owns.drawBuffers_eq (hb : Owns g ext w) (hfresh : w.Fresh) {r : Ref Framebuffer}
    {f : Framebuffer} {h : FramebufferHandle} (hf : w.framebuffers.get? r = some f)
    (hhandle : f.handle = some h) :
    (Calls.trace w.history).drawBuffers h.raw = GlDevice.drawSlots f.colors.length := by
  have hsound := hb.sound hfresh
  obtain ⟨s, hslot, rfl⟩ := Pool.slot?_of_get? hf
  have hcell : s.cell r ∈ w.cells := mem_cells_of_slot? hslot
  have hnative : h.native ∈ (s.cell r).body.natives := by simp [Traced.body, hhandle]
  obtain ⟨n, hn, hplace⟩ := (hb.orderly hfresh).drawsHeld (hb.mem_live hcell hnative hfresh)
  have hiff : ∀ place, place < n ↔ place < s.value.colors.length := fun place =>
    (hplace place).symm.trans ((hsound.exists_bond_iff hcell hnative).trans exists_color_grip_iff)
  have hlength : n = s.value.colors.length :=
    le_antisymm (not_lt.mp fun hlt => absurd ((hiff _).mp hlt) (lt_irrefl _))
      (not_lt.mp fun hlt => absurd ((hiff _).mpr hlt) (lt_irrefl _))
  rw [hn, hlength]

end Worlds

end RenderKit
