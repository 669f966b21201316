import RenderKit.Proofs.Ledger.Books
import RenderKit.Proofs.OpenGL.Requests

set_option autoImplicit false

/-! # Contexts and histories

What a history says about a context: what is bound after it, the masks, the elements of vertex
arrays, what framebuffers draw into, and what there was at each draw and each clear. A device on a
conforming driver agrees with its history as long as no call was cut off and all calls were
lawful. -/

namespace RenderKit

namespace Calls

/-- What a history says about the context. -/
def trace (calls : List Call) : Trace :=
  calls.foldl (fun t c => t.after c.request c.issued) .start

@[simp] theorem trace_concat (calls : List Call) (c : Call) :
    trace (calls ++ [c]) = (trace calls).after c.request c.issued := by
  simp [trace]

end Calls

theorem World.trace_asked {σ : Type} [GraphicsDevice σ] (w : World σ) (r : Request) :
    Calls.trace (w.asked r).history = (Calls.trace w.history).after r
      (Call.issued ⟨r, (GraphicsDevice.perform r w.device).reply⟩) := by
  rw [w.asked_history, Calls.trace_concat]

/-! ## Devices that agree with their history -/

namespace GlDevice

variable {δ : Type} [GlDriver δ] [Conforming δ] {d : GlDevice δ} {calls : List Call} {r : Request}

def context (d : GlDevice δ) : GlContext := Conforming.context d.driver

structure Mirrors (d : GlDevice δ) (calls : List Call) : Prop where
  trace : d.context.trace = Calls.trace calls
  regular : d.context.Regular
  live : ∀ x ∈ Calls.live calls, x ∈ d.context.objects
  fresh : Calls.Fresh calls

/-- What is bound after a request was bound before or was named, and is still there. -/
theorem within_after {b : Bindings} {objects objects' : List Native} (h : b.Within objects)
    (hnamed : ∀ x ∈ r.named, x ∈ objects) (hkept : ∀ x ∈ objects, x ∉ r.deleted → x ∈ objects') :
    (b.after r).Within objects' := by
  have hraw : ∀ {kind : ObjectKind} (h : Option (Handle kind)),
      (∀ x ∈ h.toList.map Handle.native, x ∈ objects') → Handle.rawOf h ≠ 0 →
      (⟨kind, Handle.rawOf h⟩ : Native) ∈ objects' := by
    intro kind h hin hne
    rcases h with _ | h
    · exact absurd rfl hne
    · exact hin _ (List.mem_singleton_self _)
  have hmono : r.deleted = [] → ∀ x ∈ objects, x ∈ objects' := by
    intro hnone x hx
    exact hkept x hx (by simp [hnone])
  cases r with
  | useProgram program =>
      have hb := h.mono (hmono rfl)
      exact { hb with program := hraw program fun x hx => hmono rfl x (hnamed x hx) }
  | bindVertexArray array =>
      have hb := h.mono (hmono rfl)
      exact { hb with vertexArray := hraw array fun x hx => hmono rfl x (hnamed x hx) }
  | bindFramebuffer framebuffer =>
      have hb := h.mono (hmono rfl)
      exact { hb with framebuffer := hraw framebuffer fun x hx => hmono rfl x (hnamed x hx) }
  | bindTexture slot texture =>
      have hb := h.mono (hmono rfl)
      refine { hb with texture := fun unit => ?_ }
      have hnew := hraw texture fun x hx => hmono rfl x (hnamed x hx)
      by_cases hunit : unit = firstTextureUnit + slot
      · subst hunit
        simpa [Bindings.after] using hnew
      · simpa [Bindings.after, hunit] using hb.texture unit
  | _ => exact h.without hkept

/-- A framebuffer that is not there after a request was not there before, or was deleted. -/
theorem drawBuffers_after {t : Trace} {objects objects' made : List Native}
    (h : ∀ name, (⟨.framebuffer, name⟩ : Native) ∉ objects → t.drawBuffers name = .initial)
    (hkept : ∀ x, x ∈ objects ∨ x ∈ made → x ∉ r.deleted → x ∈ objects') {name : GlName}
    (hname : (⟨.framebuffer, name⟩ : Native) ∉ objects') :
    (t.after r made).drawBuffers name = .initial := by
  have hnone : (⟨.framebuffer, name⟩ : Native) ∉ r.deleted →
      (⟨.framebuffer, name⟩ : Native) ∉ objects ∧ (⟨.framebuffer, name⟩ : Native) ∉ made := by
    intro hdeleted
    rw [← not_or]
    exact fun hmem => hname (hkept _ hmem hdeleted)
  have hwithout : t.drawBuffersWithout r.deleted name = .initial := by
    rw [Trace.drawBuffersWithout]
    split
    · rfl
    · rename_i hdeleted
      exact h name (hnone hdeleted).1
  cases r with
  | createFramebuffer colors depth =>
      obtain ⟨hobjects, hmade⟩ := hnone List.not_mem_nil
      exact (if_neg hmade).trans (h name hobjects)
  | _ => exact hwithout

omit [Conforming δ] in
theorem perform_of_run {outcome : Except Halt r.Reply} {work : Work δ}
    (hrun : (serve d.capabilities r).run.run ⟨d.driver, #[]⟩ = (outcome, work)) :
    GlDevice.perform r d =
      ⟨outcome.toOption, work.notes.toList, { d with driver := work.driver }⟩ := by
  rw [GlDevice.perform, hrun]

omit [Conforming δ] in
/-- What is known of serving a request, for one that is answered. -/
theorem of_perform {Q : r.Reply → δ → Prop} {E : Work δ → Prop}
    (hserve : Runs (serve d.capabilities r) ⟨d.driver, #[]⟩ (fun reply w => Q reply w.driver) E)
    {reply : r.Reply} (hreply : (GlDevice.perform r d).reply = some reply) :
    Q reply (GlDevice.perform r d).state.driver := by
  unfold Runs at hserve
  unfold GlDevice.perform at hreply ⊢
  rcases hrun : (serve d.capabilities r).run.run ⟨d.driver, #[]⟩ with ⟨e | a, w⟩
  · rw [hrun] at hreply
    cases hreply
  · rw [hrun] at hreply hserve
    cases hreply
    exact hserve

/-- A request that is answered. -/
theorem Mirrors.perform (h : d.Mirrors calls) {reply : r.Reply}
    (hreply : (GlDevice.perform r d).reply = some reply)
    (hlawful : Calls.LawfulAfter calls ⟨r, some reply⟩) :
    (GlDevice.perform r d).state.Mirrors (calls ++ [⟨r, some reply⟩]) := by
  have hserved : r.Served d.context reply (GlDevice.perform r d).state.context :=
    of_perform (Q := fun reply driver => r.Served d.context reply (Conforming.context driver))
      (E := fun _ => False) (runs_serve h.regular) hreply
  have hnamed : ∀ x ∈ r.named, x ∈ d.context.objects := fun x hx => h.live x (hlawful.named x hx)
  have hfresh : Calls.Fresh (calls ++ [⟨r, some reply⟩]) := by
    refine Calls.Stepwise.concat_iff.mpr ⟨h.fresh, fun x hx hlive => ?_⟩
    exact hserved.fresh x hx (h.live x hlive)
  refine ⟨?_, ⟨?_, fun name hname => ?_⟩, ?_, hfresh⟩
  · rw [Calls.trace_concat, ← h.trace]
    exact hserved.trace
  · rw [hserved.trace]
    exact within_after h.regular.within hnamed fun x hx => hserved.kept x (.inl hx)
  · rw [hserved.trace]
    exact drawBuffers_after h.regular.drawBuffers hserved.kept hname
  · intro x hx
    obtain ⟨hx, hkept⟩ := Calls.mem_live_concat hfresh hx
    exact hserved.kept x (hx.imp_left (h.live x)) hkept

/-- What a guard can hold against a device on a conforming driver. -/
def Mirrored (d : GlDevice δ) (calls : List Call) : Prop :=
  Calls.Answered calls → Calls.Lawful calls → d.Mirrors calls

theorem Mirrored.perform (h : d.Mirrored calls) :
    (GlDevice.perform r d).state.Mirrored (calls ++ [⟨r, (GlDevice.perform r d).reply⟩]) := by
  intro hanswered hlawful
  obtain ⟨hcalls, hreply⟩ := Calls.answered_concat.mp hanswered
  obtain ⟨hbefore, hr⟩ := Calls.Stepwise.concat_iff.mp hlawful
  obtain ⟨reply, hreply⟩ := Option.isSome_iff_exists.mp hreply
  have hmirrors := h hcalls hbefore
  have hlawful := hr hmirrors.fresh
  have hreply : (GlDevice.perform r d).reply = some reply := hreply
  rw [hreply] at hlawful ⊢
  exact hmirrors.perform hreply hlawful

omit [GlDriver δ] [Conforming δ] in
/-- Messages are about the driver and do not reach it. -/
theorem driver_deliver (m : DriverMessage) (d : GlDevice δ) :
    (GlDevice.deliver m d).2.2.driver = d.driver := by
  unfold GlDevice.deliver
  split
  · rfl
  · rfl

theorem Mirrored.deliver (h : d.Mirrored calls) (m : DriverMessage) :
    (GlDevice.deliver m d).2.2.Mirrored calls := by
  intro hanswered hlawful
  have hcontext : (GlDevice.deliver m d).2.2.context = d.context :=
    congrArg Conforming.context (driver_deliver m d)
  have hmirrors := h hanswered hlawful
  exact ⟨hcontext ▸ hmirrors.trace, hcontext ▸ hmirrors.regular, hcontext ▸ hmirrors.live,
    hmirrors.fresh⟩

/-- A device that nothing was asked of. -/
theorem mirrors_nil (h : d.context.trace = .start) : d.Mirrors [] := by
  refine ⟨h, ⟨?_, ?_⟩, by simp [Calls.live], Calls.fresh_nil⟩
  · rw [h]
    exact ⟨fun h => absurd rfl h, fun h => absurd rfl h, fun h => absurd rfl h,
      fun _ h => absurd rfl h⟩
  · rw [h]
    exact fun _ _ => rfl

end GlDevice

end RenderKit
