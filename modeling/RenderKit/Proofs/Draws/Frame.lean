import RenderKit.Proofs.OpenGL.History

set_option autoImplicit false

/-! # Frames

A frame is a guard that is set up in the middle of a session. Nobody may bind or draw in it, and it
watches what is there. As long as the books are kept for it, what is bound stays bound unless it is
deleted, and objects stand for what they stood for until they are gone. -/

namespace RenderKit

variable {σ : Type} [GraphicsDevice σ]

namespace World

/-- What is bound, as the history tells. -/
def bound (w : World σ) : Bindings := (Calls.trace w.history).bindings

/-- What was bound at each draw, as the history tells. -/
def drawn (w : World σ) : List Bindings := (Calls.trace w.history).draws

@[simp] theorem bound_asked (w : World σ) (r : Request) :
    (w.asked r).bound = w.bound.after r := by
  rw [bound, trace_asked]
  rfl

@[simp] theorem drawn_asked (w : World σ) (r : Request) :
    (w.asked r).drawn = w.drawn ++ if r.draws then [w.bound] else [] := by
  rw [drawn, trace_asked]
  rfl

theorem alike_asked (w : World σ) (r : Request) : w.Alike (w.asked r) :=
  ⟨rfl, rfl, rfl, rfl, rfl, rfl⟩

/-- What a reference stands for on the device. -/
def natives {α : Type} [Pooled α] [Traced α] (w : World σ) (r : Ref α) : Multiset Native :=
  ((Pooled.pool w).get? r).elim 0 fun a => (Traced.body a).natives

end World

/-! ## Steady histories -/

theorem Request.after_of_isSteady {r : Request} (h : r.isSteady) (b : Bindings) :
    b.after r = b.without r.deleted := by
  cases r <;> first | rfl | cases h

theorem Request.draws_of_isSteady {r : Request} (h : r.isSteady) : r.draws = false := by
  cases r <;> first | rfl | cases h

/-- Calls that neither bind nor draw. -/
theorem Calls.trace_append_steady {calls more : List Call} (h : ∀ c ∈ more, c.request.isSteady) :
    (trace (calls ++ more)).bindings = (trace calls).bindings.without (deleted more) ∧
      (trace (calls ++ more)).draws = (trace calls).draws := by
  induction more using List.reverseRecOn with
  | nil => simp [deleted]
  | append_singleton more c ih =>
      obtain ⟨hbindings, hdraws⟩ := ih fun d hd => h d (List.mem_append_left _ hd)
      have hc : c.request.isSteady := h c (by simp)
      rw [← List.append_assoc, trace_concat, deleted_concat]
      constructor
      · show (trace (calls ++ more)).bindings.after c.request = _
        rw [hbindings, Request.after_of_isSteady hc, Bindings.without_append]
        rfl
      · show (trace (calls ++ more)).draws ++ (if c.request.draws then _ else []) = _
        rw [Request.draws_of_isSteady hc, hdraws]
        simp

/-! ## Guards and their frames -/

namespace Guard

/-- A guard that lets everybody do everything, and whose law vouches for fresh objects. -/
structure Vouching (g : Guard σ) : Prop where
  base : g.base = []
  allows : ∀ r, g.allows r
  watched : g.watched = ∅
  fresh : ∀ device calls, g.law device calls → Calls.Answered calls → Calls.Lawful calls →
    Calls.Fresh calls

/-- The guard from some point on, with references of its own. Some of what is there now is
    watched. -/
def frame (g : Guard σ) (w : World σ) (tokens : Multiset Node) (watches : Node → Prop) :
    Guard σ where
  tokens := tokens
  base := w.history
  allows r := r.isSteady
  allows_resource := Request.isSteady_of_isResource
  watched :=
    { v | watches v.node ∧ w.Used v.node ∧ (v.Stays w.cells [] ∨ v.Gone w.cells [] 0) }
  law := g.law
  law_ask := g.law_ask
  believes := g.believes
  believes_ask := g.believes_ask
  believes_reply := g.believes_reply

end Guard

section Frame

variable {g : Guard σ} {ext ext' tokens : Multiset Node} {watches : Node → Prop} {w w' : World σ}

theorem Log.fresh (hg : g.Vouching) (hlog : Log g w) : w.Fresh :=
  hg.fresh _ _ hlog.law hlog.answered hlog.lawful

theorem Log.fresh_frame (hg : g.Vouching) (hlog : Log (g.frame w tokens watches) w') : w'.Fresh :=
  hg.fresh _ _ hlog.law hlog.answered hlog.lawful

/-- A frame begins: some references go over to it. -/
theorem Owns.frame (hb : Owns g ext w) (h : tokens + ext' = g.tokens + ext) :
    Owns (g.frame w tokens watches) ext' w := by
  have hdrop : w.history.drop w.history.length = [] := List.drop_length
  refine ⟨⟨List.prefix_rfl, ?_, hb.law, hb.lawful, hb.answered⟩, fun hfresh => ?_, fun _ v hv => ?_,
    hb.believed⟩
  · intro c hc
    rw [Guard.frame, hdrop] at hc
    cases hc
  · show Heap.Sound w.cells (tokens + ext') .empty w.live w.bonds
    rw [h]
    exact hb.sound hfresh
  · have hdeleted : (g.frame w tokens watches).deleted w = [] := by
      rw [Guard.deleted, Guard.frame, hdrop]
      rfl
    rw [hdeleted]
    exact hv.2

/-- A frame ends: its references go back. -/
theorem Owns.unframe (hg : g.Vouching) (hb : Owns (g.frame w tokens watches) ext' w')
    (h : tokens + ext' = g.tokens + ext) : Owns g ext w' := by
  refine ⟨⟨?_, fun c _ => hg.allows _, hb.law, hb.lawful, hb.answered⟩, fun hfresh => ?_, ?_,
    hb.believed⟩
  · rw [hg.base]
    exact List.nil_prefix
  · rw [← h]
    exact hb.sound hfresh
  · intro _ v hv
    rw [hg.watched] at hv
    exact hv.elim

/-- Within a frame things are only taken away from what is bound. -/
theorem Log.bound_frame (hlog : Log (g.frame w tokens watches) w') :
    w'.bound = w.bound.without ((g.frame w tokens watches).deleted w') ∧ w'.drawn = w.drawn := by
  obtain ⟨more, hmore⟩ := hlog.base
  have hmore : w'.history = w.history ++ more := hmore.symm
  have hdrop : w'.history.drop w.history.length = more := by
    rw [hmore, List.drop_left]
  have hsteady : ∀ c ∈ more, c.request.isSteady := by
    intro c hc
    exact hlog.allowed c (show c ∈ w'.history.drop w.history.length from hdrop ▸ hc)
  rw [World.bound, World.drawn, Guard.deleted, hmore]
  show _ = (Calls.trace w.history).bindings.without
    (Calls.deleted ((w.history ++ more).drop w.history.length)) ∧ _
  rw [List.drop_left]
  exact Calls.trace_append_steady hsteady

variable {α : Type} [Pooled α] [Traced α] [Housed α] {r : Ref α} {a : α}

/-- What is watched stands for the same in the end, or it is gone with all it stood for. -/
theorem Owns.watched_frame (hb : Owns (g.frame w tokens watches) ext w') (hfresh : w'.Fresh)
    (hwatches : watches (Traced.node r)) {v : Watch} (hnode : v.node = Traced.node r)
    (hused : w.Used (Traced.node r)) (hv : v.Stays w.cells [] ∨ v.Gone w.cells [] 0) :
    (∃ a, (Pooled.pool w').get? r = some a ∧ (Traced.body a).natives = v.natives ∧
        Traced.others a = v.others ∧
        ∀ x ∈ v.natives, x ∉ (g.frame w tokens watches).deleted w') ∨
      ((Pooled.pool w').get? r = none ∧
        ∀ x ∈ v.natives, x ∈ (g.frame w tokens watches).deleted w') := by
  have hmem : v ∈ (g.frame w tokens watches).watched :=
    ⟨hnode ▸ hwatches, hnode ▸ hused, hv⟩
  rcases (hb.watched hfresh v hmem).2 with
    ⟨⟨c, hc, hplace, hnatives, hothers⟩, hkept⟩ | ⟨hno, hgone⟩
  · obtain ⟨s, hslot, rfl⟩ := exists_slot_of_mem hc (hplace.trans hnode)
    exact .inl ⟨s.value, by simp [Pool.get?, hslot], hnatives, hothers, hkept⟩
  · refine .inr ⟨?_, fun x hx => (hgone x hx).resolve_right (Multiset.notMem_zero x)⟩
    rcases hget : (Pooled.pool w').get? r with _ | a
    · rfl
    · exact absurd (hnode ▸ node_mem_of_get? hget) hno

/-- An object that is there stays or goes. -/
theorem Owns.get?_frame (hb : Owns (g.frame w tokens watches) ext w') (hfresh : w'.Fresh)
    (hwatches : watches (Traced.node r)) (hget : (Pooled.pool w).get? r = some a) :
    (∃ a', (Pooled.pool w').get? r = some a' ∧
        (Traced.body a').natives = (Traced.body a).natives ∧ Traced.others a' = Traced.others a ∧
        ∀ x ∈ (Traced.body a).natives, x ∉ (g.frame w tokens watches).deleted w') ∨
      ((Pooled.pool w').get? r = none ∧
        ∀ x ∈ (Traced.body a).natives, x ∈ (g.frame w tokens watches).deleted w') := by
  obtain ⟨s, hslot, rfl⟩ := Pool.slot?_of_get? hget
  refine hb.watched_frame (v := ⟨Traced.node r, (Traced.body s.value).natives, _⟩) hfresh hwatches
    rfl (used_of_get? hget) (.inl ⟨⟨_, mem_cells_of_slot? hslot, rfl, rfl, rfl⟩, ?_⟩)
  simp

/-- An object that is there in the end was there all the time. -/
theorem Owns.owned_frame (hb : Owns (g.frame w tokens watches) ext w') (hfresh : w'.Fresh)
    (hwatches : watches (Traced.node r)) (hget : (Pooled.pool w).get? r = some a)
    (hr : Traced.node r ∈ w'.cells.nodes) :
    ∃ a', (Pooled.pool w').get? r = some a' ∧
      (Traced.body a').natives = (Traced.body a).natives ∧ Traced.others a' = Traced.others a ∧
      ∀ x ∈ (Traced.body a).natives, x ∉ (g.frame w tokens watches).deleted w' := by
  refine (hb.get?_frame hfresh hwatches hget).resolve_right fun ⟨hnone, _⟩ => ?_
  obtain ⟨s, hslot⟩ := exists_slot_of_node_mem hr
  simp [Pool.get?, hslot] at hnone

omit [GraphicsDevice σ] in
/-- There is something to watch at every place. -/
theorem exists_watch (w : World σ) (r : Ref α) : ∃ others,
    let v : Watch := ⟨Traced.node r, w.natives r, others⟩
    v.Stays w.cells [] ∨ v.Gone w.cells [] 0 := by
  rcases hslot : (Pooled.pool w).slot? r with _ | s
  · refine ⟨0, .inr ⟨fun hmem => ?_, ?_⟩⟩
    · obtain ⟨s, hs⟩ := exists_slot_of_node_mem hmem
      rw [hs] at hslot
      cases hslot
    · simp [World.natives, Pool.get?, hslot]
  · refine ⟨Traced.others s.value, .inl ⟨⟨_, mem_cells_of_slot? hslot, rfl, ?_, rfl⟩, ?_⟩⟩
    · simp [World.natives, Pool.get?, hslot]
    · simp

/-- Places are never given back. -/
theorem Owns.used_frame (hb : Owns (g.frame w tokens watches) ext w') (hfresh : w'.Fresh)
    (hwatches : watches (Traced.node r)) (hused : w.Used (Traced.node r)) :
    w'.Used (Traced.node r) := by
  obtain ⟨others, hv⟩ := exists_watch w r
  exact (hb.watched hfresh ⟨Traced.node r, w.natives r, others⟩ ⟨hwatches, hused, hv⟩).1

/-- What a reference stands for after a frame is what was not deleted in it. -/
theorem Owns.natives_frame (hb : Owns (g.frame w tokens watches) ext w') (hfresh : w'.Fresh)
    (hwatches : watches (Traced.node r)) (hused : w.Used (Traced.node r)) :
    w'.natives r = (w.natives r).filter (· ∉ (g.frame w tokens watches).deleted w') := by
  obtain ⟨others, hv⟩ := exists_watch w r
  rcases hb.watched_frame hfresh hwatches rfl hused hv with ⟨a, hget, hnatives, -, hkept⟩ |
    ⟨hnone, hgone⟩
  · rw [Multiset.filter_eq_self.mpr hkept]
    simpa [World.natives, hget] using hnatives
  · rw [Multiset.filter_eq_nil.mpr fun x hx => not_not.mpr (hgone x hx)]
    simp [World.natives, hnone]

end Frame

end RenderKit
