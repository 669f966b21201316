import RenderKit.Proofs.Ledger.Cells
import RenderKit.Proofs.Task

set_option autoImplicit false

/-! # Keeping the books

The books of a world say that its heap is sound and that its history is lawful. They are kept for
an operation, which owns some references and a body in the air, and on behalf of a guard. The
guard has references of its own, says which requests may be made, and watches over cells: as long
as such a cell is there it stands for the same objects of the device, and none of them is
deleted. -/

namespace RenderKit

/-- A cell to watch over. -/
structure Watch where
  node : Node
  natives : Multiset Native
  others : Multiset Node

namespace Watch

/-- The cell is there, and nothing it stands for was deleted. -/
def Stays (v : Watch) (h : Heap) (deleted : List Native) : Prop :=
  (∃ c ∈ h, c.node = v.node ∧ c.body.natives = v.natives ∧ c.others = v.others) ∧
    ∀ x ∈ v.natives, x ∉ deleted

/-- The cell is not there any more, and all it stood for was deleted, apart from a rest. -/
def Gone (v : Watch) (h : Heap) (deleted : List Native) (left : Multiset Native) : Prop :=
  v.node ∉ h.nodes ∧ ∀ x ∈ v.natives, x ∈ deleted ∨ x ∈ left

section

variable {v : Watch} {c c' : Cell} {h rest : Heap} {deleted : List Native}
  {left : Multiset Native}

/-- A cell that is replaced by one for the same objects of the device. -/
theorem replace (hv : v.Stays (c ::ₘ rest) deleted ∨ v.Gone (c ::ₘ rest) deleted left)
    (hnode : c'.node = c.node) (hnatives : c'.body.natives = c.body.natives)
    (hothers : c'.others = c.others) :
    v.Stays (c' ::ₘ rest) deleted ∨ v.Gone (c' ::ₘ rest) deleted left := by
  rcases hv with ⟨⟨d, hd, hdv⟩, hkept⟩ | ⟨hmem, hgone⟩
  · refine .inl ⟨?_, hkept⟩
    rcases Multiset.mem_cons.mp hd with rfl | hd
    · exact ⟨c', Multiset.mem_cons_self _ _, hnode ▸ hdv.1, hnatives ▸ hdv.2.1, hothers ▸ hdv.2.2⟩
    · exact ⟨d, Multiset.mem_cons_of_mem hd, hdv⟩
  · refine .inr ⟨?_, hgone⟩
    simpa [hnode] using hmem

/-- Another cell is replaced. -/
theorem replaceOther
    (hv : v.Stays (c ::ₘ rest) deleted ∨ v.Gone (c ::ₘ rest) deleted 0)
    (hnode : c'.node = c.node) (hne : v.node ≠ c.node) :
    v.Stays (c' ::ₘ rest) deleted ∨ v.Gone (c' ::ₘ rest) deleted left := by
  rcases hv with ⟨⟨d, hd, hdv⟩, hkept⟩ | ⟨hmem, hgone⟩
  · refine .inl ⟨?_, hkept⟩
    rcases Multiset.mem_cons.mp hd with rfl | hd
    · exact absurd hdv.1.symm hne
    · exact ⟨d, Multiset.mem_cons_of_mem hd, hdv⟩
  · refine .inr ⟨by simpa [hnode] using hmem, fun x hx => .inl ?_⟩
    simpa using hgone x hx

/-- A cell is added at a place that was not in use before. -/
theorem add (hnode : v.node ≠ c.node) (hv : v.Stays h deleted ∨ v.Gone h deleted left) :
    v.Stays (c ::ₘ h) deleted ∨ v.Gone (c ::ₘ h) deleted left := by
  rcases hv with ⟨⟨d, hd, hdv⟩, hkept⟩ | ⟨hmem, hgone⟩
  · exact .inl ⟨⟨d, Multiset.mem_cons_of_mem hd, hdv⟩, hkept⟩
  · refine .inr ⟨?_, hgone⟩
    simpa [hnode] using hmem

/-- A cell goes, and what it stands for is still to be deleted. -/
theorem take (hnodup : (Heap.nodes (c ::ₘ h)).Nodup)
    (hv : v.Stays (c ::ₘ h) deleted ∨ v.Gone (c ::ₘ h) deleted 0) :
    v.Stays h deleted ∨ v.Gone h deleted c.body.natives := by
  rcases hv with ⟨⟨d, hd, hdv⟩, hkept⟩ | ⟨hmem, hgone⟩
  · rcases Multiset.mem_cons.mp hd with rfl | hd
    · rw [Heap.nodes_cons, Multiset.nodup_cons] at hnodup
      refine .inr ⟨hdv.1 ▸ hnodup.1, fun x hx => .inr (hdv.2.1 ▸ hx)⟩
    · exact .inl ⟨⟨d, hd, hdv⟩, hkept⟩
  · refine .inr ⟨fun h => hmem ?_, fun x hx => .inl ?_⟩
    · simp [h]
    · simpa using hgone x hx

end

end Watch

/-- Whether a request only makes, fills, attaches or deletes an object, or looks into one. -/
def Request.isResource : Request → Bool
  | .createBuffer .. | .writeBuffer .. | .readBuffer .. | .deleteBuffer _ | .createTexture ..
  | .deleteTexture _ | .createSampler _ | .deleteSampler _ | .createFramebuffer ..
  | .deleteFramebuffer _ | .compileShader .. | .deleteShader _ | .linkProgram _
  | .deleteProgram _ | .uniformLocation .. | .attributeLocation .. | .createVertexArray
  | .attachVertexBuffer .. | .attachIndexBuffer .. | .deleteVertexArray _ => true
  | _ => false

/-- Whether a request neither draws nor binds what draws depend on. -/
def Request.isSteady : Request → Bool
  | .useProgram _ | .bindVertexArray _ | .bindFramebuffer _ | .bindTexture .. | .drawArrays ..
  | .drawElements .. => false
  | _ => true

theorem Request.isSteady_of_isResource {r : Request} (h : r.isResource) : r.isSteady := by
  cases r <;> first | rfl | cases h

structure Guard (σ : Type) [GraphicsDevice σ] where
  tokens : Multiset Node
  /-- The calls before the guard was set up. -/
  base : List Call
  allows : Request → Prop
  allows_resource {r : Request} : r.isResource → allows r
  watched : Set Watch
  /-- What every request preserves about the device and the history. -/
  law : σ → List Call → Prop
  law_ask {device : σ} {calls : List Call} (r : Request) :
    law device calls → law (GraphicsDevice.perform r device).state
      (calls ++ [⟨r, (GraphicsDevice.perform r device).reply⟩])
  /-- What may be remembered of the device. -/
  believes : σ → Recall → Prop := fun _ _ => True
  believes_ask {device : σ} {x : Recall} {r : Request} {reply : r.Reply} :
    (GraphicsDevice.perform r device).reply = some reply → x.program.native ∉ r.deleted →
    believes device x → believes (GraphicsDevice.perform r device).state x := by intros; trivial
  believes_reply {device : σ} {calls : List Call} {program : ProgramHandle} {name : String}
    {location : Int32} : law device calls → Calls.Answered calls → Calls.Lawful calls →
    program.native ∈ Calls.live calls →
    (GraphicsDevice.perform (.uniformLocation program name) device).reply = some location →
    believes (GraphicsDevice.perform (.uniformLocation program name) device).state
      ⟨program, name, location⟩ := by intros; trivial

variable {σ : Type} [GraphicsDevice σ]

/-- A guard has nothing against a change of the device. -/
structure Guard.Tolerates (g : Guard σ) (change : σ → σ) : Prop where
  law : ∀ device calls, g.law device calls → g.law (change device) calls
  believes : ∀ device x, g.believes device x → g.believes (change device) x

namespace World

/-- The history of a world. -/
def history (w : World σ) : List Call := w.calls.toList

def live (w : World σ) : Multiset Native := Calls.live w.history

def bonds (w : World σ) : List Bond := Calls.bonds w.history

def Fresh (w : World σ) : Prop := Calls.Fresh w.history

end World

/-- What was deleted since the guard was set up. -/
def Guard.deleted (g : Guard σ) (w : World σ) : List Native :=
  Calls.deleted (w.history.drop g.base.length)

/-- What the books say about the history. -/
structure Log (g : Guard σ) (w : World σ) : Prop where
  base : g.base <+: w.history
  allowed : ∀ c ∈ w.history.drop g.base.length, g.allows c.request
  law : g.law w.device w.history
  lawful : Calls.Lawful w.history
  answered : Calls.Answered w.history

/-- The books for an operation. They are good for nothing once the device has returned an object
    that was there already. -/
structure Books (g : Guard σ) (ext : Multiset Node) (air : Body) (left : Multiset Native)
    (w : World σ) : Prop extends Log g w where
  sound : w.Fresh → Heap.Sound w.cells (g.tokens + ext) air w.live w.bonds
  watched : w.Fresh → ∀ v ∈ g.watched, w.Used v.node ∧
    (v.Stays w.cells (g.deleted w) ∨ v.Gone w.cells (g.deleted w) left)
  believed : w.Fresh → ∀ x ∈ w.cells.recalls, g.believes w.device x

/-- The books for an operation that owns some references. -/
def Owns (g : Guard σ) (ext : Multiset Node) (w : World σ) : Prop := Books g ext .empty 0 w

/-- The books for an operation that is making an object. -/
def Bears (g : Guard σ) (ext : Multiset Node) (body : Body) (w : World σ) : Prop :=
  Books g ext body 0 w

/-- The books for an operation that is taking an object apart. -/
def Buries (g : Guard σ) (ext : Multiset Node) (body : Body) (w : World σ) : Prop :=
  Books g ext body body.natives w

theorem Books.congr {g : Guard σ} {ext ext' : Multiset Node} {air : Body}
    {left : Multiset Native} {w : World σ} (hb : Books g ext air left w) (h : ext = ext') :
    Books g ext' air left w := h ▸ hb

/-- Entries of the journal are not in the books. -/
theorem Books.noted {g : Guard σ} {ext : Multiset Node} {air : Body} {left : Multiset Native}
    {w : World σ} (hb : Books g ext air left w) (e : Entry) :
    Books g ext air left (HasJournal.note e w) :=
  ⟨⟨hb.base, hb.allowed, hb.law, hb.lawful, hb.answered⟩, hb.sound, hb.watched, hb.believed⟩

/-- The guard once the device has returned an object that was there already. -/
def Guard.stale (g : Guard σ) : Guard σ :=
  { g with
    watched := ∅
    law := fun device calls => g.law device calls ∧ ¬Calls.Fresh calls
    law_ask := fun r h => ⟨g.law_ask r h.1, fun hfresh => h.2 (Calls.Stepwise.of_append hfresh)⟩
    believes_reply := fun h => g.believes_reply h.1 }

section

variable {g : Guard σ} {ext : Multiset Node} {air : Body} {left : Multiset Native} {w : World σ}

theorem Books.stale (hb : Books g ext air left w) (hfresh : ¬w.Fresh) :
    Books g.stale ext air left w :=
  ⟨⟨hb.base, hb.allowed, ⟨hb.law, hfresh⟩, hb.lawful, hb.answered⟩, fun h => absurd h hfresh,
    fun h => absurd h hfresh, hb.believed⟩

theorem Books.unstale (hb : Books g.stale ext air left w) : Books g ext air left w :=
  ⟨⟨hb.base, hb.allowed, hb.law.1, hb.lawful, hb.answered⟩, fun h => absurd h hb.law.2,
    fun h => absurd h hb.law.2, hb.believed⟩

end

/-! ## Asking -/

/-- The world after a request. -/
def World.asked (w : World σ) (r : Request) : World σ :=
  let outcome := GraphicsDevice.perform r w.device
  { w with
    device := outcome.state
    calls := w.calls.push ⟨r, outcome.reply⟩
    journal := w.journal ++ outcome.notes }

section Asking

variable {g : Guard σ} {ext : Multiset Node} {air air' : Body} {left left' : Multiset Native}
  {w : World σ} {r : Request} {reply : r.Reply} {E : World σ → Prop}

theorem runs_ask :
    Runs (ask r) w (fun reply w' =>
      w' = w.asked r ∧ (GraphicsDevice.perform r w.device).reply = some reply) E := by
  unfold ask
  refine Runs.bind_get (Runs.bind_set ?_)
  split
  · rename_i reply hreply
    exact Runs.pure ⟨rfl, hreply⟩
  · exact runs_abort

theorem run_ask (r : Request) (w : World σ) :
    (ask r).run.run w =
      match (GraphicsDevice.perform r w.device).reply with
      | some reply => (.ok reply, w.asked r)
      | none => (.error .abort, w.asked r) := by
  show (match (GraphicsDevice.perform r w.device).reply with
    | some reply => (pure reply : Render σ r.Reply)
    | none => abort).run.run (w.asked r) = _
  rcases (GraphicsDevice.perform r w.device).reply with _ | reply <;> rfl

theorem run_ask_bind {r : Request} {reply : r.Reply} {α : Type} {f : r.Reply → Render σ α}
    {w : World σ} (h : (GraphicsDevice.perform r w.device).reply = some reply) :
    (ask r >>= f).run.run w = (f reply).run.run (w.asked r) := by
  rw [run_bind, run_ask, h]

/-- A request is a call, whether it is answered or not. -/
theorem World.asked_history (w : World σ) (r : Request) :
    (w.asked r).history = w.history ++ [⟨r, (GraphicsDevice.perform r w.device).reply⟩] := by
  simp [World.asked, World.history]

theorem history_asked (hreply : (GraphicsDevice.perform r w.device).reply = some reply) :
    (w.asked r).history = w.history ++ [⟨r, some reply⟩] := by
  rw [World.asked_history, hreply]

theorem deleted_asked (hbase : g.base <+: w.history) :
    g.deleted (w.asked r) = g.deleted w ++ r.deleted := by
  rw [Guard.deleted, Guard.deleted, w.asked_history,
    List.drop_append_of_le_length hbase.length_le, Calls.deleted_concat]
  rfl

theorem Log.asked (hlog : Log g w) (hallows : g.allows r)
    (hreply : (GraphicsDevice.perform r w.device).reply = some reply)
    (hlawful : w.Fresh → Calls.LawfulAfter w.history ⟨r, some reply⟩) : Log g (w.asked r) := by
  have hhistory := history_asked hreply
  refine ⟨?_, ?_, ?_, ?_, ?_⟩
  · rw [hhistory]
    exact hlog.base.trans (List.prefix_append _ _)
  · rw [hhistory, List.drop_append_of_le_length hlog.base.length_le]
    intro c hc
    rcases List.mem_append.mp hc with hc | hc
    · exact hlog.allowed c hc
    · rw [List.mem_singleton.mp hc]
      exact hallows
  · have := g.law_ask r hlog.law
    rw [hreply, ← hhistory] at this
    exact this
  · rw [hhistory]
    exact Calls.Stepwise.concat_iff.mpr ⟨hlog.lawful, hlawful⟩
  · rw [hhistory]
    exact Calls.answered_concat.mpr ⟨hlog.answered, rfl⟩

/-- The objects the device returned before the request were fresh too. -/
theorem fresh_asked (hreply : (GraphicsDevice.perform r w.device).reply = some reply)
    (hfresh : (w.asked r).Fresh) : w.Fresh ∧ ∀ x ∈ r.issued reply, x ∉ w.live := by
  rw [World.Fresh, history_asked hreply] at hfresh
  exact Calls.Stepwise.concat_iff.mp hfresh

/-- What is remembered of a program that is still there is right after a request as well. -/
theorem Books.believes_asked (hb : Books g ext air left w)
    (hreply : (GraphicsDevice.perform r w.device).reply = some reply) (hfresh : (w.asked r).Fresh)
    (hkept : ∀ x ∈ w.cells.natives, x ∈ (w.asked r).live) :
    ∀ x ∈ w.cells.recalls, g.believes (w.asked r).device x := by
  intro x hx
  refine g.believes_ask hreply ?_ (hb.believed (fresh_asked hreply hfresh).1 x hx)
  obtain ⟨c, hc, hx⟩ := Multiset.mem_bind.mp hx
  have hlive := hkept _ (Heap.mem_natives.mpr ⟨c, hc, World.native_of_mem_recalls c hc x hx⟩)
  rw [World.live, history_asked hreply] at hlive
  rw [World.Fresh, history_asked hreply] at hfresh
  exact (Calls.mem_live_concat hfresh hlive).2

/-- What an answered request has to preserve, apart from the history. -/
theorem Books.asked (hb : Books g ext air left w) (hallows : g.allows r)
    (hreply : (GraphicsDevice.perform r w.device).reply = some reply)
    (hlawful : w.Fresh → Calls.LawfulAfter w.history ⟨r, some reply⟩)
    (hsound : (∀ x ∈ r.issued reply, x ∉ w.live) →
      Heap.Sound w.cells (g.tokens + ext) air w.live w.bonds →
      Heap.Sound w.cells (g.tokens + ext) air' (w.live + ↑(r.issued reply) - ↑r.deleted)
        (r.bondsAfter w.bonds reply))
    (hwatched : Heap.Sound w.cells (g.tokens + ext) air w.live w.bonds → ∀ v ∈ g.watched,
      (v.Stays w.cells (g.deleted w) ∨ v.Gone w.cells (g.deleted w) left) →
      (v.Stays w.cells (g.deleted w ++ r.deleted) ∨
        v.Gone w.cells (g.deleted w ++ r.deleted) left')) :
    Books g ext air' left' (w.asked r) := by
  have hafter : (w.asked r).Fresh →
      Heap.Sound w.cells (g.tokens + ext) air' (w.asked r).live (w.asked r).bonds := by
    intro hfresh
    obtain ⟨hold, hnew⟩ := fresh_asked hreply hfresh
    rw [World.live, World.bonds, history_asked hreply, Calls.live_concat, Calls.bonds_concat]
    exact hsound hnew (hb.sound hold)
  refine ⟨hb.toLog.asked hallows hreply hlawful, hafter, fun hfresh v hv => ?_, fun hfresh =>
    hb.believes_asked hreply hfresh fun x hx => ?_⟩
  · obtain ⟨hold, -⟩ := fresh_asked hreply hfresh
    obtain ⟨hused, hwatch⟩ := hb.watched hold v hv
    rw [deleted_asked hb.base]
    exact ⟨hused, hwatched (hb.sound hold) v hv hwatch⟩
  · rw [(hafter hfresh).balance]
    exact Multiset.mem_add.mpr (.inl hx)

/-- What an object stands for is live. -/
theorem Books.mem_live (hb : Books g ext air left w) {c : Cell} (hc : c ∈ w.cells) {x : Native}
    (hx : x ∈ c.body.natives) : w.Fresh → x ∈ w.live := by
  intro hfresh
  rw [(hb.sound hfresh).balance]
  exact Multiset.mem_add.mpr (.inl (Heap.mem_natives.mpr ⟨c, hc, hx⟩))

/-- There is a cell for every token. -/
theorem Books.token_mem {n : Node} (hb : Books g (n ::ₘ ext) air left w) :
    w.Fresh → n ∈ w.cells.nodes := by
  intro hfresh
  exact (hb.sound hfresh).closed n (by simp)

/-- There is a cell for every reference of the guard and of the operation. -/
theorem Books.mem_nodes {n : Node} (hb : Books g ext air left w) (hn : n ∈ g.tokens + ext) :
    w.Fresh → n ∈ w.cells.nodes := by
  intro hfresh
  exact (hb.sound hfresh).closed n (Multiset.mem_add.mpr (.inr hn))

/-- A body that stands for nothing any more is gone. -/
theorem Books.land {grips : Multiset Grip} (hb : Books g ext ⟨0, grips⟩ left w) :
    Books g ext .empty left w :=
  { hb with sound := fun hfresh => (hb.sound hfresh).land }

/-- A request that only makes something, if anything. -/
structure Request.Making (r : Request) : Prop where
  deleted : r.deleted = []
  bonds : ∀ bonds reply, r.bondsAfter bonds reply = bonds
  issued : ∀ reply, r.issued reply = [] ∨ ∃ x, r.issued reply = [x]

/-- Whether a request leads to a new object that holds no other. -/
def Request.creates : Request → Bool
  | .createBuffer .. | .createTexture .. | .createSampler _ | .compileShader .. | .linkProgram _
  | .createVertexArray => true
  | _ => false

/-- Whether a request neither makes nor deletes nor attaches an object. -/
def Request.isPlain : Request → Bool
  | .createBuffer .. | .createTexture .. | .createSampler _ | .createFramebuffer ..
  | .compileShader .. | .linkProgram _ | .createVertexArray | .deleteBuffer _ | .deleteTexture _
  | .deleteSampler _ | .deleteFramebuffer _ | .deleteShader _ | .deleteProgram _
  | .deleteVertexArray _ | .attachVertexBuffer .. | .attachIndexBuffer .. => false
  | _ => true

theorem Request.making_of_creates (h : r.creates) : r.Making := by
  cases r <;> cases h
  all_goals
    refine ⟨rfl, fun _ _ => List.filter_eq_self.mpr (by simp [Request.deleted]), fun reply => ?_⟩
    rcases reply with e | h
    · exact .inl rfl
    · exact .inr ⟨_, rfl⟩

theorem Request.issued_of_isPlain (h : r.isPlain) (reply : r.Reply) : r.issued reply = [] := by
  cases r <;> first | rfl | cases h

theorem Request.making_of_isPlain (h : r.isPlain) : r.Making := by
  refine ⟨?_, fun bonds reply => ?_, fun reply => .inl (issued_of_isPlain h reply)⟩
  · cases r <;> first | rfl | cases h
  · cases r <;> cases h
    all_goals exact List.filter_eq_self.mpr (by simp [Request.deleted])

/-- What was made is in the air, where nothing is held meanwhile. -/
theorem runs_ask_making (hb : Books g ext air left w) (hr : r.Making) (hallows : g.allows r)
    (hnamed : w.Fresh → ∀ x ∈ r.named, x ∈ w.live) (hair : r.isPlain ∨ air.grips = 0) :
    Runs (ask r) w (fun reply w' => w' = w.asked r ∧
      Books g ext ⟨↑(r.issued reply) + air.natives, air.grips⟩ left w') E := by
  refine runs_ask.imp ?_
  rintro reply _ ⟨rfl, hreply⟩
  refine ⟨rfl, hb.asked hallows hreply ?_ ?_ ?_⟩
  · intro hfresh
    exact ⟨hnamed hfresh, by simp [Call.deleted, hr.deleted]⟩
  · intro hnew hsound
    rw [hr.bonds, hr.deleted]
    rcases hr.issued reply with hnone | ⟨x, hone⟩
    · simpa [hnone] using hsound
    · obtain ⟨natives, grips⟩ := air
      have hair : grips = 0 := by
        refine hair.resolve_left fun hplain => ?_
        rw [Request.issued_of_isPlain hplain] at hone
        cases hone
      subst hair
      rw [hone] at hnew ⊢
      have hnone : ∀ b ∈ ([] : List Bond), b.holder = x ∧
          ∃ d ∈ w.cells, b.on ∈ d.body.natives ∧ ⟨b.role, d.node⟩ ∈ (0 : Multiset Grip) := by simp
      have hissue := hsound.issue (hnew x (List.mem_singleton_self x)) (Multiset.zero_le _) hnone
        fun _ _ grip hgrip => absurd hgrip (Multiset.notMem_zero grip)
      simpa [add_comm w.live] using hissue
  · intro _ v _ hv
    rw [hr.deleted, List.append_nil]
    exact hv

theorem runs_ask_plain (hb : Books g ext air left w) (hr : r.isPlain) (hallows : g.allows r)
    (hnamed : w.Fresh → ∀ x ∈ r.named, x ∈ w.live) :
    Runs (ask r) w (fun _ w' => w' = w.asked r ∧ Books g ext air left w') E := by
  refine (runs_ask_making hb (Request.making_of_isPlain hr) hallows hnamed (.inl hr)).imp ?_
  rintro reply w' ⟨hw, hb'⟩
  simp only [Request.issued_of_isPlain hr, Multiset.coe_nil, zero_add] at hb'
  exact ⟨hw, hb'⟩

/-- What was made first is in the air alone. -/
theorem runs_ask_create (hb : Owns g ext w) (hr : r.creates) (hallows : g.allows r)
    (hnamed : w.Fresh → ∀ x ∈ r.named, x ∈ w.live) :
    Runs (ask r) w
      (fun reply w' =>
        w' = w.asked r ∧
          match r.issued reply with
          | [] => Owns g ext w'
          | x :: _ => Bears g ext (.single x) w') E := by
  have hr := Request.making_of_creates hr
  refine (runs_ask_making hb hr hallows hnamed (.inr rfl)).imp fun reply w' h => ⟨h.1, ?_⟩
  obtain ⟨-, hb'⟩ := h
  rcases hr.issued reply with hnone | ⟨x, hone⟩
  · simpa [hnone, Owns] using hb'
  · simpa [hone, Bears, Body.single, Body.empty] using hb'

/-- A request that deletes something that is in the air. -/
theorem runs_ask_delete {x : Native} {natives : Multiset Native} {grips : Multiset Grip}
    (hb : Books g ext ⟨x ::ₘ natives, grips⟩ left w) (hdeleted : r.deleted = [x])
    (hnamed : r.named = [x]) (hallows : g.allows r) :
    Runs (ask r) w
      (fun _ w' => w' = w.asked r ∧ Books g ext ⟨natives, grips⟩ (left - {x}) w') E := by
  have hafter : ∀ reply, r.issued reply = [] ∧
      ∀ bonds, r.bondsAfter bonds reply = bonds.filter fun b => b.holder ≠ x := by
    intro reply
    cases r <;> simp_all [Request.deleted, Request.issued, Request.bondsAfter]
  refine runs_ask.imp ?_
  rintro reply _ ⟨rfl, hreply⟩
  refine ⟨rfl, hb.asked hallows hreply ?_ ?_ ?_⟩
  · intro hfresh
    have hsound := hb.sound hfresh
    refine ⟨?_, ?_⟩
    · intro y hy
      have hy : y = x := by simpa [hnamed] using hy
      show y ∈ w.live
      rw [hy, hsound.balance]
      simp
    · intro y hy
      have hy : y = x := by simpa [Call.deleted, hdeleted] using hy
      rw [hy]
      exact hsound.free (Multiset.mem_cons_self _ _)
  · intro _ hsound
    rw [(hafter reply).1, (hafter reply).2, hdeleted]
    simpa using hsound.delete
  · intro hsound v _ hv
    rw [hdeleted]
    rcases hv with ⟨⟨c, hc, hnode, hnatives, hothers⟩, hkept⟩ | ⟨hnode, hgone⟩
    · -- what is deleted is in the air, so no cell stands for it
      refine .inl ⟨⟨c, hc, hnode, hnatives, hothers⟩, fun y hy => ?_⟩
      have hcell : y ∈ w.cells.natives := Heap.mem_natives.mpr ⟨c, hc, hnatives ▸ hy⟩
      have hdistinct := hsound.distinct
      rw [hsound.balance, Multiset.nodup_add] at hdistinct
      have hne : y ≠ x := by
        rintro rfl
        exact Multiset.disjoint_left.mp hdistinct.2.2 hcell (Multiset.mem_cons_self _ _)
      simpa [hne] using hkept y hy
    · refine .inr ⟨hnode, fun y hy => ?_⟩
      by_cases hyx : y = x
      · simp [hyx]
      · rcases hgone y hy with hy | hy
        · simp [hy]
        · exact .inr (by simpa [Multiset.sub_singleton] using (Multiset.mem_erase_of_ne hyx).mpr hy)

end Asking

/-! ## Pools -/

section Objects

variable {α : Type} [Pooled α] [Traced α] [Housed α] {g : Guard σ} {ext : Multiset Node}
  {air : Body} {left : Multiset Native} {w : World σ} {r : Ref α} {a : α} {E : World σ → Prop}

omit [GraphicsDevice σ] [Traced α] [Housed α] in
theorem runs_view :
    Runs (view r) w (fun a w' => w' = w ∧ (Pooled.pool w).get? r = some a) E := by
  unfold view
  refine Runs.bind_get ?_
  split
  · rename_i a ha
    exact Runs.pure ⟨rfl, ha⟩
  · exact runs_abort

omit [GraphicsDevice σ] [Traced α] [Housed α] in
theorem run_view (w : World σ) :
    (view r : Render σ α).run.run w =
      match (Pooled.pool w).get? r with
      | some a => (.ok a, w)
      | none => (.error .abort, w) := by
  show (match (Pooled.pool w).get? r with
    | some a => (pure a : Render σ α)
    | none => abort).run.run w = _
  rcases (Pooled.pool w).get? r with _ | a <;> rfl

omit [GraphicsDevice σ] [Traced α] [Housed α] in
theorem run_view_bind {β : Type} {f : α → Render σ β} (hget : (Pooled.pool w).get? r = some a) :
    (view r >>= f).run.run w = (f a).run.run w := by
  rw [run_bind, run_view, hget]

/-- What an object in the world stands for is live. -/
theorem Books.names (hb : Books g ext air left w) (ha : (Pooled.pool w).get? r = some a)
    {x : Native} (hx : x ∈ (Traced.body a).natives) : w.Fresh → x ∈ w.live := by
  obtain ⟨s, hslot, rfl⟩ := Pool.slot?_of_get? ha
  exact hb.mem_live (mem_cells_of_slot? hslot) hx

theorem Books.names_single (hb : Books g ext air left w) {x : Native}
    (ha : (Pooled.pool w).get? r = some a) (hx : (Traced.body a).natives = {x}) :
    w.Fresh → ∀ y ∈ [x], y ∈ w.live := by
  intro hfresh y hy
  rw [List.mem_singleton.mp hy]
  exact hb.names ha (by simp [hx]) hfresh

omit [GraphicsDevice σ] in
theorem history_setPool (w : World σ) (p : Pool α) :
    (Pooled.setPool w p).history = w.history :=
  congrArg Array.toList (Housed.calls_setPool w p)

theorem Log.setPool (hlog : Log g w) (p : Pool α) : Log g (Pooled.setPool w p) := by
  refine ⟨?_, ?_, ?_, ?_, ?_⟩
  · rw [history_setPool]
    exact hlog.base
  · rw [history_setPool]
    exact hlog.allowed
  · rw [history_setPool, Housed.device_setPool]
    exact hlog.law
  · rw [history_setPool]
    exact hlog.lawful
  · rw [history_setPool]
    exact hlog.answered

/-- What an exchange of pools has to preserve. -/
theorem Books.setPool {ext' : Multiset Node} {air' : Body} {left' : Multiset Native}
    (hb : Books g ext air left w) {p : Pool α}
    (hlength : (Pooled.pool w : Pool α).slots.length ≤ p.slots.length)
    (hsound : w.Fresh → Heap.Sound w.cells (g.tokens + ext) air w.live w.bonds →
      Heap.Sound (Pooled.setPool w p).cells (g.tokens + ext') air' w.live w.bonds)
    (hwatched : w.Fresh → ∀ v ∈ g.watched, w.Used v.node →
      (v.Stays w.cells (g.deleted w) ∨ v.Gone w.cells (g.deleted w) left) →
      (v.Stays (Pooled.setPool w p).cells (g.deleted w) ∨
        v.Gone (Pooled.setPool w p).cells (g.deleted w) left'))
    (hrecalls : w.Fresh → ∀ x ∈ (Pooled.setPool w p).cells.recalls,
      x ∈ w.cells.recalls ∨ g.believes w.device x) :
    Books g ext' air' left' (Pooled.setPool w p) := by
  refine ⟨hb.toLog.setPool p, fun hfresh => ?_, fun hfresh v hv => ?_, fun hfresh x hx => ?_⟩
  · rw [World.Fresh, history_setPool] at hfresh
    rw [World.live, World.bonds, history_setPool]
    exact hsound hfresh (hb.sound hfresh)
  · rw [World.Fresh, history_setPool] at hfresh
    rw [Guard.deleted, history_setPool]
    obtain ⟨hused, hwatch⟩ := hb.watched hfresh v hv
    exact ⟨Housed.used_setPool w p v.node hlength hused, hwatched hfresh v hv hused hwatch⟩
  · rw [World.Fresh, history_setPool] at hfresh
    rw [Housed.device_setPool]
    exact (hrecalls hfresh x hx).elim (hb.believed hfresh x) id

/-- The world with one more owner of an object. -/
def World.held (w : World σ) (r : Ref α) : World σ :=
  Pooled.setPool w ((Pooled.pool w).retain r)

omit [GraphicsDevice σ] in
theorem cells_held {s : Slot α} (hslot : (Pooled.pool w).slot? r = some s) :
    ∃ rest : Heap, w.cells = s.cell r ::ₘ rest ∧
      (w.held r).cells = { s with owners := s.owners + 1 }.cell r ::ₘ rest := by
  obtain ⟨rest, hcells, hset⟩ := cells_setPool_set hslot
  refine ⟨rest, hcells, ?_⟩
  rw [World.held, Pool.retain_eq_set hslot, hset]
  rfl

theorem Books.held (hb : Books g ext air left w) (hr : w.Fresh → Traced.node r ∈ w.cells.nodes) :
    Books g (Traced.node r ::ₘ ext) air left (w.held r) := by
  refine hb.setPool (by simp [Pool.retain]) (fun hfresh hsound => ?_) (fun hfresh v _ _ hv => ?_)
    fun hfresh x hx => ?_
  all_goals
    obtain ⟨s, hslot⟩ := exists_slot_of_node_mem (hr hfresh)
    obtain ⟨rest, hcells, hheld⟩ := cells_held hslot
  · rw [← World.held, hheld, Multiset.add_cons]
    rw [hcells] at hsound
    exact hsound.hold
  · rw [← World.held, hheld]
    rw [hcells] at hv
    exact Watch.replace hv rfl rfl rfl
  · rw [← World.held, hheld, Heap.recalls_cons] at hx
    rw [hcells, Heap.recalls_cons]
    exact .inl hx

theorem runs_hold (hb : Books g ext air left w) (hr : w.Fresh → Traced.node r ∈ w.cells.nodes) :
    Runs (hold r) w
      (fun _ w' => w' = w.held r ∧ Books g (Traced.node r ::ₘ ext) air left w') E :=
  Runs.modify ⟨rfl, hb.held hr⟩

omit [GraphicsDevice σ] in
theorem cells_altered {s : Slot α} (f : α → α) (hslot : (Pooled.pool w).slot? r = some s) :
    ∃ rest : Heap, w.cells = s.cell r ::ₘ rest ∧
      (w.altered r f).cells = { s with value := f s.value }.cell r ::ₘ rest := by
  obtain ⟨rest, hcells, hset⟩ := cells_setPool_set hslot
  refine ⟨rest, hcells, ?_⟩
  rw [World.altered, Pool.update_eq_set f hslot, hset]
  rfl

/-- A change that has nothing to do with other objects, nor with the device, apart from what is
    remembered of it. -/
theorem Books.altered (hb : Books g ext air left w) {f : α → α}
    (ha : (Pooled.pool w).get? r = some a) (hbody : Traced.body (f a) = Traced.body a)
    (hothers : Traced.others (f a) = Traced.others a)
    (hrecalls : w.Fresh → ∀ x ∈ Traced.recalls (f a),
      x ∈ Traced.recalls a ∨ g.believes w.device x) :
    Books g ext air left (w.altered r f) := by
  obtain ⟨s, hslot, rfl⟩ := Pool.slot?_of_get? ha
  obtain ⟨rest, hcells, haltered⟩ := cells_altered f hslot
  have hcell : ({ s with value := f s.value } : Slot α).cell r =
      { s.cell r with recalls := Traced.recalls (f s.value) } := by
    simp [Slot.cell, hbody, hothers]
  rw [hcell] at haltered
  refine hb.setPool (by simp [Pool.update]) (fun _ hsound => ?_) (fun _ v _ _ hv => ?_)
    fun hfresh x hx => ?_
  · rw [← World.altered, haltered]
    rw [hcells] at hsound
    exact hsound.remember
  · rw [← World.altered, haltered]
    rw [hcells] at hv
    exact Watch.replace hv rfl rfl rfl
  · rw [← World.altered, haltered, Heap.recalls_cons] at hx
    rw [hcells, Heap.recalls_cons]
    rcases Multiset.mem_add.mp hx with hx | hx
    · exact (hrecalls hfresh x hx).imp_left fun h => Multiset.mem_add.mpr (.inl h)
    · exact .inl (Multiset.mem_add.mpr (.inr hx))

omit [GraphicsDevice σ] [Traced α] [Housed α] in
theorem runs_altered {f : α → α} :
    Runs (alter r f) w (fun _ w' => w' = w.altered r f) E := Runs.modify rfl

theorem runs_alter (hb : Books g ext air left w) {f : α → α}
    (ha : (Pooled.pool w).get? r = some a) (hbody : Traced.body (f a) = Traced.body a)
    (hothers : Traced.others (f a) = Traced.others a)
    (hrecalls : w.Fresh → ∀ x ∈ Traced.recalls (f a),
      x ∈ Traced.recalls a ∨ g.believes w.device x) :
    Runs (alter r f) w (fun _ w' => w' = w.altered r f ∧ Books g ext air left w') E :=
  Runs.modify ⟨rfl, hb.altered ha hbody hothers hrecalls⟩

/-- The world with a new object. -/
def World.shared (w : World σ) (a : α) : World σ :=
  Pooled.setPool w ((Pooled.pool w).add a).2

/-- The place of a new object. -/
def World.nextRef (w : World σ) (α : Type) [Pooled α] : Ref α :=
  ⟨(Pooled.pool w : Pool α).slots.length⟩

theorem Books.shared
    (hb : Bears g ((Traced.body a).nodes + Traced.others a + ext) (Traced.body a) w)
    (hrecalls : Traced.recalls a = []) :
    Owns g (Traced.node (w.nextRef α) ::ₘ ext) (w.shared a) := by
  have hcells : (w.shared a).cells = Slot.cell ⟨a, 1⟩ (w.nextRef α) ::ₘ w.cells := by
    rw [World.shared, Housed.cells_setPool, Pool.cells_add, Multiset.cons_add,
      ← Housed.cells_setPool, Housed.setPool_pool]
    rfl
  have hnew : Traced.node (w.nextRef α) ∉ w.cells.nodes := by
    intro hmem
    obtain ⟨s, hslot⟩ := exists_slot_of_node_mem hmem
    simp [Pool.slot?, World.nextRef] at hslot
  refine hb.setPool (by simp [Pool.add]) (fun _ hsound => ?_) (fun _ v _ hused hv => ?_)
    fun _ x hx => ?_
  · rw [← World.shared, hcells, Multiset.add_cons]
    refine Heap.Sound.share ?_ hnew
    convert hsound using 1
    ac_rfl
  · rw [← World.shared, hcells]
    refine Watch.add ?_ hv
    intro hnode
    have hplace : v.node = Traced.node (w.nextRef α) := hnode
    rw [hplace, Housed.used_node] at hused
    exact absurd hused (lt_irrefl _)
  · rw [← World.shared, hcells, Heap.recalls_cons, Slot.recalls_cell, hrecalls] at hx
    exact .inl (by simpa using hx)

theorem runs_share (ext : Multiset Node) {ext' : Multiset Node}
    (hb : Books g ext' (Traced.body a) 0 w)
    (hext : ext' = (Traced.body a).nodes + Traced.others a + ext)
    (hrecalls : Traced.recalls a = []) :
    Runs (share a) w
      (fun r w' => r = w.nextRef α ∧ w' = w.shared a ∧ Owns g (Traced.node r ::ₘ ext) w') E :=
  Runs.bind_get (Runs.bind_set (Runs.pure ⟨rfl, rfl, Books.shared (hext ▸ hb) hrecalls⟩))

/-- The last owner has the object now, and its references. -/
theorem Owns.taken (hb : Owns g (Traced.node r ::ₘ ext) w) {s : Slot α}
    (hslot : (Pooled.pool w).slot? r = some s) (howners : s.owners ≤ 1) :
    Buries g ((Traced.body s.value).nodes + Traced.others s.value + ext) (Traced.body s.value)
      (Pooled.setPool w (⟨(Pooled.pool w).slots.set r.place none⟩ : Pool α)) := by
  obtain ⟨rest, hcells, hset⟩ := cells_setPool_set hslot
  refine hb.setPool (by simp) (fun _ hsound => ?_) (fun hfresh v _ _ hv => ?_) fun _ x hx => ?_
  · rw [hset]
    rw [hcells, Multiset.add_cons] at hsound
    have htake := hsound.take howners
    rw [Cell.links, add_left_comm] at htake
    simpa using htake
  · have hnodup := (hb.sound hfresh).nodup
    rw [hset]
    rw [hcells] at hv hnodup
    simpa using Watch.take hnodup hv
  · rw [hset] at hx
    rw [hcells, Heap.recalls_cons]
    exact .inl (Multiset.mem_add.mpr (.inr (by simpa using hx)))

/-- Other owners have the object still. -/
theorem Owns.spared (hb : Owns g (Traced.node r ::ₘ ext) w) {s : Slot α}
    (hslot : (Pooled.pool w).slot? r = some s) (howners : ¬s.owners ≤ 1) :
    Owns g ext (Pooled.setPool w
      (⟨(Pooled.pool w).slots.set r.place (some { s with owners := s.owners - 1 })⟩ : Pool α)) := by
  obtain ⟨rest, hcells, hset⟩ := cells_setPool_set hslot
  refine hb.setPool (by simp) (fun _ hsound => ?_) (fun _ v _ _ hv => ?_) fun _ x hx => ?_
  · rw [hset]
    rw [hcells, Multiset.add_cons] at hsound
    exact hsound.leave (not_le.mp howners)
  · rw [hset]
    rw [hcells] at hv
    exact Watch.replace hv rfl rfl rfl
  · rw [hset] at hx
    rw [hcells, Heap.recalls_cons]
    exact .inl (by simpa using hx)

/-- One owner less. -/
theorem runs_leave (hb : Owns g (Traced.node r ::ₘ ext) w) :
    Runs (leave r) w
      (fun last w' => (∃ p : Pool α, w' = Pooled.setPool w p) ∧
        match last with
        | none => Owns g ext w'
        | some a => (Pooled.pool w).get? r = some a ∧
            Buries g ((Traced.body a).nodes + Traced.others a + ext) (Traced.body a) w') E := by
  have hrun : ∀ {Q : Option α → World σ → Prop} {last p},
      (Pooled.pool w).release r = (last, p) → Q last (Pooled.setPool w p) →
      Runs (leave r) w Q E := by
    intro Q last p hrelease hQ
    have hQ' : Q ((Pooled.pool w).release r).1
        (Pooled.setPool w ((Pooled.pool w).release r).2) := by
      rw [hrelease]
      exact hQ
    exact Runs.bind_get (Runs.bind_set (Runs.pure hQ'))
  rcases hslot : (Pooled.pool w).slot? r with _ | s
  · -- there is a token for the place, so as long as the books are good there is an object
    refine hrun (Pool.release_of_none hslot) ⟨⟨_, rfl⟩, hb.setPool (le_refl _) ?_ ?_ ?_⟩
    all_goals
      intro hfresh
      obtain ⟨s, hs⟩ := exists_slot_of_node_mem (hb.token_mem hfresh)
      rw [hs] at hslot
      cases hslot
  · by_cases howners : s.owners ≤ 1
    · have ha : (Pooled.pool w).get? r = some s.value := by simp [Pool.get?, hslot]
      exact hrun (Pool.release_of_last hslot howners) ⟨⟨_, rfl⟩, ha, hb.taken hslot howners⟩
    · exact hrun (Pool.release_of_others hslot howners) ⟨⟨_, rfl⟩, hb.spared hslot howners⟩

end Objects

/-! ## Owners -/

/-- A type whose objects can be taken apart. -/
class Interred (α : Type) [Owned α] [Traced α] : Prop where
  runs_discard {σ : Type} [GraphicsDevice σ] {g : Guard σ} {ext : Multiset Node} {w : World σ}
    {E : World σ → Prop} {a : α}
    (hb : Buries g ((Traced.body a).nodes + Traced.others a + ext) (Traced.body a) w) :
    Runs (Owned.discard a) w (fun _ => Owns g ext) E

section Owners

variable {α : Type} [Owned α] [Traced α] [Housed α] {g : Guard σ} {ext : Multiset Node}
  {air : Body} {left : Multiset Native} {w : World σ} {E : World σ → Prop}

theorem runs_release [Interred α] {r : Ref α} (hb : Owns g (Traced.node r ::ₘ ext) w) :
    Runs (release r) w (fun _ => Owns g ext) E := by
  refine Runs.bind (runs_leave hb) ?_
  rintro (_ | a) w' ⟨-, hb'⟩
  · exact Runs.pure hb'
  · exact Interred.runs_discard hb'.2

theorem runs_releaseAll [Interred α] {rs : List (Ref α)}
    (hb : Owns g (↑(rs.map Traced.node) + ext) w) :
    Runs (releaseAll rs) w (fun _ => Owns g ext) E := by
  induction rs generalizing w with
  | nil => exact Runs.pure (by simpa using hb)
  | cons r rest ih =>
      rw [List.map_cons, ← Multiset.cons_coe, Multiset.cons_add] at hb
      exact Runs.bind (runs_release hb) fun _ _ hb' => ih hb'

theorem runs_releaseOption [Interred α] {r : Option (Ref α)}
    (hb : Owns g (↑(r.toList.map Traced.node) + ext) w) :
    Runs (releaseOption r) w (fun _ => Owns g ext) E :=
  runs_releaseAll hb

/-- Becoming an owner of several objects, each of which has an owner already. -/
theorem runs_holdAll {rs : List (Ref α)} (hb : Books g ext air left w)
    (hrs : ∀ r ∈ rs, Traced.node r ∈ g.tokens + ext) :
    Runs (holdAll rs) w (fun _ => Books g (↑(rs.map Traced.node) + ext) air left) E := by
  induction rs generalizing w ext with
  | nil => exact Runs.pure (by simpa using hb)
  | cons r rest ih =>
      refine Runs.bind (runs_hold hb (hb.mem_nodes (hrs r List.mem_cons_self))) ?_
      rintro - w' ⟨-, hb'⟩
      refine (ih hb' fun r' hr' => ?_).imp fun _ _ h => ?_
      · have := hrs r' (List.mem_cons_of_mem _ hr')
        rw [Multiset.add_cons]
        exact Multiset.mem_cons_of_mem this
      · rw [List.map_cons, ← Multiset.cons_coe, Multiset.cons_add, ← Multiset.add_cons]
        exact h

end Owners

end RenderKit
