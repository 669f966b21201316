import RenderKit.Proofs.OpenGL.Chronicle
import RenderKit.Proofs.OpenGL.History
import RenderKit.Proofs.OpenGL.Reference
import RenderKit.Proofs.OpenGL.Vocabulary

set_option autoImplicit false

/-! # Nothing is left behind

Shaders, programs and framebuffers are made first and looked at afterwards. If they turn out to be
of no use they are deleted, once, and nothing else is deleted on the way. If they are of use they
are all that is left: what a program was linked from is not attached to it any more, and what was
bound before is bound again. This is so whatever the driver answers, as long as it names new objects
by new names and knows what is bound. -/

namespace RenderKit

/-! ## Events -/

namespace GlEvent

variable {events body : List GlEvent} {g : GlContext} {given : List Native} {object : GlObject}
  {kind : ObjectKind} {uses : List ShaderUse} {use : ShaderUse} {name program : GlName}

/-- Whatever is made among some events was not there, and is given away or deleted, and that once.
    No other shaders are attached than before, and none to what was made. -/
structure Settled (g : GlContext) (events : List GlEvent) (given : List Native) : Prop where
  made : made events = deleted events ++ given
  once : (GlEvent.made events).Nodup
  new : ∀ x ∈ GlEvent.made events, x ∉ g.objects
  attached : ∀ uses, ∀ use ∈ attached uses events,
    use ∈ uses ∧ (⟨.program, use.program⟩ : Native) ∉ GlEvent.made events

theorem settled_nil : Settled g [] [] :=
  ⟨rfl, .nil, fun _ h => absurd h List.not_mem_nil, fun _ _ h => ⟨h, List.not_mem_nil⟩⟩

/-- Nothing is attached to a program that was only just made. -/
theorem mem_attachedAfter_create
    (huse : use ∈ attachedAfter uses (.query (.create object) name)) :
    use ∈ uses ∧ (⟨.program, use.program⟩ : Native) ≠ ⟨object.kind, name⟩ := by
  cases object with
  | program =>
      obtain ⟨huse, hne⟩ := List.mem_filter.mp huse
      refine ⟨huse, fun heq => ?_⟩
      simp [(Native.mk.inj heq).2] at hne
  | _ => exact ⟨huse, by simp [GlObject.kind]⟩

theorem made?_create (hname : name ≠ 0) :
    made? (.query (.create object) name) = some ⟨object.kind, name⟩ :=
  if_neg hname

theorem settled_create (hname : name ≠ 0) (hnew : (⟨object.kind, name⟩ : Native) ∉ g.objects) :
    Settled g [.query (.create object) name] [⟨object.kind, name⟩] := by
  have hmade : GlEvent.made [.query (.create object) name] = [⟨object.kind, name⟩] :=
    List.filterMap_cons_some (made?_create hname)
  refine ⟨hmade, ?_, ?_, fun uses use huse => ?_⟩
  all_goals rw [hmade]
  · exact List.nodup_singleton _
  · exact List.forall_mem_singleton.mpr hnew
  · rw [List.mem_singleton]
    exact mem_attachedAfter_create huse

/-- Nothing can be made. -/
theorem settled_refused : Settled g [.query (.create object) (0 : GlName)] [] :=
  ⟨rfl, .nil, fun _ h => absurd h List.not_mem_nil,
    fun _ _ h => ⟨(mem_attachedAfter_create h).1, List.not_mem_nil⟩⟩

/-- What was given away is deleted instead. -/
theorem Settled.undo (h : Settled g events [⟨kind, name⟩]) :
    Settled g (events ++ [.command (.delete kind name)]) [] := by
  have hmade : GlEvent.made (events ++ [.command (.delete kind name)]) = GlEvent.made events := by
    rw [made_append]
    exact List.append_nil _
  refine ⟨?_, ?_, ?_, fun uses use huse => ?_⟩
  all_goals rw [hmade]
  · rw [h.made, deleted_append, List.append_nil]
    rfl
  · exact h.once
  · exact h.new
  · rw [attached_append] at huse
    exact h.attached uses use (attachedAfter_subset (by simp) huse)

/-- Events that come in between. -/
structure Incidental (body : List GlEvent) : Prop where
  made : made body = []
  deleted : deleted body = []
  attached : ∀ uses, attached uses body ⊆ uses

theorem Settled.between (h : Settled g events given) (hbody : Incidental body) :
    Settled g (events ++ body) given := by
  have hmade : GlEvent.made (events ++ body) = GlEvent.made events := by
    rw [made_append, hbody.made, List.append_nil]
  refine ⟨?_, ?_, ?_, fun uses use huse => ?_⟩
  all_goals rw [hmade]
  · rw [deleted_append, hbody.deleted, List.append_nil]
    exact h.made
  · exact h.once
  · exact h.new
  · rw [attached_append] at huse
    exact h.attached uses use (hbody.attached _ huse)

theorem incidental_of_isIdle (h : ∀ e ∈ body, e.isIdle) : Incidental body where
  made := List.filterMap_eq_nil_iff.mpr fun e he => made?_of_isIdle (h e he)
  deleted := List.filterMap_eq_nil_iff.mpr fun e he => deleted?_of_isIdle (h e he)
  attached := by
    induction body with
    | nil => exact fun _ _ h => h
    | cons e rest ih =>
        obtain ⟨he, hrest⟩ := List.forall_mem_cons.mp h
        intro uses
        show GlEvent.attached (attachedAfter uses e) rest ⊆ uses
        rw [attachedAfter_of_isIdle he]
        exact ih hrest uses

theorem incidental_singleton {e : GlEvent} (h : e.isIdle) : Incidental [e] :=
  incidental_of_isIdle (List.forall_mem_singleton.mpr h)

/-! ### Shaders that come and go -/

def attach (program shader : GlName) : GlEvent := .command (.attachShader program shader)

def detach (program shader : GlName) : GlEvent := .command (.detachShader program shader)

theorem mem_attached_attach {shaders : List GlName} :
    use ∈ attached uses (shaders.map (attach program)) ↔
      use ∈ uses ∨ use.program = program ∧ use.shader ∈ shaders := by
  induction shaders generalizing uses with
  | nil => simp [attached]
  | cons s rest ih =>
      show use ∈ attached (⟨program, s⟩ :: uses) (rest.map (attach program)) ↔ _
      have hfirst : use = ⟨program, s⟩ ↔ use.program = program ∧ use.shader = s := by
        cases use
        simp
      rw [ih, List.mem_cons, List.mem_cons, hfirst, and_or_left, or_assoc, or_left_comm]

theorem mem_attached_detach {shaders : List GlName} :
    use ∈ attached uses (shaders.map (detach program)) ↔
      use ∈ uses ∧ ¬(use.program = program ∧ use.shader ∈ shaders) := by
  induction shaders generalizing uses with
  | nil => simp [attached]
  | cons s rest ih =>
      show use ∈ attached (uses.filter (· ≠ ⟨program, s⟩)) (rest.map (detach program)) ↔ _
      have hfirst : decide (use ≠ ⟨program, s⟩) = true ↔
          ¬(use.program = program ∧ use.shader = s) := by
        rw [decide_eq_true_iff, ne_eq, ShaderUse.mk.injEq]
      rw [ih, List.mem_filter, List.mem_cons, hfirst, and_or_left, not_or, and_assoc]

/-- What is attached to link a program is detached again. -/
theorem incidental_link {shaders : List GlName} :
    Incidental (shaders.map (attach program) ++ .command (.linkProgram program) ::
      shaders.map (detach program)) := by
  have hquiet : ∀ f : GlName → GlEvent, (∀ s, (f s).made? = none ∧ (f s).deleted? = none) →
      GlEvent.made (shaders.map f) = [] ∧ GlEvent.deleted (shaders.map f) = [] := by
    intro f hf
    constructor
    · exact List.filterMap_eq_nil_iff.mpr (List.forall_mem_map.mpr fun s _ => (hf s).1)
    · exact List.filterMap_eq_nil_iff.mpr (List.forall_mem_map.mpr fun s _ => (hf s).2)
  obtain ⟨hattach, hattach'⟩ := hquiet (attach program) fun _ => ⟨rfl, rfl⟩
  obtain ⟨hdetach, hdetach'⟩ := hquiet (detach program) fun _ => ⟨rfl, rfl⟩
  refine ⟨?_, ?_, fun uses use huse => ?_⟩
  · rw [made_append, hattach]
    exact hdetach
  · rw [deleted_append, hattach']
    exact hdetach'
  · rw [attached_append] at huse
    obtain ⟨huse, hleft⟩ := mem_attached_detach.mp huse
    exact (mem_attached_attach.mp huse).resolve_right hleft

end GlEvent

namespace GlDevice

section Logs

variable {δ : Type} [GlDriver δ] [Chronicling δ] [Conforming δ] {w w₁ w₂ : Work δ}
  {given : List Native} {E : Work δ → Prop}

/-- What was made since some work began is given away or deleted. -/
def Work.Settles (w w' : Work δ) (given : List Native) : Prop :=
  ∃ events, w'.events = w.events ++ events ∧ GlEvent.Settled w.context events given

theorem Work.Settles.between {body : List GlEvent} (h : w.Settles w₁ given)
    (hbody : GlEvent.Incidental body) (h₂ : w₂.events = w₁.events ++ body) :
    w.Settles w₂ given := by
  obtain ⟨events, h₁, hsettled⟩ := h
  exact ⟨events ++ body, by rw [h₂, h₁, List.append_assoc], hsettled.between hbody⟩

theorem Work.Settles.undo {kind : ObjectKind} {name : GlName} (h : w.Settles w₁ [⟨kind, name⟩])
    (h₂ : w₂.events = w₁.events ++ [.command (.delete kind name)]) : w.Settles w₂ [] := by
  obtain ⟨events, h₁, hsettled⟩ := h
  exact ⟨_, by rw [h₂, h₁, List.append_assoc], hsettled.undo⟩

theorem Work.Settles.attached_subset (h : w.Settles w₁ given) :
    GlEvent.attached [] w₁.events ⊆ GlEvent.attached [] w.events := by
  obtain ⟨events, h₁, hsettled⟩ := h
  rw [h₁, GlEvent.attached_append]
  exact fun use huse => (hsettled.attached _ use huse).1

theorem settles_create {object : GlObject} {what : String} :
    Runs (create object.kind object what) w (fun h w' => w.Settles w' [h.native])
      (fun w' => w.Settles w' []) := by
  refine Runs.bind ((logs_query (E := fun _ => True)).and runs_query) ?_
  rintro (name : GlName) w₁ ⟨h₁, hagrees, -⟩
  split
  · rename_i h hname
    obtain rfl : h.raw = name := raw_of_ofRaw? hname
    exact Runs.pure ⟨_, h₁, GlEvent.settled_create h.raw_ne_zero (hagrees h.raw rfl h.raw_ne_zero)⟩
  · rename_i hname
    obtain rfl : name = 0 := Handle.ofRaw?_eq_none_iff.mp hname
    exact runs_reject ⟨_, h₁, GlEvent.settled_refused⟩

theorem settles_compileShader {stage : Stage} {source : String} :
    Runs (compileShader stage source) w (fun h w' => w.Settles w' [h.native])
      (fun w' => w.Settles w' []) := by
  refine Runs.bind settles_create fun h w₁ h₁ => ?_
  refine Runs.bind logs_tellAll fun _ w₂ h₂ => ?_
  refine Runs.bind logs_query fun failure w₃ h₃ => ?_
  have hmade : w.Settles w₃ [h.native] :=
    (h₁.between (GlEvent.incidental_of_isIdle (by simp [GlEvent.isIdle])) h₂).between
      (GlEvent.incidental_singleton rfl) h₃
  rcases (failure : Option String) with _ | info
  · exact Runs.bind_note (Runs.pure hmade)
  · exact Runs.bind logs_tell fun _ w₄ h₄ => Runs.bind_reject (hmade.undo h₄)

theorem settles_linkProgram {shaders : List ShaderHandle} :
    Runs (linkProgram shaders) w (fun h w' => w.Settles w' [h.native])
      (fun w' => w.Settles w' []) := by
  refine Runs.bind settles_create fun h w₁ h₁ => ?_
  refine Runs.bind logs_tellAll fun _ w₂ h₂ => ?_
  refine Runs.bind logs_tell fun _ w₃ h₃ => ?_
  refine Runs.bind logs_tellAll fun _ w₄ h₄ => ?_
  refine Runs.bind logs_query fun failure w₅ h₅ => ?_
  have hlink : w₄.events = w₁.events ++ ((shaders.map Handle.raw).map (GlEvent.attach h.raw) ++
      .command (.linkProgram h.raw) :: (shaders.map Handle.raw).map (GlEvent.detach h.raw)) := by
    rw [h₄, h₃, h₂]
    simp [GlEvent.attach, GlEvent.detach, Function.comp_def]
  have hmade : w.Settles w₅ [h.native] :=
    (h₁.between GlEvent.incidental_link hlink).between (GlEvent.incidental_singleton rfl) h₅
  rcases (failure : Option String) with _ | info
  · exact Runs.bind_note (Runs.pure hmade)
  · exact Runs.bind logs_tell fun _ w₆ h₆ => Runs.bind_reject (hmade.undo h₆)

theorem isIdle_framebufferCommands {colors : List TextureHandle}
    {depth : Option (TextureHandle × AttachmentSlot)} :
    ∀ e ∈ (framebufferCommands colors depth).map GlEvent.command, e.isIdle := by
  intro e he
  obtain ⟨c, hc, rfl⟩ := List.mem_map.mp he
  simp only [framebufferCommands, List.mem_append, List.mem_map] at hc
  rcases hc with (⟨_, -, rfl⟩ | ⟨_, -, rfl⟩) | hc
  · rfl
  · rfl
  · split at hc
    · simp only [List.mem_cons, List.not_mem_nil, or_false] at hc
      rcases hc with rfl | rfl <;> rfl
    · rw [List.mem_singleton.mp hc]
      rfl

theorem settles_createFramebuffer {limit : UInt32} {colors : List TextureHandle}
    {depth : Option (TextureHandle × AttachmentPoint)} :
    Runs (createFramebuffer limit colors depth) w (fun h w' => w.Settles w' [h.native])
      (fun w' => w.Settles w' []) := by
  have hnothing : ∀ w' : Work δ, w'.events = w.events → w.Settles w' [] := fun w' h =>
    ⟨[], by rw [h, List.append_nil], GlEvent.settled_nil⟩
  unfold createFramebuffer
  extract_lets make check
  have hmake : ∀ depthSlot, Runs (make depthSlot) w (fun h w' => w.Settles w' [h.native])
      (fun w' => w.Settles w' []) := by
    intro depthSlot
    refine Runs.bind settles_create fun h w₁ h₁ => ?_
    refine Runs.bind logs_query fun previous w₂ h₂ => ?_
    refine Runs.bind logs_tell fun _ w₃ h₃ => ?_
    refine Runs.bind logs_tellAll fun _ w₄ h₄ => ?_
    refine Runs.bind logs_query fun status w₅ h₅ => ?_
    refine Runs.bind logs_tell fun _ w₆ h₆ => ?_
    have hbound : w.Settles w₃ [h.native] :=
      (h₁.between (GlEvent.incidental_singleton rfl) h₂).between
        (GlEvent.incidental_singleton rfl) h₃
    have hfilled : w.Settles w₄ [h.native] :=
      hbound.between (GlEvent.incidental_of_isIdle isIdle_framebufferCommands) h₄
    have hmade : w.Settles w₆ [h.native] :=
      (hfilled.between (GlEvent.incidental_singleton rfl) h₅).between
        (GlEvent.incidental_singleton rfl) h₆
    split
    · exact Runs.bind logs_tell fun _ w₇ h₇ => Runs.bind_reject (hmade.undo h₇)
    · exact Runs.bind_note (Runs.pure hmade)
  refine Runs.reject_if (hnothing _ rfl) fun _ => ?_
  unfold check
  split
  · exact hmake _
  · split
    · exact hmake _
    · exact Runs.bind_reject (hnothing _ rfl)

end Logs

/-! ## Answers -/

section Whole

variable {δ : Type} [GlDriver δ] {α β : Type} {w : Work δ}

/-- A task comes to a value or an error, and is never cut off. -/
def Whole (t : Task δ α) : Prop := ∀ w, (t.run.run w).1 ≠ .error .abort

omit [GlDriver δ] in
theorem whole_pure (a : α) : Whole (pure a : Task δ α) := fun _ => nofun

omit [GlDriver δ] in
theorem Whole.bind {t : Task δ α} {f : α → Task δ β} (ht : Whole t) (hf : ∀ a, Whole (f a)) :
    Whole (t >>= f) := by
  intro w
  have hw := ht w
  rw [run_bind]
  rcases hrun : t.run.run w with ⟨e | a, w₁⟩
  · rw [hrun] at hw
    exact fun hcut => hw (by cases hcut; rfl)
  · exact hf a w₁

omit [GlDriver δ] in
theorem whole_note (severity : Severity) (source message : String) :
    Whole (note severity source message : Task δ Unit) :=
  fun _ => nofun

omit [GlDriver δ] in
theorem whole_reject {c : Type} [Cause c] (cause : c) : Whole (reject cause : Task δ α) :=
  (whole_note _ _ _).bind fun _ => fun _ => nofun

theorem whole_tell (c : GlCommand) : Whole (tell c : Task δ Unit) := fun _ => nofun

theorem whole_tellAll (cs : List GlCommand) : Whole (tellAll cs : Task δ Unit) := by
  induction cs with
  | nil => exact whole_pure _
  | cons c rest ih => exact (whole_tell c).bind fun _ => ih

theorem whole_query (q : GlQuery) : Whole (query q : Task δ q.Reply) := fun _ => nofun

theorem whole_create (kind : ObjectKind) (object : GlObject) (what : String) :
    Whole (create kind object what : Task δ (Handle kind)) := by
  refine (whole_query _).bind fun name => ?_
  split
  · exact whole_pure _
  · exact whole_reject _

theorem whole_compileShader (stage : Stage) (source : String) :
    Whole (compileShader stage source : Task δ ShaderHandle) := by
  refine (whole_create _ _ _).bind fun h => (whole_tellAll _).bind fun _ => ?_
  refine (whole_query _).bind fun failure => ?_
  rcases (failure : Option String) with _ | info
  · exact (whole_note _ _ _).bind fun _ => whole_pure _
  · exact (whole_tell _).bind fun _ => (whole_reject _).bind fun _ =>
      (whole_note _ _ _).bind fun _ => whole_pure _

theorem whole_linkProgram (shaders : List ShaderHandle) :
    Whole (linkProgram shaders : Task δ ProgramHandle) := by
  refine (whole_create _ _ _).bind fun h => (whole_tellAll _).bind fun _ => ?_
  refine (whole_tell _).bind fun _ => (whole_tellAll _).bind fun _ => ?_
  refine (whole_query _).bind fun failure => ?_
  rcases (failure : Option String) with _ | info
  · exact (whole_note _ _ _).bind fun _ => whole_pure _
  · exact (whole_tell _).bind fun _ => (whole_reject _).bind fun _ =>
      (whole_note _ _ _).bind fun _ => whole_pure _

theorem whole_createFramebuffer (limit : UInt32) (colors : List TextureHandle)
    (depth : Option (TextureHandle × AttachmentPoint)) :
    Whole (createFramebuffer limit colors depth : Task δ FramebufferHandle) := by
  unfold createFramebuffer
  extract_lets make check
  have hmake : ∀ depthSlot, Whole (make depthSlot) := by
    intro depthSlot
    refine (whole_create _ _ _).bind fun h => (whole_query _).bind fun previous => ?_
    refine (whole_tell _).bind fun _ => (whole_tellAll _).bind fun _ => ?_
    refine (whole_query _).bind fun status => (whole_tell _).bind fun _ => ?_
    split
    · exact (whole_tell _).bind fun _ => (whole_reject _).bind fun _ =>
        (whole_note _ _ _).bind fun _ => whole_pure _
    · exact (whole_note _ _ _).bind fun _ => whole_pure _
  have hcheck : ∀ u, Whole (check u) := by
    intro u
    unfold check
    split
    · exact hmake none
    · split
      · exact hmake _
      · exact (whole_reject _).bind fun slot => hmake slot
  split
  · exact (whole_reject _).bind hcheck
  · exact hcheck ()

end Whole

section Devices

/-- What a device does for a request whose task comes to a reply. -/
theorem served_of_run {δ : Type} [GlDriver δ] {d : GlDevice δ} {r : Request} {reply : r.Reply}
    {w : Work δ} {P : GlDevice δ → Prop}
    (h : (serve d.capabilities r).run.run ⟨d.driver, #[]⟩ = (.ok reply, w))
    (hw : P { d with driver := w.driver }) :
    (GlDevice.perform r d).reply = some reply ∧ P (GlDevice.perform r d).state := by
  rw [perform_of_run h]
  exact ⟨rfl, hw⟩

variable {δ : Type} [GlDriver δ] [Chronicling δ] [Conforming δ] {kind : ObjectKind}
  {d : GlDevice δ}

/-- What a device told its driver and asked it so far. -/
def events (d : GlDevice δ) : List GlEvent := Chronicling.events d.driver

/-- The shaders that are attached to programs. -/
def attachedShaders (d : GlDevice δ) : List ShaderUse := GlEvent.attached [] d.events

/-- What comes with an outcome. -/
def given : Except Error (Handle kind) → List Native
  | .ok h => [h.native]
  | .error _ => []

/-- A request that makes one object leaves nothing else behind, and nothing at all if it fails. -/
structure Tidy (d d' : GlDevice δ) (outcome : Except Error (Handle kind)) : Prop where
  /-- There is what was there, and what is given back. -/
  objects : d'.context.objects = given outcome ++ d.context.objects
  /-- Everything is bound that was bound. -/
  bindings : d'.context.bindings = d.context.bindings
  /-- Whatever was made on the way is given back or deleted, once, and is all that is deleted. -/
  events : ∃ events, d'.events = d.events ++ events ∧
    GlEvent.made events = GlEvent.deleted events ++ given outcome ∧
    (GlEvent.made events).Nodup ∧ (∀ x ∈ GlEvent.made events, x ∉ d.context.objects) ∧
    ∀ x ∈ GlEvent.deleted events, x ∉ d.context.objects
  /-- No shader comes to be attached, and none is attached to what is given back. -/
  attached : ∀ use ∈ d'.attachedShaders,
    use ∈ d.attachedShaders ∧ (⟨.program, use.program⟩ : Native) ∉ given outcome

/-- The work of a task that was settled is tidy. -/
theorem tidy_of_settles {w : Work δ} {outcome : Except Error (Handle kind)}
    (hobjects : w.context.objects = given outcome ++ d.context.objects)
    (hbindings : w.context.bindings = d.context.bindings)
    (hsettles : Work.Settles ⟨d.driver, #[]⟩ w (given outcome)) :
    Tidy d { d with driver := w.driver } outcome := by
  obtain ⟨events, hevents, hsettled⟩ := hsettles
  have hevents : { d with driver := w.driver }.events = d.events ++ events := hevents
  refine ⟨hobjects, hbindings, ⟨events, hevents, hsettled.made, hsettled.once, hsettled.new,
    fun x hx => hsettled.new x ?_⟩, fun use huse => ?_⟩
  · rw [hsettled.made]
    exact List.mem_append_left _ hx
  rw [attachedShaders, hevents, GlEvent.attached_append] at huse
  obtain ⟨huse, hnot⟩ := hsettled.attached _ use huse
  refine ⟨huse, fun hgiven => hnot ?_⟩
  rw [hsettled.made]
  exact List.mem_append_right _ hgiven

/-- A task that puts back what was bound and settles what it makes is tidy, whatever it comes to. -/
theorem tidy_attempt {t : Task δ (Handle kind)} (hwhole : Whole t)
    (hcontext : Runs t ⟨d.driver, #[]⟩
      (fun h w => w.context.objects = h.native :: d.context.objects ∧
        w.context.bindings = d.context.bindings)
      (fun w => w.context = d.context))
    (hsettles : Runs t ⟨d.driver, #[]⟩ (fun h w => Work.Settles ⟨d.driver, #[]⟩ w [h.native])
      (fun w => Work.Settles ⟨d.driver, #[]⟩ w [])) :
    ∃ outcome w, (attempt t).run.run ⟨d.driver, #[]⟩ = (.ok outcome, w) ∧
      Tidy d { d with driver := w.driver } outcome := by
  have hnever := hwhole ⟨d.driver, #[]⟩
  rcases hrun : t.run.run ⟨d.driver, #[]⟩ with ⟨(e | _) | h, w⟩
  · have hsame : w.context = d.context := hcontext.of_error hrun nofun
    have hsettled := hsettles.of_error hrun nofun
    refine ⟨.error e, w, run_attempt_error hrun, tidy_of_settles ?_ ?_ hsettled⟩
    · rw [hsame]
      rfl
    · rw [hsame]
  · exact absurd (congrArg Prod.fst hrun) hnever
  · obtain ⟨hobjects, hbindings⟩ := hcontext.of_ok hrun
    exact ⟨.ok h, w, run_attempt hrun, tidy_of_settles hobjects hbindings (hsettles.of_ok hrun)⟩

/-- Requests to compile, to link and to make a framebuffer are always answered, whatever the driver
    says in between, and they are tidy. -/
theorem tidy_requests (hregular : d.context.Regular) :
    (∀ stage source, ∃ outcome : Except Error ShaderHandle,
      (GlDevice.perform (.compileShader stage source) d).reply = some outcome ∧
        Tidy d (GlDevice.perform (.compileShader stage source) d).state outcome) ∧
    (∀ shaders, ∃ outcome : Except Error ProgramHandle,
      (GlDevice.perform (.linkProgram shaders) d).reply = some outcome ∧
        Tidy d (GlDevice.perform (.linkProgram shaders) d).state outcome) ∧
    ∀ colors depth, ∃ outcome : Except Error FramebufferHandle,
      (GlDevice.perform (.createFramebuffer colors depth) d).reply = some outcome ∧
        Tidy d (GlDevice.perform (.createFramebuffer colors depth) d).state outcome := by
  have hmakes : ∀ {kind : ObjectKind} (h : Handle kind) (w : Work δ), Makes d.context h w →
      w.context.objects = h.native :: d.context.objects ∧
        w.context.bindings = d.context.bindings := by
    rintro kind h w ⟨-, hw⟩
    rw [hw]
    exact ⟨rfl, rfl⟩
  have hstart : Work.context ⟨d.driver, #[]⟩ = d.context := rfl
  refine ⟨fun stage source => ?_, fun shaders => ?_, fun colors depth => ?_⟩
  · obtain ⟨outcome, w, hrun, htidy⟩ := tidy_attempt (whole_compileShader stage source)
      ((runs_compileShader hstart hregular).imp hmakes) settles_compileShader
    exact ⟨outcome, served_of_run (r := .compileShader stage source)
      (P := fun d' => Tidy d d' outcome) hrun htidy⟩
  · obtain ⟨outcome, w, hrun, htidy⟩ := tidy_attempt (whole_linkProgram shaders)
      ((runs_linkProgram hstart hregular).imp hmakes) settles_linkProgram
    exact ⟨outcome, served_of_run (r := .linkProgram shaders)
      (P := fun d' => Tidy d d' outcome) hrun htidy⟩
  · have hputs : ∀ (h : FramebufferHandle) (w : Work δ),
        h.native ∉ d.context.objects ∧ w.context = withFramebuffer h colors.length d.context →
        w.context.objects = h.native :: d.context.objects ∧
          w.context.bindings = d.context.bindings := by
      rintro h w ⟨-, hw⟩
      rw [hw]
      exact ⟨rfl, rfl⟩
    obtain ⟨outcome, w, hrun, htidy⟩ := tidy_attempt
      (whole_createFramebuffer d.capabilities.maxColorAttachments colors depth)
      ((runs_createFramebuffer hstart hregular).imp hputs) settles_createFramebuffer
    exact ⟨outcome, served_of_run (r := .createFramebuffer colors depth)
      (P := fun d' => Tidy d d' outcome) hrun htidy⟩

/-- Only what links a program attaches shaders. -/
theorem exists_of_mayTell_attach {r : Request} {program shader : GlName}
    (h : r.mayTell (.attachShader program shader)) : ∃ shaders, r = .linkProgram shaders := by
  cases r with
  | linkProgram shaders => exact ⟨shaders, rfl⟩
  | _ => cases h

/-- So no request at all leaves a shader attached. -/
theorem attached_perform {r : Request} {reply : r.Reply}
    (hreply : (GlDevice.perform r d).reply = some reply) :
    (GlDevice.perform r d).state.attachedShaders ⊆ d.attachedShaders := by
  let Bounded (driver : δ) : Prop :=
    GlEvent.attached [] (Chronicling.events driver) ⊆ d.attachedShaders
  suffices hserve : Runs (serve d.capabilities r) ⟨d.driver, #[]⟩ (fun _ w => Bounded w.driver)
      (fun w => Bounded w.driver) from of_perform (Q := fun _ => Bounded) hserve hreply
  by_cases hlink : ∃ shaders, r = .linkProgram shaders
  · obtain ⟨shaders, rfl⟩ := hlink
    refine (runs_attempt settles_linkProgram).imp ?_
    rintro (e | h) w hw
    · exact hw.attached_subset
    · exact hw.attached_subset
  · refine says_serve r Bounded ⟨fun c driver hc hbounded => ?_, fun q driver hbounded => ?_⟩ _
      (List.Subset.refl _)
    · refine List.Subset.trans ?_ hbounded
      rw [Chronicling.events_run, GlEvent.attached_append]
      refine GlEvent.attachedAfter_subset fun program shader hattach => hlink ?_
      cases hattach
      exact exists_of_mayTell_attach hc
    · refine List.Subset.trans ?_ hbounded
      rw [Chronicling.events_ask, GlEvent.attached_append]
      exact GlEvent.attachedAfter_subset fun _ _ => nofun

end Devices

/-- The reference device, with a chronicle. -/
def chronicled : GlDevice (Chronicled GlReference) :=
  { driver := ⟨.new, []⟩
    version := GlDevice.reference.version
    capabilities := GlDevice.reference.capabilities
    debugOutput := false
    counts := .zero }

/-- A program is linked from a shader. -/
def linked : Outcome (GlDevice (Chronicled GlReference)) (.linkProgram [⟨7, by decide⟩]) :=
  GlDevice.perform _ chronicled

/-- There is the program then, and the shader is not attached to it. -/
theorem tidy_requests_reference :
    ∃ h : ProgramHandle, linked.reply = some (.ok h) ∧ linked.state.context.objects = [h.native] ∧
      linked.state.attachedShaders = [] := by
  have hregular : chronicled.context.Regular := (mirrors_nil rfl).regular
  obtain ⟨-, hlink, -⟩ := tidy_requests hregular
  obtain ⟨outcome, hreply, htidy⟩ := hlink [⟨7, by decide⟩]
  have hok : linked.reply.map (fun o : Except Error ProgramHandle => o.isOk) = some true := by
    decide +kernel
  rcases outcome with e | h
  · rw [linked, hreply] at hok
    cases hok
  · refine ⟨h, hreply, htidy.objects, ?_⟩
    exact List.eq_nil_iff_forall_not_mem.mpr fun use huse => nomatch (htidy.attached use huse).1

end GlDevice

end RenderKit
