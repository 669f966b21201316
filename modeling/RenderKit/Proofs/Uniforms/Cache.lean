import RenderKit.Command.Buffer
import RenderKit.Proofs.Uniforms.Answers
import RenderKit.Proofs.Uniforms.Locating

set_option autoImplicit false

/-! # Locations that are remembered

A program remembers what it was told of a name, and asks only for names of which it was told
nothing. If the device tells locations by name, nobody notices: every use of the program comes to
what it would come to if the device was asked each time. A look-up that is cut off is not
remembered, and changes nothing for those after it. -/

namespace RenderKit

/-! ## What was told -/

/-- The location of a program that a call told, with its name. -/
def Call.told? (program : ProgramHandle) (c : Call) : Option (String × Int32) :=
  match c with
  | ⟨.uniformLocation other name, some (location : Int32)⟩ =>
      if other = program then some (name, location) else none
  | _ => none

/-- A look-up of a program that was cut off. -/
def Call.isCutOff (program : ProgramHandle) (c : Call) : Bool :=
  match c with
  | ⟨.uniformLocation other _, reply⟩ => other = program && reply.isNone
  | _ => false

namespace Calls

variable {program : ProgramHandle} {answer : String → Option Int32} {calls more : List Call}
  {c : Call} {name : String}

/-- The locations of a program that were told by calls, one after the other. -/
def locations (program : ProgramHandle) (calls : List Call) : List (String × Int32) :=
  calls.filterMap (Call.told? program)

/-- The names of which a location was told, which may be that there is none. -/
def known (program : ProgramHandle) (calls : List Call) : List String :=
  (locations program calls).map (·.1)

/-- A program is asked for names of which nothing was told so far, and the device tells what it has
    to tell. -/
def AskedOnce (program : ProgramHandle) (answer : String → Option Int32) : List Call → Prop :=
  Stepwise fun before c => ∀ name, c.request = .uniformLocation program name →
    c = ⟨.uniformLocation program name, answer name⟩ ∧ name ∉ known program before

theorem known_append :
    known program (calls ++ more) = known program calls ++ known program more := by
  simp [known, locations]

theorem locations_concat :
    locations program (calls ++ [c]) = locations program calls ++ (c.told? program).toList := by
  cases h : c.told? program <;> simp [locations, h]

theorem mem_known_iff :
    name ∈ known program calls ↔ ∃ location, (name, location) ∈ locations program calls := by
  simp [known]

theorem told?_of_ne (h : ∀ name, c.request ≠ .uniformLocation program name) :
    c.told? program = none := by
  unfold Call.told?
  split
  · rename_i other name location
    refine if_neg ?_
    rintro rfl
    exact h name rfl
  · rfl

theorem told?_lookUp (reply : Option Int32) :
    Call.told? program ⟨.uniformLocation program name, reply⟩ =
      reply.map fun location => (name, location) := by
  cases reply with
  | none => rfl
  | some location => exact if_pos rfl

theorem isCutOff_lookUp (reply : Option Int32) :
    Call.isCutOff program ⟨.uniformLocation program name, reply⟩ = reply.isNone := by
  show (decide (program = program) && reply.isNone) = reply.isNone
  rw [decide_eq_true rfl, Bool.true_and]

theorem isCutOff_of_ne (h : ∀ name, c.request ≠ .uniformLocation program name) :
    c.isCutOff program = false := by
  unfold Call.isCutOff
  split
  · rename_i other name reply
    rw [decide_eq_false, Bool.false_and]
    rintro rfl
    exact h name rfl
  · rfl

theorem exists_of_told? {location : Int32} (h : c.told? program = some (name, location)) :
    c.request = .uniformLocation program name := by
  unfold Call.told? at h
  split at h
  · rename_i other asked told
    split at h
    · rename_i hother
      cases h
      rw [hother]
    · cases h
  · cases h

/-- What was told is what there was to tell. -/
theorem AskedOnce.answer_of_mem (h : AskedOnce program answer calls) {location : Int32}
    (hmem : (name, location) ∈ locations program calls) : answer name = some location := by
  obtain ⟨c, hc, htold⟩ := List.mem_filterMap.mp hmem
  obtain ⟨before, after, hsplit⟩ := List.append_of_mem hc
  obtain ⟨hcall, -⟩ := h before c after hsplit name (exists_of_told? htold)
  rw [hcall, told?_lookUp] at htold
  obtain ⟨told, hanswer, heq⟩ := Option.map_eq_some_iff.mp htold
  cases heq
  exact hanswer

/-- What is remembered under a name. -/
theorem AskedOnce.lookup_eq (h : AskedOnce program answer calls) (name : String) :
    (locations program calls).lookup name =
      if name ∈ known program calls then answer name else none := by
  cases hlookup : (locations program calls).lookup name with
  | some location =>
    obtain ⟨front, back, hsplit, -⟩ := List.lookup_eq_some_iff.mp hlookup
    have hmem : (name, location) ∈ locations program calls := by simp [hsplit]
    rw [if_pos (mem_known_iff.mpr ⟨location, hmem⟩), h.answer_of_mem hmem]
  | none =>
    rw [if_neg]
    intro hknown
    obtain ⟨location, hmem⟩ := mem_known_iff.mp hknown
    simpa using List.lookup_eq_none_iff.mp hlookup _ hmem

/-- A call that is no look-up. -/
theorem AskedOnce.concat_other (h : AskedOnce program answer calls)
    (hc : ∀ name, c.request ≠ .uniformLocation program name) :
    AskedOnce program answer (calls ++ [c]) :=
  Stepwise.concat_iff.mpr ⟨h, fun name hname => absurd hname (hc name)⟩

theorem AskedOnce.concat_lookUp (h : AskedOnce program answer calls)
    (hname : name ∉ known program calls) :
    AskedOnce program answer (calls ++ [⟨.uniformLocation program name, answer name⟩]) := by
  refine Stepwise.concat_iff.mpr ⟨h, ?_⟩
  rintro other hother
  cases hother
  exact ⟨rfl, hname⟩

end Calls

section Told

variable {p : Program} {calls : List Call}

/-- The program after some calls. It remembers what it was told, and its lock is poisoned if a
    look-up was cut off. -/
def Program.told (p : Program) (calls : List Call) : Program :=
  { p with
    cache :=
      { value := ⟨some p.handle, p.locations ++ Calls.locations p.handle calls⟩
        poisoned := p.cache.poisoned || calls.any (Call.isCutOff p.handle) } }

@[simp] theorem Program.remembered_told (calls : List Call) :
    (p.told calls).remembered = ⟨some p.handle, p.locations ++ Calls.locations p.handle calls⟩ := by
  rw [remembered, Locked.recover_eq]
  exact UniformCache.about_of_eq rfl

theorem Program.locations_told (calls : List Call) :
    (p.told calls).locations = p.locations ++ Calls.locations p.handle calls :=
  congrArg UniformCache.locations (remembered_told calls)

theorem Program.locations_blank (h : p.cache = ⟨.empty, false⟩) : p.locations = [] := by
  rw [locations, remembered, h]
  rfl

theorem Program.told_nil : p.told [] = p.settled := by
  have hkept : (⟨some p.handle, p.locations⟩ : UniformCache) = p.remembered := by
    rw [← p.program_remembered]
    rfl
  simp [told, settled, keep, Calls.locations, hkept]

/-- What is no look-up changes nothing. -/
theorem Program.told_other {c : Call} (hc : ∀ name, c.request ≠ .uniformLocation p.handle name) :
    p.told (calls ++ [c]) = p.told calls := by
  simp [told, Calls.locations_concat, Calls.told?_of_ne hc, Calls.isCutOff_of_ne hc]

/-- What a look-up tells is learned. If it is cut off, the lock is poisoned. -/
theorem Program.told_lookUp (name : String) (reply : Option Int32) :
    p.told (calls ++ [⟨.uniformLocation p.handle name, reply⟩]) =
      match reply with
      | some location => (p.told calls).learn name location
      | none => (p.told calls).poison := by
  unfold told
  rw [Calls.locations_concat, Calls.told?_lookUp, List.any_append, List.any_cons,
    Calls.isCutOff_lookUp]
  rcases reply with _ | location
  · simp [poison]
  · show _ = (p.told calls).keep ((p.told calls).remembered.put name location)
    rw [remembered_told]
    simp [told, keep, UniformCache.put]

end Told

/-! ## What a use comes to

Each use is told from what the device tells of names and from the names that are known before. -/

/-- What a reply becomes. A request without one is cut off. -/
def answered {α : Type} : Option α → Except Halt α
  | some a => .ok a
  | none => .error .abort

theorem answered_eq_ok_iff {α : Type} {reply : Option α} {a : α} :
    answered reply = .ok a ↔ reply = some a := by
  cases reply <;> simp [answered]

theorem answered_eq_error_iff {α : Type} {reply : Option α} {e : Halt} :
    answered reply = .error e ↔ reply = none ∧ e = .abort := by
  cases reply <;> simp [answered, eq_comm]

section Uses

variable (program : ProgramHandle) (answer : String → Option Int32)

/-- The device is asked for a name that is not known. -/
def lookUp (known : List String) (name : String) : List Call :=
  if name ∈ known then [] else [⟨.uniformLocation program name, answer name⟩]

/-- A uniform is set: it is looked up, and written if it has a location. -/
inductive Sets (known : List String) (name : String) (value : UniformValue) :
    List Call → Except Halt Bool → Prop where
  | untold : answer name = none →
      Sets known name value (lookUp program answer known name) (.error .abort)
  | nowhere {location : Int32} : answer name = some location → location < 0 →
      Sets known name value (lookUp program answer known name) (.ok false)
  | written {location : Int32} {reply : Option Unit} : answer name = some location →
      0 ≤ location →
      Sets known name value
        (lookUp program answer known name ++ [⟨.setUniform location value, reply⟩])
        (answered (reply.map fun _ => true))

/-- Uniforms are set one after the other, as far as the device goes along. -/
inductive SetsAll : List String → List (String × UniformValue) → List Call →
    Except Halt Unit → Prop where
  | nil {known : List String} : SetsAll known [] [] (.ok ())
  | cut {known : List String} {name : String} {value : UniformValue}
      {rest : List (String × UniformValue)} {calls : List Call} {e : Halt} :
      Sets program answer known name value calls (.error e) →
      SetsAll known ((name, value) :: rest) calls (.error e)
  | next {known : List String} {name : String} {value : UniformValue}
      {rest : List (String × UniformValue)} {calls more : List Call} {found : Bool}
      {outcome : Except Halt Unit} :
      Sets program answer known name value calls (.ok found) →
      SetsAll (known ++ Calls.known program calls) rest more outcome →
      SetsAll known ((name, value) :: rest) (calls ++ more) outcome

/-- Requests that put a texture or a sampler into a slot. -/
def Request.isBinding (r : Request) : Bool := r matches .bindTexture _ _ | .bindSampler _ _

/-- A material is applied: its program is used, its uniforms are set, and then textures and samplers
    are bound. -/
inductive Applies (known : List String) (uniforms : List (String × UniformValue)) :
    List Call → Except Halt Unit → Prop where
  | unused : Applies known uniforms [⟨.useProgram (some program), none⟩] (.error .abort)
  | cut {calls : List Call} {e : Halt} : SetsAll program answer known uniforms calls (.error e) →
      Applies known uniforms (⟨.useProgram (some program), some ()⟩ :: calls) (.error e)
  | applied {calls bound : List Call} {outcome : Except Halt Unit} :
      SetsAll program answer known uniforms calls (.ok ()) → (∀ c ∈ bound, c.request.isBinding) →
      Applies known uniforms (⟨.useProgram (some program), some ()⟩ :: (calls ++ bound)) outcome

end Uses

/-- The ways to use the uniforms of a program. -/
inductive UniformUse where
  | locate (name : String)
  | set (name : String) (value : UniformValue)
  /-- A material that has the program is applied. -/
  | apply (m : Material)
  /-- A command buffer that has the program sets a uniform. -/
  | command (c : CommandBuffer) (name : String) (value : UniformValue)

/-- What a use answers. -/
inductive UniformAnswer where
  | location (location : Int32)
  | found (found : Bool)
  | done

namespace UniformUse

/-- A use of this program. -/
def Through (r : Ref Program) : UniformUse → Prop
  | .locate _ | .set _ _ => True
  | .apply m => m.program = r
  | .command c _ _ => c.program = some r

/-- What a use comes to, and the calls it makes, if some names are known before. -/
def Does (program : ProgramHandle) (answer : String → Option Int32) (known : List String)
    (calls : List Call) (outcome : Except Halt UniformAnswer) : UniformUse → Prop
  | .locate name =>
      calls = lookUp program answer known name ∧ outcome = answered ((answer name).map .location)
  | .set name value =>
      ∃ found, Sets program answer known name value calls found ∧ outcome = found.map .found
  | .apply m =>
      ∃ done, Applies program answer known m.uniforms.entries calls done ∧
        outcome = done.map fun _ => .done
  | .command _ name value =>
      ∃ found, Sets program answer known name value calls found ∧
        outcome = found.map fun _ => .done

variable {σ : Type} [GraphicsDevice σ]

/-- Use the uniforms of a program. -/
def perform (r : Ref Program) : UniformUse → Render σ UniformAnswer
  | .locate name => .location <$> Program.uniformLocation r name
  | .set name value => .found <$> Program.setUniform r name value
  | .apply m => do
      m.apply
      return .done
  | .command c name value => do
      let _ ← c.setUniform name value
      return .done

/-- The world after a use, to whatever it came. -/
def after (r : Ref Program) (u : UniformUse) (w : World σ) : World σ := ((u.perform r).run.run w).2

/-- The world after some uses. A use that is cut off does not keep the next ones from being made. -/
def afterAll (r : Ref Program) (uses : List UniformUse) (w : World σ) : World σ :=
  uses.foldl (fun w u => u.after r w) w

end UniformUse

/-! ## Programs that remember -/

section Remembering

variable {σ : Type} [GraphicsDevice σ] {r : Ref Program} {p : Program}
  {answer : String → Option Int32} {new : List Call} {w : World σ} {α β : Type}

/-- A program that knew nothing remembers exactly what calls have told, by a device that tells
    locations by name. -/
structure Remembered (r : Ref Program) (p : Program) (answer : String → Option Int32)
    (new : List Call) (w : World σ) : Prop where
  blank : p.cache = ⟨.empty, false⟩
  object : (w.programs.get? r).map Program.settled = some (p.told new)
  tells : TellsByName w.device p.handle answer
  asked : Calls.AskedOnce p.handle answer new

/-- A task makes calls and comes to something, of which this is known, and what it was told is
    remembered, also if it is cut off. -/
def Recalls (r : Ref Program) (p : Program) (answer : String → Option Int32) (new : List Call)
    (t : Render σ α) (w : World σ) (Q : List Call → Except Halt α → Prop) : Prop :=
  ∃ calls, (t.run.run w).2.history = w.history ++ calls ∧
    Remembered r p answer (new ++ calls) (t.run.run w).2 ∧ Q calls (t.run.run w).1

namespace Recalls

variable {P Q : List Call → Except Halt α → Prop} {R : List Call → Except Halt β → Prop}
  {t : Render σ α} {f : α → Render σ β}

theorem mono (h : Recalls r p answer new t w P) (hPQ : ∀ calls outcome, P calls outcome →
    Q calls outcome) : Recalls r p answer new t w Q := by
  obtain ⟨calls, hhistory, hremembered, hP⟩ := h
  exact ⟨calls, hhistory, hremembered, hPQ _ _ hP⟩

theorem pure {a : α} (h : Remembered r p answer new w) (hQ : Q [] (.ok a)) :
    Recalls r p answer new (Pure.pure a) w Q :=
  ⟨[], (List.append_nil _).symm, (List.append_nil new).symm ▸ h, hQ⟩

theorem bind (h : Recalls r p answer new t w P)
    (hcut : ∀ calls e, P calls (.error e) → R calls (.error e))
    (hf : ∀ calls a w', P calls (.ok a) → Remembered r p answer (new ++ calls) w' →
      Recalls r p answer (new ++ calls) (f a) w' fun more outcome => R (calls ++ more) outcome) :
    Recalls r p answer new (t >>= f) w R := by
  obtain ⟨calls, hhistory, hremembered, hP⟩ := h
  unfold Recalls
  rw [run_bind]
  rcases hrun : t.run.run w with ⟨e | a, w'⟩
  all_goals rw [hrun] at hhistory hremembered hP
  · exact ⟨calls, hhistory, hremembered, hcut _ _ hP⟩
  · obtain ⟨more, hmore, hremembered, hR⟩ := hf calls a w' hP hremembered
    refine ⟨calls ++ more, ?_, ?_, hR⟩
    · rw [← List.append_assoc, ← hhistory]
      exact hmore
    · rw [← List.append_assoc]
      exact hremembered

end Recalls

/-! ### Requests -/

theorem recalls_view {γ : Type} [Pooled γ] (h : Remembered r p answer new w) (x : Ref γ) :
    Recalls r p answer new (view x) w fun calls outcome =>
      calls = [] ∧ ((∃ a, outcome = .ok a) ∨ outcome = .error .abort) := by
  have hnil := List.append_nil new
  unfold Recalls
  rw [run_view]
  rcases (Pooled.pool w).get? x with _ | a
  · exact ⟨[], (List.append_nil _).symm, hnil.symm ▸ h, rfl, .inr rfl⟩
  · exact ⟨[], (List.append_nil _).symm, hnil.symm ▸ h, rfl, .inl ⟨a, rfl⟩⟩

/-- The program as it is, behind what it was at first. -/
theorem Remembered.exists_object (h : Remembered r p answer new w) :
    ∃ q, w.programs.get? r = some q ∧ q.settled = p.told new ∧ q.handle = p.handle ∧
      ∀ name, q.locations.lookup name =
        if name ∈ Calls.known p.handle new then answer name else none := by
  obtain ⟨q, hq, hsettled⟩ := Option.map_eq_some_iff.mp h.object
  refine ⟨q, hq, hsettled, show q.settled.handle = _ by rw [hsettled]; rfl, fun name => ?_⟩
  rw [← q.locations_settled, hsettled, Program.locations_told, Program.locations_blank h.blank,
    List.nil_append]
  exact h.asked.lookup_eq name

theorem Remembered.asked_other (h : Remembered r p answer new w) {q : Request} (hq : q.isApplying)
    (hother : ∀ name, q ≠ .uniformLocation p.handle name) :
    Remembered r p answer (new ++ [⟨q, (GraphicsDevice.perform q w.device).reply⟩])
      (w.asked q) := by
  refine ⟨h.blank, ?_, h.tells.perform hq, h.asked.concat_other hother⟩
  rw [Program.told_other (c := ⟨q, _⟩) hother]
  exact h.object

/-- What is asked apart from look-ups tells no locations. -/
theorem recalls_ask (h : Remembered r p answer new w) {q : Request} (hq : q.isApplying)
    (hother : ∀ name, q ≠ .uniformLocation p.handle name) :
    Recalls r p answer new (ask q) w fun calls outcome =>
      ∃ reply, calls = [⟨q, reply⟩] ∧ outcome = answered reply := by
  have hasked := h.asked_other hq hother
  have hhistory := w.asked_history q
  unfold Recalls
  rw [run_ask]
  generalize (GraphicsDevice.perform q w.device).reply = reply at hasked hhistory ⊢
  rcases reply with _ | reply
  · exact ⟨_, hhistory, hasked, _, rfl, rfl⟩
  · exact ⟨_, hhistory, hasked, _, rfl, rfl⟩

/-! ### Look-ups -/

/-- The device was asked for a location, and then the program was changed. -/
theorem Remembered.asked_lookUp (h : Remembered r p answer new w) {name : String} {q : Program}
    {reply : Option Int32} (hnew : name ∉ Calls.known p.handle new) (hanswer : answer name = reply)
    {w' : World σ} {f : Program → Program} (hq : w'.programs.get? r = some q)
    (hdevice : w'.device = (w.asked (.uniformLocation p.handle name)).device)
    (hf : (f q).settled = p.told (new ++ [⟨.uniformLocation p.handle name, reply⟩])) :
    Remembered r p answer (new ++ [⟨.uniformLocation p.handle name, reply⟩]) (w'.altered r f) := by
  subst hanswer
  refine ⟨h.blank, ?_, ?_, h.asked.concat_lookUp hnew⟩
  · rw [get?_altered f hq]
    exact congrArg some hf
  · show TellsByName w'.device p.handle answer
    rw [hdevice]
    exact h.tells.perform rfl

/-- The location of a uniform is the one that the device tells. It is asked if it has told nothing
    of the name so far. -/
theorem recalls_uniformLocation (h : Remembered r p answer new w) (name : String) :
    Recalls r p answer new (Program.uniformLocation r name) w fun calls outcome =>
      calls = lookUp p.handle answer (Calls.known p.handle new) name ∧
        outcome = answered (answer name) := by
  obtain ⟨q, hq, hsettled, hhandle, hlookup⟩ := h.exists_object
  unfold Recalls lookUp
  rw [Program.run_uniformLocation hq, hlookup name, hhandle]
  by_cases hknown : name ∈ Calls.known p.handle new
  · rw [if_pos hknown, if_pos hknown]
    obtain ⟨location, hmem⟩ := Calls.mem_known_iff.mp hknown
    rw [h.asked.answer_of_mem hmem]
    refine ⟨[], ?_, ⟨h.blank, ?_, h.tells, ?_⟩, rfl, rfl⟩
    · exact (history_setPool _ _).trans (List.append_nil _).symm
    · rw [get?_altered _ hq, List.append_nil, ← hsettled]
      exact congrArg some q.settled_settled
    · rw [List.append_nil]
      exact h.asked
  · have hhistory := w.asked_history (.uniformLocation p.handle name)
    rw [h.tells.reply name] at hhistory
    rw [if_neg hknown, if_neg hknown, h.tells.reply name]
    cases hanswer : answer name with
    | none =>
      rw [hanswer] at hhistory
      refine ⟨_, (history_setPool _ _).trans hhistory, ?_, rfl, rfl⟩
      refine h.asked_lookUp hknown hanswer hq rfl ?_
      rw [Program.told_lookUp, ← hsettled, Program.settled_poison]
      exact congrArg Program.poison q.settled_settled
    | some location =>
      rw [hanswer] at hhistory
      obtain ⟨journal, hnoted⟩ := exists_noted location name p.handle
        (w.asked (.uniformLocation p.handle name))
      dsimp only
      rw [hnoted]
      refine ⟨_, (history_setPool _ _).trans hhistory, ?_, rfl, rfl⟩
      refine h.asked_lookUp hknown hanswer hq rfl ?_
      rw [Program.told_lookUp, ← hsettled]
      exact q.settled_learn name location

/-! ### Uniforms that are set -/

theorem recalls_setUniform (h : Remembered r p answer new w) (name : String)
    (value : UniformValue) :
    Recalls r p answer new (Program.setUniform r name value) w
      (Sets p.handle answer (Calls.known p.handle new) name value) := by
  refine (recalls_uniformLocation h name).bind ?_ ?_
  · rintro calls e ⟨rfl, hcut⟩
    obtain ⟨hanswer, rfl⟩ := answered_eq_error_iff.mp hcut.symm
    exact .untold hanswer
  · rintro calls location w' ⟨rfl, htold⟩ h'
    have hanswer := answered_eq_ok_iff.mp htold.symm
    split
    · rename_i hnone
      refine Recalls.pure h' ?_
      rw [List.append_nil]
      exact .nowhere hanswer hnone
    · rename_i hfound
      have hthere : 0 ≤ location := Int32.not_lt.mp hfound
      refine (recalls_ask h' rfl (by simp)).bind ?_ ?_
      · rintro written e ⟨reply, rfl, hcut⟩
        obtain ⟨rfl, rfl⟩ := answered_eq_error_iff.mp hcut.symm
        exact .written hanswer hthere
      · rintro written a w'' ⟨reply, rfl, hreply⟩ h''
        obtain rfl := answered_eq_ok_iff.mp hreply.symm
        refine Recalls.pure h'' ?_
        rw [List.append_nil]
        exact .written hanswer hthere

theorem recalls_applyUniforms (h : Remembered r p answer new w)
    (uniforms : List (String × UniformValue)) :
    Recalls r p answer new (Material.applyUniforms r uniforms) w
      (SetsAll p.handle answer (Calls.known p.handle new) uniforms) := by
  induction uniforms generalizing new w with
  | nil => exact Recalls.pure h .nil
  | cons u rest ih =>
    obtain ⟨name, value⟩ := u
    refine (recalls_setUniform h name value).bind ?_ ?_
    · exact fun calls e hcut => .cut hcut
    · intro calls found w' hset h'
      refine (ih h').mono fun more outcome hrest => ?_
      rw [Calls.known_append] at hrest
      exact .next hset hrest

/-! ### Materials and command buffers -/

/-- Nothing is done but to bind textures and samplers. -/
def Binds (calls : List Call) : Prop := ∀ c ∈ calls, c.request.isBinding

theorem Binds.append {calls more : List Call} (h : Binds calls) (h' : Binds more) :
    Binds (calls ++ more) := by
  intro c hc
  exact (List.mem_append.mp hc).elim (h c) (h' c)

theorem binds_nil : Binds [] := fun _ hc => absurd hc List.not_mem_nil

theorem recalls_ask_binding (h : Remembered r p answer new w) {q : Request} (hq : q.isBinding) :
    Recalls r p answer new (ask q) w fun calls _ => Binds calls := by
  have happlying : q.isApplying ∧ ∀ name, q ≠ .uniformLocation p.handle name := by
    cases q with
    | bindTexture | bindSampler => exact ⟨rfl, by simp⟩
    | _ => cases hq
  refine (recalls_ask h happlying.1 happlying.2).mono ?_
  rintro calls outcome ⟨reply, rfl, -⟩ c hc
  rw [List.mem_singleton.mp hc]
  exact hq

/-- An object is looked at, and then something is bound. -/
theorem recalls_view_binding {γ : Type} [Pooled γ] (h : Remembered r p answer new w) (x : Ref γ)
    {f : γ → Render σ Unit}
    (hf : ∀ a new w, Remembered r p answer new w →
      Recalls r p answer new (f a) w fun calls _ => Binds calls) :
    Recalls r p answer new (view x >>= f) w fun calls _ => Binds calls := by
  refine (recalls_view h x).bind ?_ ?_
  · rintro calls e ⟨rfl, -⟩
    exact binds_nil
  · rintro calls a w' ⟨rfl, -⟩ h'
    exact hf a _ w' h'

/-- Bind what is in slots, one after the other. -/
def bindAll {α : Type} (bind : Ref α → UInt32 → Render σ Unit) :
    List (UInt32 × Ref α) → Render σ Unit
  | [] => return ()
  | (slot, x) :: rest => do
      bind x slot
      bindAll bind rest

theorem Material.applyTextures_eq (textures : List (UInt32 × Ref Texture)) :
    (applyTextures textures : Render σ Unit) = bindAll Texture.bind textures := by
  induction textures with
  | nil => rfl
  | cons t rest ih => rw [applyTextures, bindAll, ih]

theorem Material.applySamplers_eq (samplers : List (UInt32 × Ref Sampler)) :
    (applySamplers samplers : Render σ Unit) = bindAll Sampler.bind samplers := by
  induction samplers with
  | nil => rfl
  | cons s rest ih => rw [applySamplers, bindAll, ih]

theorem recalls_bindAll {γ : Type} {bind : Ref γ → UInt32 → Render σ Unit}
    (hbind : ∀ x slot new w, Remembered r p answer new w →
      Recalls r p answer new (bind x slot) w fun calls _ => Binds calls)
    (h : Remembered r p answer new w) (entries : List (UInt32 × Ref γ)) :
    Recalls r p answer new (bindAll bind entries) w fun calls _ => Binds calls := by
  induction entries generalizing new w with
  | nil => exact Recalls.pure h binds_nil
  | cons e rest ih =>
    refine (hbind e.2 e.1 new w h).bind (fun _ _ h => h) fun calls _ w' hcalls h' => ?_
    exact (ih h').mono fun more _ hmore => hcalls.append hmore

theorem recalls_applyTextures (h : Remembered r p answer new w)
    (textures : List (UInt32 × Ref Texture)) :
    Recalls r p answer new (Material.applyTextures textures) w fun calls _ => Binds calls := by
  rw [Material.applyTextures_eq]
  refine recalls_bindAll (fun x slot new w h => ?_) h textures
  exact recalls_view_binding h x fun t new w h => recalls_ask_binding h rfl

theorem recalls_applySamplers (h : Remembered r p answer new w)
    (samplers : List (UInt32 × Ref Sampler)) :
    Recalls r p answer new (Material.applySamplers samplers) w fun calls _ => Binds calls := by
  rw [Material.applySamplers_eq]
  refine recalls_bindAll (fun x slot new w h => ?_) h samplers
  exact recalls_view_binding h x fun s new w h => recalls_ask_binding h rfl

theorem recalls_apply (h : Remembered r p answer new w) {m : Material} (hm : m.program = r) :
    Recalls r p answer new m.apply w
      (Applies p.handle answer (Calls.known p.handle new) m.uniforms.entries) := by
  have huse : Recalls r p answer new (Program.bind r) w fun calls outcome =>
      ∃ reply, calls = [⟨.useProgram (some p.handle), reply⟩] ∧ outcome = answered reply := by
    obtain ⟨q, hq, -, hhandle, -⟩ := h.exists_object
    have hrun : (Program.bind r : Render σ Unit).run.run w =
        (ask (.useProgram (some p.handle)) : Render σ Unit).run.run w :=
      hhandle ▸ run_view_bind hq
    unfold Recalls
    rw [hrun]
    exact recalls_ask h rfl (by simp)
  unfold Material.apply
  rw [hm]
  refine huse.bind ?_ ?_
  · rintro calls e ⟨reply, rfl, hcut⟩
    obtain ⟨rfl, rfl⟩ := answered_eq_error_iff.mp hcut.symm
    exact .unused
  rintro calls _ w₁ ⟨reply, rfl, hused⟩ h₁
  obtain rfl := answered_eq_ok_iff.mp hused.symm
  have hknown : Calls.known p.handle
      (new ++ [⟨.useProgram (some p.handle), some ()⟩]) = Calls.known p.handle new := by
    rw [Calls.known_append]
    exact List.append_nil _
  refine (recalls_applyUniforms h₁ m.uniforms.entries).bind ?_ ?_
  · intro calls e hset
    exact .cut (hknown ▸ hset)
  intro calls _ w₂ hset h₂
  have hset := hknown ▸ hset
  refine (recalls_applyTextures h₂ m.textures).bind ?_ ?_
  · intro textures e htextures
    rw [List.singleton_append]
    exact .applied hset htextures
  intro textures _ w₃ htextures h₃
  refine (recalls_applySamplers h₃ m.samplers).mono fun samplers outcome hsamplers => ?_
  rw [List.singleton_append]
  exact .applied hset (htextures.append hsamplers)

theorem recalls_command (h : Remembered r p answer new w) {c : CommandBuffer}
    (hc : c.program = some r) (name : String) (value : UniformValue) :
    Recalls r p answer new (c.setUniform name value) w fun calls outcome =>
      ∃ found, Sets p.handle answer (Calls.known p.handle new) name value calls found ∧
        outcome = found.map fun _ => c := by
  unfold CommandBuffer.setUniform
  rw [hc]
  refine (recalls_setUniform h name value).bind ?_ ?_
  · exact fun calls e hset => ⟨_, hset, rfl⟩
  · intro calls found w' hset h'
    exact Recalls.pure h' ⟨_, by rwa [List.append_nil], rfl⟩

/-! ### All uses -/

theorem Recalls.bind_pure {t : Render σ α} {f : α → β} {Q : List Call → Except Halt α → Prop}
    (h : Recalls r p answer new t w Q) :
    Recalls r p answer new (t >>= fun a => Pure.pure (f a)) w fun calls outcome =>
      ∃ before, Q calls before ∧ outcome = before.map f := by
  refine h.bind (fun calls e hcut => ⟨_, hcut, rfl⟩) fun calls a w' hQ h' => ?_
  exact Recalls.pure h' ⟨_, by rwa [List.append_nil], rfl⟩

theorem Recalls.map {t : Render σ α} {f : α → β} {Q : List Call → Except Halt α → Prop}
    (h : Recalls r p answer new t w Q) :
    Recalls r p answer new (f <$> t) w fun calls outcome =>
      ∃ before, Q calls before ∧ outcome = before.map f := by
  rw [← bind_pure_comp]
  exact h.bind_pure

theorem recalls_perform (h : Remembered r p answer new w) {u : UniformUse} (hu : u.Through r) :
    Recalls r p answer new (u.perform r) w fun calls outcome =>
      u.Does p.handle answer (Calls.known p.handle new) calls outcome := by
  cases u with
  | locate name =>
    refine (recalls_uniformLocation h name).map.mono ?_
    rintro calls outcome ⟨before, ⟨rfl, rfl⟩, rfl⟩
    refine ⟨rfl, ?_⟩
    cases answer name <;> rfl
  | set name value => exact (recalls_setUniform h name value).map
  | apply m => exact (recalls_apply h hu).bind_pure
  | command c name value =>
    refine (recalls_command h hu name value).bind_pure.mono ?_
    rintro calls outcome ⟨before, ⟨found, hset, rfl⟩, rfl⟩
    refine ⟨found, hset, ?_⟩
    cases found <;> rfl

/-- Whatever uses come to, what they were told is remembered. -/
theorem remembered_afterAll {uses : List UniformUse} (huses : ∀ u ∈ uses, u.Through r)
    (h : Remembered r p answer new w) :
    ∃ more, (UniformUse.afterAll r uses w).history = w.history ++ more ∧
      Remembered r p answer (new ++ more) (UniformUse.afterAll r uses w) := by
  induction uses generalizing new w with
  | nil => exact ⟨[], (List.append_nil _).symm, (List.append_nil new).symm ▸ h⟩
  | cons u rest ih =>
    obtain ⟨hu, hrest⟩ := List.forall_mem_cons.mp huses
    obtain ⟨calls, hcalls, h', -⟩ := recalls_perform h hu
    obtain ⟨more, hmore, h''⟩ := ih hrest h'
    refine ⟨calls ++ more, ?_, ?_⟩
    · rw [← List.append_assoc, ← hcalls]
      exact hmore
    · rw [← List.append_assoc]
      exact h''

end Remembering

/-- A new program remembers nothing. -/
theorem Program.blank_create [Toolchain] {σ : Type} [GraphicsDevice σ] {files : Files}
    {options : CompileOptions} {reflected : Bool} {inputs : List StageInput} {w : World σ} :
    Runs (create files options reflected inputs) w
      (fun r w' => ∃ p, w'.programs.get? r = some p ∧ p.cache = ⟨.empty, false⟩)
      (fun _ => True) := by
  unfold create
  refine Runs.bind_anyhow fun sources w₁ => ?_
  extract_lets link check
  have hlink : ∀ w, Runs (link ()) w
      (fun r w' => ∃ p, w'.programs.get? r = some p ∧ p.cache = ⟨.empty, false⟩)
      (fun _ => True) := by
    intro w
    refine Runs.bind_anyhow fun compiled w₁ => ?_
    refine Runs.bind_anyhow fun linked w₂ => ?_
    refine Runs.bind_anyhow fun _ w₃ => ?_
    rcases linked with e | handle
    · exact Runs.bind_note (runs_raise trivial)
    · exact Runs.bind_note (Runs.bind_get (Runs.bind_set (Runs.pure
        ⟨_, Pool.get?_add _ _, rfl⟩)))
  refine Runs.reject_if trivial fun _ => ?_
  unfold check
  split
  · exact Runs.bind_reject trivial
  · exact hlink w₁

/-- A new program has been used. It remembers exactly what it was told, its lock is poisoned if a
    look-up was cut off, and nothing else about it is different. -/
structure Program.Recalling (p : Program) (calls : List Call) (q : Program) : Prop where
  locations : q.locations = Calls.locations p.handle calls
  poisoned : q.cache.poisoned = true ↔ ∃ c ∈ calls, c.isCutOff p.handle
  same : { q with cache := p.cache } = p

theorem Remembered.recalling {σ : Type} [GraphicsDevice σ] {r : Ref Program} {p : Program}
    {answer : String → Option Int32} {new : List Call} {w : World σ}
    (h : Remembered r p answer new w) :
    ∃ q, w.programs.get? r = some q ∧ p.Recalling new q := by
  obtain ⟨q, hq, hsettled⟩ := Option.map_eq_some_iff.mp h.object
  refine ⟨q, hq, ?_, ?_, ?_⟩
  · rw [← q.locations_settled, hsettled, Program.locations_told, Program.locations_blank h.blank,
      List.nil_append]
  · have hpoisoned : q.cache.poisoned = (p.told new).cache.poisoned :=
      congrArg (fun p => p.cache.poisoned) hsettled
    rw [hpoisoned, Program.told, h.blank]
    simp
  · show { q.settled with cache := p.cache } = p
    rw [hsettled]
    rfl

/-- Uses of a new program are told by the device alone. Let the device tell the locations of the
    program by name, and let the program be used in any ways. Then what is remembered is exactly
    what was told, every look-up was told what there is to tell, and none was made of a name of
    which something was told before. And whatever use is made next comes to what the device tells:
    the location of a name is the one it tells, also that there is none, and a uniform is written
    there, exactly if there is one. The device is asked on the way for the names that are not known
    yet. A look-up that was cut off has poisoned the lock, and makes no other difference. -/
theorem Program.lookups_transparent [Toolchain] {σ : Type} [GraphicsDevice σ] {files : Files}
    {options : CompileOptions} {reflected : Bool} {inputs : List StageInput} {w₀ w : World σ}
    {r : Ref Program}
    (hcreated : (create files options reflected inputs).run.run w₀ = (.ok r, w)) :
    ∃ p, w.programs.get? r = some p ∧ ∀ answer, TellsByName w.device p.handle answer →
      ∀ uses : List UniformUse, (∀ u ∈ uses, u.Through r) →
        ∃ new q, (UniformUse.afterAll r uses w).history = w.history ++ new ∧
          (UniformUse.afterAll r uses w).programs.get? r = some q ∧ p.Recalling new q ∧
          Calls.AskedOnce p.handle answer new ∧
          ∀ u : UniformUse, u.Through r → ∃ calls,
            (u.after r (UniformUse.afterAll r uses w)).history =
              (UniformUse.afterAll r uses w).history ++ calls ∧
            u.Does p.handle answer (Calls.known p.handle new) calls
              ((u.perform r).run.run (UniformUse.afterAll r uses w)).1 := by
  obtain ⟨p, hp, hblank⟩ := blank_create.of_ok hcreated
  refine ⟨p, hp, fun answer htells uses huses => ?_⟩
  have hstart : Remembered r p answer [] w := by
    refine ⟨hblank, ?_, htells, Calls.Stepwise.nil⟩
    rw [hp, told_nil]
    rfl
  obtain ⟨new, hnew, h⟩ := remembered_afterAll huses hstart
  obtain ⟨q, hq, hrecalling⟩ := h.recalling
  refine ⟨new, q, hnew, hq, hrecalling, h.asked, fun u hu => ?_⟩
  obtain ⟨calls, hcalls, -, hdoes⟩ := recalls_perform h hu
  exact ⟨calls, hcalls, hdoes⟩

/-! ## A program that is asked again -/

/-- A new program on a device that is its own driver. -/
def newProgram : Except Halt (Ref Program) × World (GlDevice GlReference) :=
  (Program.create .empty {} false [emptyStage]).run.run (.start .reference)

/-- A name that cannot be handed over. -/
def brokenName : String := "u\x00"

/-- The world after one name was asked for that has a location, one that cuts the device off, and
    one that has none. -/
def askedThrice (r : Ref Program) : World (GlDevice GlReference) :=
  UniformUse.afterAll r [.locate "u", .locate brokenName, .locate "v"] newProgram.2

/-- To ask again comes to the same, although the lock is poisoned. -/
theorem lookups_transparent_reference :
    ∃ r, newProgram.1 = .ok r ∧
      ((askedThrice r).programs.get? r).map (fun q => (q.cache.poisoned, q.locations)) =
        some (true, [("u", 0), ("v", -1)]) ∧
      (((UniformUse.locate "u").perform r).run.run (askedThrice r)).1 = .ok (.location 0) ∧
      (((UniformUse.locate brokenName).perform r).run.run (askedThrice r)).1 = .error .abort ∧
      (((UniformUse.locate "v").perform r).run.run (askedThrice r)).1 = .ok (.location (-1)) := by
  have hfirst : newProgram.1.toOption = some ⟨0⟩ := by decide +kernel
  have hpoisoned : ((askedThrice ⟨0⟩).programs.get? ⟨0⟩).map
      (fun q => (q.cache.poisoned, q.locations)) = some (true, [("u", 0), ("v", -1)]) := by
    decide +kernel
  rcases hnew : newProgram with ⟨e | r, w⟩
  · rw [hnew] at hfirst
    cases hfirst
  obtain rfl : r = ⟨0⟩ := by
    rw [hnew] at hfirst
    exact Option.some.inj hfirst
  obtain ⟨p, -, huses⟩ := Program.lookups_transparent hnew
  have hterminated : (w.device.uniforms p.handle).Terminated := terminated_uniformTable
  have htells : TellsByName w.device p.handle GlReference.uniformTable.told? :=
    GlDevice.tellsByName hterminated
  obtain ⟨new, q, -, -, -, -, hnext⟩ := huses _ htells [.locate "u", .locate brokenName,
    .locate "v"] (by simp [UniformUse.Through])
  have hafter : askedThrice ⟨0⟩ =
      UniformUse.afterAll ⟨0⟩ [.locate "u", .locate brokenName, .locate "v"] w := by
    rw [askedThrice, hnew]
  refine ⟨⟨0⟩, rfl, hpoisoned, ?_, ?_, ?_⟩
  all_goals rw [hafter]
  · obtain ⟨calls, -, -, houtcome⟩ := hnext (.locate "u") trivial
    rw [houtcome, show GlReference.uniformTable.told? "u" = some 0 by decide +kernel]
    rfl
  · obtain ⟨calls, -, -, houtcome⟩ := hnext (.locate brokenName) trivial
    rw [houtcome, show GlReference.uniformTable.told? brokenName = none by decide +kernel]
    rfl
  · obtain ⟨calls, -, -, houtcome⟩ := hnext (.locate "v") trivial
    rw [houtcome, show GlReference.uniformTable.told? "v" = some (-1) by decide +kernel]
    rfl

end RenderKit
