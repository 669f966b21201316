import RenderKit.Proofs.OpenGL.Reference
import RenderKit.Proofs.OpenGL.Sessions

set_option autoImplicit false

/-! # Whose uniforms are written

A command buffer looks a uniform up in its own program, but the device writes to the program in use,
and that is the one somebody used last. So a command buffer writes to its own program if that was
the last one to be used, and to another program if it was not. -/

namespace RenderKit

/-- What a request says about the program in use. -/
def Request.used? : Request → Option (Option ProgramHandle)
  | .useProgram program => some program
  | _ => none

/-- The program in use after some calls, which is the one that was used last. -/
def Calls.current (calls : List Call) : Option ProgramHandle := (last? Request.used? calls).join

/-- A program was used, and since then no other use was made of any. -/
def Calls.UsedLast (program : ProgramHandle) (calls : List Call) : Prop :=
  ∃ before call after, calls = before ++ call :: after ∧
    call.request = .useProgram (some program) ∧ ∀ d ∈ after, ∀ other, d.request ≠ .useProgram other

namespace Calls

variable {calls more : List Call} {program : ProgramHandle}

theorem used?_eq_some_iff {r : Request} {used : Option ProgramHandle} :
    r.used? = some used ↔ r = .useProgram used := by
  cases r <;> simp [Request.used?]

theorem used?_eq_none_iff {r : Request} : r.used? = none ↔ ∀ other, r ≠ .useProgram other := by
  cases r <;> simp [Request.used?]

theorem current_eq_some_iff : current calls = some program ↔ UsedLast program calls := by
  simp only [current, Option.join_eq_some_iff, last?_eq_some_iff, used?_eq_some_iff,
    used?_eq_none_iff, UsedLast]

theorem current_append (hmore : ∀ d ∈ more, d.request.used? = none) :
    current (calls ++ more) = current calls := by
  rw [current, current, last?_append hmore]

end Calls

/-! ## Looking up and writing -/

/-- A value is written to a location if there is one, and else nothing is written. -/
inductive Written (location : Int32) (value : UniformValue) : Bool → List Call → Prop where
  | nowhere : location < 0 → Written location value false []
  | there (reply : Option (Request.setUniform location value).Reply) :
      0 ≤ location → Written location value true [⟨.setUniform location value, reply⟩]

/-- The calls that are made to write a uniform of a program, and whether it is there. It is looked
    up, unless its location is known. -/
inductive WritesUniform {σ : Type} [GraphicsDevice σ] (device : σ) (p : Program) (key : String)
    (value : UniformValue) (found : Bool) : List Call → Prop where
  | known {location : Int32} {written : List Call} :
      p.locations.lookup key = some location → Written location value found written →
      WritesUniform device p key value found written
  | looked {location : Int32} {written : List Call} :
      (GraphicsDevice.perform (.uniformLocation p.handle key) device).reply = some location →
      Written location value found written →
      WritesUniform device p key value found
        (⟨.uniformLocation p.handle key, some location⟩ :: written)

section

variable {σ : Type} [GraphicsDevice σ] {device : σ} {p : Program} {key : String}
  {value v : UniformValue} {location l : Int32} {found : Bool} {new before after : List Call}
  {call : Call}

theorem Written.used?_eq_none (h : Written location value found new) :
    ∀ d ∈ new, d.request.used? = none := by
  cases h with
  | nowhere _ => exact fun d hd => absurd hd List.not_mem_nil
  | there _ _ =>
      intro d hd
      rw [List.mem_singleton.mp hd]
      rfl

theorem Written.eq_of_mem (h : Written location value found new) (hcall : call ∈ new)
    (hset : call.request = .setUniform l v) : l = location ∧ v = value := by
  cases h with
  | nowhere _ => exact absurd hcall List.not_mem_nil
  | there _ _ =>
      rw [List.mem_singleton.mp hcall] at hset
      cases hset
      exact ⟨rfl, rfl⟩

/-- No use of a program is made on the way. -/
theorem WritesUniform.used?_eq_none (h : WritesUniform device p key value found new) :
    ∀ d ∈ new, d.request.used? = none := by
  cases h with
  | known _ h => exact h.used?_eq_none
  | looked _ h =>
      intro d hd
      rcases List.mem_cons.mp hd with rfl | hd
      · rfl
      · exact h.used?_eq_none d hd

/-- What is written is the value, to a location that is one of the program. -/
theorem WritesUniform.eq_of_split
    (h : WritesUniform device p key value found (before ++ call :: after))
    (hset : call.request = .setUniform l v) :
    v = value ∧ (p.locations.lookup key = some l ∨
      ⟨.uniformLocation p.handle key, some l⟩ ∈ before) := by
  generalize hnew : before ++ call :: after = new at h
  cases h with
  | known hknown h =>
      obtain ⟨rfl, rfl⟩ := h.eq_of_mem (by simp [← hnew]) hset
      exact ⟨rfl, .inl hknown⟩
  | looked _ h =>
      rcases before with _ | ⟨first, rest⟩
      · obtain ⟨rfl, -⟩ := List.cons.inj hnew
        cases hset
      · obtain ⟨rfl, rfl⟩ := List.cons.inj hnew
        obtain ⟨rfl, rfl⟩ := h.eq_of_mem (by simp) hset
        exact ⟨rfl, .inr List.mem_cons_self⟩

end

section

variable {σ : Type} [GraphicsDevice σ] {w : World σ} {E : World σ → Prop} {r : Ref Program}
  {p : Program} {key : String} {value : UniformValue}

/-- A location is known or asked for. -/
theorem Program.looksUp_uniformLocation (hp : w.programs.get? r = some p) :
    Runs (uniformLocation r key) w
      (fun location w' => (w'.history = w.history ∧ p.locations.lookup key = some location) ∨
        (w'.history = w.history ++ [⟨.uniformLocation p.handle key, some location⟩] ∧
          (GraphicsDevice.perform (.uniformLocation p.handle key) w.device).reply =
            some location)) E := by
  refine runs_locating (fun p' location hp' hknown => .inl ?_)
    fun p' location hp' _ hreply => .inr ?_
  all_goals obtain rfl : p' = p := Option.some.inj (hp'.symm.trans hp)
  · exact ⟨history_setPool _ _, hknown⟩
  · obtain ⟨journal, hnoted⟩ := exists_noted location key p'.handle
      (w.asked (.uniformLocation p'.handle key))
    rw [hnoted]
    exact ⟨(history_setPool _ _).trans (history_asked hreply), hreply⟩

theorem Program.writes_setUniform (hp : w.programs.get? r = some p) :
    Runs (setUniform r key value) w
      (fun found w' => ∃ new, w'.history = w.history ++ new ∧
        WritesUniform w.device p key value found new) E := by
  refine Runs.bind (looksUp_uniformLocation hp) fun location w₁ h₁ => ?_
  -- what was looked up so far, and what may follow it
  obtain ⟨looked, hlooked, hwrites⟩ : ∃ looked, w₁.history = w.history ++ looked ∧
      ∀ {found written}, Written location value found written →
        WritesUniform w.device p key value found (looked ++ written) := by
    rcases h₁ with ⟨hsame, hknown⟩ | ⟨hasked, hreply⟩
    · exact ⟨[], by rw [hsame, List.append_nil], fun h => .known hknown h⟩
    · exact ⟨_, hasked, fun h => .looked hreply h⟩
  split
  · rename_i hnone
    exact Runs.pure ⟨_, hlooked, by simpa using hwrites (.nowhere hnone)⟩
  · rename_i hfound
    refine Runs.bind runs_ask ?_
    rintro reply _ ⟨rfl, hreply⟩
    refine Runs.pure ⟨_, ?_, hwrites (.there (some reply) (Int32.not_lt.mp hfound))⟩
    rw [history_asked hreply, hlooked, List.append_assoc]

end

namespace Session

section Commands

variable {σ : Type} [InstrumentedDevice σ] {s s' : State σ} {name : Name} {c : CommandBuffer}
  {r : Ref Program} {p : Program} {key : String} {value : UniformValue}
  {outcome : Except Refusal Answer}

/-- A command that sets a uniform writes it, or is refused and asks for nothing. -/
theorem writes_setUniform [Toolchain] [ImageCodec] (hc : s.objects.lookup name = some (.commands c))
    (hr : c.program = some r) (hp : s.world.programs.get? r = some p)
    (hrun : (play (.command name (.setUniform key value))).run.run s = (outcome, s'))
    (hout : outcome ≠ .error (.halt .abort)) :
    ∃ new, s'.world.history = s.world.history ++ new ∧
      ((∃ e, outcome = .error e) ∧ new = [] ∨
        ∃ found, WritesUniform s.world.device p key value found new) := by
  have hset : Runs (c.setUniform key value) s.world
      (fun _ w' => ∃ new, w'.history = s.world.history ++ new ∧
        ∃ found, WritesUniform s.world.device p key value found new)
      (fun w' => w'.history = s.world.history) := by
    unfold CommandBuffer.setUniform
    rw [hr]
    refine Runs.bind (Program.writes_setUniform hp) ?_
    rintro found w' ⟨new, hnew, hwrites⟩
    exact Runs.pure ⟨new, hnew, found, hwrites⟩
  have hplay := of_runs (runs_playCommand
    (Q := fun w' => ∃ new, w'.history = s.world.history ++ new ∧
      ∃ found, WritesUniform s.world.device p key value found new)
    (E := fun s' => s'.world.history = s.world.history) (k := .setUniform key value) rfl hc
    (Runs.pure ⟨rfl, hset⟩)) hrun hout
  rcases outcome with e | answer
  · exact ⟨[], by simpa using hplay, .inl ⟨⟨e, rfl⟩, rfl⟩⟩
  · obtain ⟨new, hnew, hwrites⟩ := hplay
    exact ⟨new, hnew, .inr hwrites⟩

theorem writes_setUniform_program [Toolchain] [ImageCodec]
    (hname : s.objects.lookup name = some (.program r))
    (hp : s.world.programs.get? r = some p) {answer : Answer}
    (hrun : (play (.setUniform name key value)).run.run s = (.ok answer, s')) :
    ∃ found, answer = .truth found ∧ ∃ new, s'.world.history = s.world.history ++ new ∧
      WritesUniform s.world.device p key value found new := by
  have hplay : Runs (play (.setUniform name key value)) s
      (fun answer s' => ∃ found, answer = .truth found ∧
        ∃ new, s'.world.history = s.world.history ++ new ∧
          WritesUniform s.world.device p key value found new) (fun _ => True) := by
    refine Runs.bind_same (runs_programNamed trivial) fun r' hname' => ?_
    rw [hname] at hname'
    cases hname'
    have hset : Runs (inWorld (Program.setUniform r key value)) s _ _ :=
      runs_inWorld (Program.writes_setUniform (E := fun _ => True) hp)
    exact Runs.bind (hset.mono (fun _ _ h => h.2) fun _ _ => trivial) fun found _ h =>
      Runs.pure ⟨found, rfl, h⟩
  exact of_runs hplay hrun (by simp)

/-- Where a command buffer writes its uniforms. A command that sets one looks the location up in the
    program of the command buffer and writes the value there if it exists, and at each write this is
    the program in use if and only if it was used last before the command: the command itself uses
    none. -/
theorem uniforms_land_iff [Toolchain] [ImageCodec] (hc : s.objects.lookup name = some (.commands c))
    (hr : c.program = some r) (hp : s.world.programs.get? r = some p)
    (hrun : (play (.command name (.setUniform key value))).run.run s = (outcome, s'))
    (hout : outcome ≠ .error (.halt .abort)) :
    ∃ new, s'.world.history = s.world.history ++ new ∧
      ((∃ answer, outcome = .ok answer) →
        ∃ found, WritesUniform s.world.device p key value found new) ∧
      ∀ before call after location v, new = before ++ call :: after →
        call.request = .setUniform location v →
        v = value ∧
        (p.locations.lookup key = some location ∨
          ⟨.uniformLocation p.handle key, some location⟩ ∈ before) ∧
        (Calls.current (s.world.history ++ before) = some p.handle ↔
          Calls.UsedLast p.handle s.world.history) := by
  obtain ⟨new, hnew, hwrites⟩ := writes_setUniform hc hr hp hrun hout
  refine ⟨new, hnew, ?_, ?_⟩
  · rintro ⟨answer, rfl⟩
    exact hwrites.resolve_left fun h => nomatch h.1
  rintro before call after location v rfl hcall
  rcases hwrites with ⟨-, hnone⟩ | ⟨found, hwrites⟩
  · simp at hnone
  · obtain ⟨hv, hlocation⟩ := hwrites.eq_of_split hcall
    refine ⟨hv, hlocation, ?_⟩
    rw [← Calls.current_eq_some_iff, Calls.current_append]
    exact fun d hd => hwrites.used?_eq_none d (List.mem_append_left _ hd)

end Commands

/-! ## Two programs -/

/-- A command buffer has a pipeline with the first of two programs, and a material has the other. -/
def twoPrograms : State (GlDevice GlReference) :=
  actAll
    [.step (.make "p" (.program none none false [.input emptyStage])),
     .step (.make "q" (.program none none false [.input emptyStage])),
     .step (.make "l" (.pipeline none [.program "p"])),
     .step (.make "m" (.material [.program "q"])),
     .step (.make "c" (.commands .report)), .step (.command "c" (.setPipeline "l"))]
    { world := .start .reference, objects := [], files := .empty }

/-- A uniform is set through the command buffer. -/
def uniformSet (s : State (GlDevice GlReference)) :
    Except Refusal Answer × State (GlDevice GlReference) :=
  (play (.command "c" (.setUniform "u" (.float .one)))).run.run s

/-- What is asked for then. -/
def requestsOf (s : State (GlDevice GlReference)) : List Request :=
  ((uniformSet s).2.world.history.drop s.world.history.length).map Call.request

theorem exists_two_new {s s' : State (GlDevice GlReference)} {new : List Call} {q r : Request}
    (hrun : (uniformSet s).2 = s') (hnew : s'.world.history = s.world.history ++ new)
    (hrequests : requestsOf s = [q, r]) :
    ∃ first second, new = [first, second] ∧ first.request = q ∧ second.request = r := by
  rw [requestsOf, hrun, hnew, List.drop_left] at hrequests
  obtain ⟨first, rest, rfl, hfirst, hrest⟩ := List.map_eq_cons_iff.mp hrequests
  obtain ⟨second, rfl, hsecond⟩ := List.map_eq_singleton_iff.mp hrest
  exact ⟨first, second, rfl, hfirst, hsecond⟩

theorem reached_twoPrograms : ReachedBy .reference .empty Action.Genuine twoPrograms := by
  refine ReachedBy.start.of_allOk ?_ (by decide +kernel)
  simp [Action.Genuine, Action.Public, Recipe.Named]

set_option maxRecDepth 2000 in
/-- The uniform is written while the program of the pipeline is in use. -/
theorem uniforms_land_reference :
    ∃ p looked call, twoPrograms.world.programs.get? ⟨0⟩ = some p ∧
      (uniformSet twoPrograms).2.world.history =
        twoPrograms.world.history ++ [looked, call] ∧
      call.request = .setUniform 0 (.float .one) ∧
      Calls.current (twoPrograms.world.history ++ [looked]) = some p.handle := by
  have hshape : (twoPrograms.world.programs.get? ⟨0⟩).map Program.handle = some ⟨2, by decide⟩ := by
    decide +kernel
  obtain ⟨p, hp, hhandle⟩ := Option.map_eq_some_iff.mp hshape
  have hused : Calls.UsedLast p.handle twoPrograms.world.history := by
    rw [hhandle, ← Calls.current_eq_some_iff]
    decide +kernel
  have hok : (uniformSet twoPrograms).1.isOk := by decide +kernel
  rcases hrun : uniformSet twoPrograms with ⟨outcome, s'⟩
  rw [hrun] at hok
  obtain ⟨new, hnew, -, hland⟩ :=
    uniforms_land_iff (c := ⟨.report, false, some ⟨0⟩, some ⟨0⟩, none⟩)
      (lookup_of_commands? (by decide +kernel)) rfl hp hrun (by rintro rfl; cases hok)
  have hrequests : requestsOf twoPrograms =
      [.uniformLocation ⟨2, by decide⟩ "u", .setUniform 0 (.float .one)] := by decide +kernel
  obtain ⟨looked, call, rfl, -, hcall⟩ := exists_two_new (congrArg Prod.snd hrun) hnew hrequests
  exact ⟨p, looked, call, hp, hnew, hcall, (hland [looked] call [] 0 _ rfl hcall).2.2.mpr hused⟩

/-- The material is applied. -/
def otherUsed : State (GlDevice GlReference) := actAll [.step (.apply "m")] twoPrograms

set_option maxRecDepth 2000 in
/-- The uniform is looked up in the program of the pipeline, and is written while that of the
    material is in use. -/
theorem uniform_lands_elsewhere :
    ReachedBy .reference .empty Action.Genuine otherUsed ∧
      (otherUsed.objects.lookup "c").bind Object.commands? =
        some ⟨.report, false, some ⟨0⟩, some ⟨0⟩, none⟩ ∧
      ∃ p q looked call, otherUsed.world.programs.get? ⟨0⟩ = some p ∧
        otherUsed.world.programs.get? ⟨1⟩ = some q ∧ p.handle ≠ q.handle ∧
        (uniformSet otherUsed).2.world.history = otherUsed.world.history ++ [looked, call] ∧
        looked.request = .uniformLocation p.handle "u" ∧
        call.request = .setUniform 0 (.float .one) ∧
        Calls.current (otherUsed.world.history ++ [looked]) = some q.handle := by
  have hs : ReachedBy .reference .empty Action.Genuine otherUsed :=
    reached_twoPrograms.of_allOk (by simp [Action.Genuine, Action.Public]) (by decide +kernel)
  have hfirst : (otherUsed.world.programs.get? ⟨0⟩).map Program.handle = some ⟨2, by decide⟩ := by
    decide +kernel
  obtain ⟨p, hp, hpipeline⟩ := Option.map_eq_some_iff.mp hfirst
  have hsecond : (otherUsed.world.programs.get? ⟨1⟩).map Program.handle = some ⟨4, by decide⟩ := by
    decide +kernel
  obtain ⟨q, hq, hmaterial⟩ := Option.map_eq_some_iff.mp hsecond
  have hcommands : (otherUsed.objects.lookup "c").bind Object.commands? =
      some ⟨.report, false, some ⟨0⟩, some ⟨0⟩, none⟩ := by decide +kernel
  have hok : (uniformSet otherUsed).1.isOk := by decide +kernel
  have hrequests : requestsOf otherUsed =
      [.uniformLocation ⟨2, by decide⟩ "u", .setUniform 0 (.float .one)] := by decide +kernel
  rcases hrun : uniformSet otherUsed with ⟨outcome, s'⟩
  rw [hrun] at hok
  obtain ⟨new, hnew, -⟩ := writes_setUniform (lookup_of_commands? hcommands) rfl hp hrun
    (by rintro rfl; cases hok)
  obtain ⟨looked, call, rfl, hlooked, hcall⟩ :=
    exists_two_new (congrArg Prod.snd hrun) hnew hrequests
  refine ⟨hs, hcommands, p, q, looked, call, hp, hq, ?_, hnew, hpipeline ▸ hlooked, hcall, ?_⟩
  · rw [hpipeline, hmaterial]
    decide
  -- to look up is to use nothing, so the program of the material is still the last one used
  rw [hmaterial, Calls.current_append]
  · decide +kernel
  · intro d hd
    rw [List.mem_singleton.mp hd, hlooked]
    rfl

end Session

end RenderKit
