import RenderKit.Proofs.Ledger.Books
import RenderKit.Shader.Program

set_option autoImplicit false

/-! # Looking up a location

A program looks up a location with the lock of what it remembers held. It first forgets what is
about another program, and whether the lock is poisoned makes no difference. The device is asked
for what is not remembered. If that is cut off, nothing is remembered, and the lock is poisoned. -/

namespace RenderKit

namespace Program

/-- The program as the next look-up finds it. -/
def settled (p : Program) : Program := p.keep p.remembered

@[simp] theorem handle_keep (p : Program) (c : UniformCache) : (p.keep c).handle = p.handle := rfl

@[simp] theorem handle_poison (p : Program) : p.poison.handle = p.handle := rfl

@[simp] theorem remembered_keep (p : Program) (c : UniformCache) :
    (p.keep c).remembered = c.about p.handle := by
  simp [remembered, keep]

@[simp] theorem remembered_poison (p : Program) : p.poison.remembered = p.remembered := by
  simp [remembered, poison]

@[simp] theorem program_remembered (p : Program) : p.remembered.program = some p.handle :=
  UniformCache.program_about _ _

theorem locations_keep {p : Program} {c : UniformCache} (h : c.program = some p.handle) :
    (p.keep c).locations = c.locations := by
  rw [locations, remembered_keep, UniformCache.about_of_eq h]

@[simp] theorem remembered_settled (p : Program) : p.settled.remembered = p.remembered := by
  simp [settled]

@[simp] theorem handle_settled (p : Program) : p.settled.handle = p.handle := rfl

@[simp] theorem settled_settled (p : Program) : p.settled.settled = p.settled := by
  rw [settled, remembered_settled]
  rfl

theorem locations_settled (p : Program) : p.settled.locations = p.locations :=
  congrArg UniformCache.locations p.remembered_settled

/-- The program with one more location to remember. -/
def learn (p : Program) (name : String) (location : Int32) : Program :=
  p.keep (p.remembered.put name location)

@[simp] theorem remembered_learn (p : Program) (name : String) (location : Int32) :
    (p.learn name location).remembered = p.remembered.put name location := by
  rw [learn, remembered_keep, UniformCache.about_of_eq]
  exact p.program_remembered

theorem settled_learn (p : Program) (name : String) (location : Int32) :
    (p.learn name location).settled = p.settled.learn name location := by
  rw [settled, remembered_learn, learn, learn, remembered_settled]
  rfl

theorem settled_poison (p : Program) : p.poison.settled = p.settled.poison := by
  rw [settled, remembered_poison]
  rfl

end Program

section Run

variable {σ : Type} [GraphicsDevice σ] {w : World σ} {r : Ref Program} {p : Program}

omit [GraphicsDevice σ] in
theorem get?_altered (f : Program → Program) (hp : w.programs.get? r = some p) :
    (w.altered r f).programs.get? r = some (f p) := by
  show (w.programs.update r f).get? r = some (f p)
  rw [Pool.get?_update, hp]
  rfl

omit [GraphicsDevice σ] in
theorem altered_altered (f g : Program → Program) :
    (w.altered r f).altered r g = w.altered r (g ∘ f) := by
  show Pooled.setPool w ((w.programs.update r f).update r g) = _
  rw [Pool.update_update]
  rfl

/-- A device does not see the objects. -/
theorem asked_altered (q : Request) (f : Program → Program) :
    (w.altered r f).asked q = (w.asked q).altered r f := rfl

/-- The world in which it was noted that a uniform has no location, if it has none. -/
def noted (location : Int32) (name : String) (program : ProgramHandle) (w : World σ) : World σ :=
  if location < 0 then
    HasJournal.note ⟨.debug, shaderSource,
      "Uniform '" ++ name ++ "' not found in program " ++ program.text⟩ w
  else w

omit [GraphicsDevice σ] in
/-- What is noted is in the journal alone. -/
theorem exists_noted (location : Int32) (name : String) (program : ProgramHandle) (w : World σ) :
    ∃ journal, noted location name program w = { w with journal := journal } := by
  unfold noted
  split
  · exact ⟨_, rfl⟩
  · exact ⟨_, rfl⟩

omit [GraphicsDevice σ] in
theorem noted_altered (location : Int32) (name : String) (program : ProgramHandle)
    (f : Program → Program) :
    noted location name program (w.altered r f) =
      (noted location name program w).altered r f := by
  unfold noted
  split
  · rfl
  · rfl

section Lock

variable {α : Type} {use : UniformCache → Render σ α} {w' : World σ}

omit [GraphicsDevice σ] in
theorem Program.run_lockCache {a : α} (hp : w.programs.get? r = some p)
    (huse : (use p.cache.value).run.run w = (.ok a, w')) :
    (lockCache r use).run.run w = (.ok a, w') := by
  unfold lockCache
  rw [run_view_bind hp, Locked.recover_eq, run_unwinding, huse]

omit [GraphicsDevice σ] in
theorem Program.run_lockCache_abort (hp : w.programs.get? r = some p)
    (huse : (use p.cache.value).run.run w = (.error .abort, w')) :
    (lockCache r use).run.run w = (.error .abort, w'.altered r poison) := by
  unfold lockCache
  rw [run_view_bind hp, Locked.recover_eq, run_unwinding, huse]

end Lock

theorem Program.run_askLocation (program : ProgramHandle) (name : String) (c : UniformCache)
    (w : World σ) :
    (askLocation r program name c).run.run w =
      match (GraphicsDevice.perform (.uniformLocation program name) w.device).reply with
      | none => (.error .abort, w.asked (.uniformLocation program name))
      | some (location : Int32) => (.ok location,
          (noted location name program (w.asked (.uniformLocation program name))).altered r
            fun p => p.keep (c.put name location)) := by
  unfold askLocation
  refine (run_bind (ask (.uniformLocation program name)) _ w).trans ?_
  rw [run_ask]
  rcases (GraphicsDevice.perform (.uniformLocation program name) w.device).reply with
    _ | (location : Int32)
  · rfl
  · dsimp only
    unfold noted
    split
    · rfl
    · rfl

/-- What looking up comes to. -/
theorem Program.run_uniformLocation (hp : w.programs.get? r = some p) (name : String) :
    (uniformLocation r name).run.run w =
      match p.locations.lookup name with
      | some location => (.ok location, w.altered r fun q => q.keep p.remembered)
      | none =>
          match (GraphicsDevice.perform (.uniformLocation p.handle name) w.device).reply with
          | none => (.error .abort, (w.asked (.uniformLocation p.handle name)).altered r
              fun q => (q.keep p.remembered).poison)
          | some (location : Int32) => (.ok location,
              (noted location name p.handle (w.asked (.uniformLocation p.handle name))).altered r
                fun q => q.keep (p.remembered.put name location)) := by
  have hkept : p.remembered = p.cache.value.about p.handle := by
    rw [remembered, Locked.recover_eq]
  have halter : ∀ (c : UniformCache) (f : Unit → Render σ Int32),
      (alter r (fun q => q.keep c) >>= f).run.run w =
        (f ()).run.run (w.altered r fun q => q.keep c) := fun _ _ => rfl
  unfold uniformLocation
  rw [run_view_bind hp]
  cases hlookup : p.locations.lookup name with
  | some location =>
    refine run_lockCache hp ?_
    dsimp only
    rw [← hkept, halter, show p.remembered.locations.lookup name = some location from hlookup]
    rfl
  | none =>
    have hbody : ((alter r fun q => q.keep p.remembered) >>= fun _ =>
        match p.remembered.locations.lookup name with
        | some location => pure location
        | none => askLocation r p.handle name p.remembered : Render σ Int32).run.run w =
          (askLocation r p.handle name p.remembered).run.run
            (w.altered r fun q => q.keep p.remembered) := by
      rw [halter, show p.remembered.locations.lookup name = none from hlookup]
    have hdevice : (w.altered r fun q => q.keep p.remembered).device = w.device := rfl
    rw [run_askLocation, hdevice, asked_altered] at hbody
    rcases hreply : (GraphicsDevice.perform (.uniformLocation p.handle name) w.device).reply with
      _ | (location : Int32)
    · rw [hreply, hkept] at hbody
      refine (run_lockCache_abort hp hbody).trans ?_
      rw [← hkept, altered_altered]
      rfl
    · rw [hreply] at hbody
      dsimp only at hbody
      rw [noted_altered, hkept] at hbody
      refine (run_lockCache hp hbody).trans ?_
      rw [← hkept, altered_altered]
      rfl

/-- A location is known, or else the device tells it. -/
theorem Program.runs_locating {name : String} {Q : Int32 → World σ → Prop} {E : World σ → Prop}
    (hknown : ∀ p location, w.programs.get? r = some p →
      p.locations.lookup name = some location →
      Q location (w.altered r fun q => q.keep p.remembered))
    (hasked : ∀ p, ∀ location : Int32, w.programs.get? r = some p →
      p.locations.lookup name = none →
      (GraphicsDevice.perform (.uniformLocation p.handle name) w.device).reply = some location →
      Q location ((noted location name p.handle
        (w.asked (.uniformLocation p.handle name))).altered r
          fun q => q.keep (p.remembered.put name location))) :
    Runs (uniformLocation r name) w Q E := by
  cases hp : w.programs.get? r with
  | none =>
    have hcut : (uniformLocation r name : Render σ Int32).run.run w = (.error .abort, w) := by
      unfold uniformLocation
      rw [run_bind, run_view, show (Pooled.pool w).get? r = none from hp]
    unfold Runs
    rw [hcut]
    exact .inl rfl
  | some p =>
    unfold Runs
    rw [run_uniformLocation hp]
    cases hlookup : p.locations.lookup name with
    | some location => exact hknown p location hp hlookup
    | none =>
      rcases hreply : (GraphicsDevice.perform (.uniformLocation p.handle name) w.device).reply with
        _ | (location : Int32)
      · exact .inl rfl
      · exact hasked p location hp hlookup hreply

end Run

end RenderKit
