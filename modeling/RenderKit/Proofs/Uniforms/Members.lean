import RenderKit.Proofs.OpenGL.Reference
import RenderKit.Proofs.OpenGL.Sessions
import RenderKit.Proofs.OpenGL.Spares
import RenderKit.Proofs.Uniforms.Current

set_option autoImplicit false

/-! # Which uniform a name stands for

A program keeps the locations it has looked up, and these are still what the driver would say. So a
uniform that is set is the one that its name stands for, and no other uniform is written: if two
stages have a member of one name, then the first of the two is. -/

namespace RenderKit

theorem Program.mem_recalls_of_lookup {p : Program} {key : String} {location : Int32}
    (h : p.locations.lookup key = some location) :
    (⟨p.handle, key, location⟩ : Recall) ∈ Traced.recalls p := by
  obtain ⟨before, after, hlocations, -⟩ := List.lookup_eq_some_iff.mp h
  exact List.mem_map.mpr ⟨(key, location), by simp [hlocations], rfl⟩

section Writes

variable {σ : Type} [GraphicsDevice σ] {device : σ} {p : Program} {key : String}
  {value : UniformValue} {found : Bool} {location : Int32} {new : List Call}

theorem Written.found_iff (h : Written location value found new) :
    found = true ↔ 0 ≤ location := by
  cases h with
  | nowhere hnone => simpa using Int32.not_le.mpr hnone
  | there _ hlocated => simpa using hlocated

theorem Written.writes_trace (h : Written location value found new) (calls : List Call) :
    (Calls.trace (calls ++ new)).writes = (Calls.trace calls).writes ++
      if found then [⟨(Calls.trace calls).bindings.program, location, value⟩] else [] := by
  cases h with
  | nowhere _ => simp
  | there reply hlocated => simp [Trace.after, Int32.not_lt.mpr hlocated]

/-- There is one location, which is known or which the device tells. The uniform is there if it is
    not negative, and then this is where the value is written. -/
theorem WritesUniform.writes_trace (h : WritesUniform device p key value found new)
    (calls : List Call) :
    ∃ location, (found = true ↔ 0 ≤ location) ∧
      (p.locations.lookup key = some location ∨
        (GraphicsDevice.perform (.uniformLocation p.handle key) device).reply = some location) ∧
      (Calls.trace (calls ++ new)).writes = (Calls.trace calls).writes ++
        if found then [⟨(Calls.trace calls).bindings.program, location, value⟩] else [] := by
  cases h with
  | known hknown h => exact ⟨_, h.found_iff, .inl hknown, h.writes_trace calls⟩
  | @looked location written hreply h =>
      let looked : Call := ⟨.uniformLocation p.handle key, some location⟩
      refine ⟨location, h.found_iff, .inr hreply, ?_⟩
      -- looking up changes neither what is in use nor what is written
      have hwrites := h.writes_trace (calls ++ [looked])
      rw [← List.append_cons] at hwrites
      simpa [looked, Trace.after, Bindings.after, Request.deleted] using hwrites

end Writes

namespace Session

section

variable {δ : Type} [RecordingDriver δ] [Conforming δ] [UniformDriver δ]

/-- A guard that knows that programs remember what the driver tells. -/
def reporting : Guard (GlDevice δ) :=
  { (mirroring : Guard (GlDevice δ)) with
    believes d x := x.program.native ∈ d.context.objects ∧
      x.location = (d.uniforms x.program).resolve x.name
    believes_ask hreply hkept hbefore := by
      obtain ⟨hthere, hsame⟩ := GlDevice.uniforms_perform hreply hbefore.1 hkept
      exact ⟨hthere, hsame ▸ hbefore.2⟩
    believes_reply hlaw hanswered hlawful hlive hreply := by
      obtain ⟨hlocation, hsame⟩ := GlDevice.reply_uniformLocation hreply
      have hbefore := (hlaw hanswered hlawful).live _ hlive
      obtain ⟨hthere, -⟩ := GlDevice.uniforms_perform hreply hbefore List.not_mem_nil
      exact ⟨hthere, hsame ▸ hlocation⟩ }

variable {device : GlDevice δ} {files : Files} {s s' : State (GlDevice δ)} {name : Name}
  {r : Ref Program} {p : Program} {key : String} {value : UniformValue} {location : Int32}
  {answer : Answer}

theorem kept_reporting [Toolchain] [ImageCodec] (hdevice : device.context.trace = .start)
    (hs : ReachedBy device files Action.Genuine s) : Kept reporting [] 0 s := by
  have hstart : Owns (reporting : Guard (GlDevice δ)) 0 (.start device) :=
    owns_start rfl rfl rfl fun _ _ => GlDevice.mirrors_nil hdevice
  have hdeliver : ∀ m, (reporting : Guard (GlDevice δ)).Tolerates
      fun d => (GlDevice.deliver m d).2.2 := by
    refine fun m => ⟨fun _ _ h => h.deliver m, fun d x hbelieved => ?_⟩
    simpa only [reporting, GlDevice.context, GlDevice.uniforms, GlDevice.driver_deliver]
      using hbelieved
  exact kept_of_reached hstart rfl (fun _ ha => ha.allowed (fun _ => trivial) hdeliver) hs

/-- What a program keeps is what its driver tells. -/
theorem resolve_of_lookup [Toolchain] [ImageCodec] (hdevice : device.context.trace = .start)
    (hs : ReachedBy device files Action.Genuine s) (hp : s.world.programs.get? r = some p)
    (hknown : p.locations.lookup key = some location) :
    location = (s.world.device.uniforms p.handle).resolve key := by
  have hfresh := (mirrors_of_reached hdevice hs).fresh
  have hrecalled := mem_recalls_of_get? hp (Program.mem_recalls_of_lookup hknown)
  exact ((kept_reporting hdevice hs).owns.believed hfresh _ hrecalled).2

/-- A uniform that is set in the program in use is the one its name stands for. It is written once,
    and nothing else is. Nothing at all is written if the name stands for nothing, and the answer
    tells which. -/
theorem uniform_of_name [Toolchain] [ImageCodec] (hdevice : device.context.trace = .start)
    (hs : ReachedBy device files Action.Genuine s)
    (hname : s.objects.lookup name = some (.program r))
    (hp : s.world.programs.get? r = some p)
    (hcurrent : s.world.device.context.bindings.program = p.handle.raw)
    (hrun : (play (.setUniform name key value)).run.run s = (.ok answer, s')) :
    (∃ location, (s.world.device.uniforms p.handle).Stands key location ∧
        answer = .truth true ∧ s'.world.device.context.writes =
          s.world.device.context.writes ++ [⟨p.handle.raw, location, value⟩]) ∨
      ((∀ location, ¬(s.world.device.uniforms p.handle).Stands key location) ∧
        answer = .truth false ∧
        s'.world.device.context.writes = s.world.device.context.writes) := by
  have hmirrors := mirrors_of_reached hdevice hs
  have hs' : ReachedBy device files Action.Genuine s' :=
    hs.act (a := .step (.setUniform name key value)) trivial hrun (by simp)
  obtain ⟨found, rfl, new, hnew, hwrites⟩ := writes_setUniform_program hname hp hrun
  obtain ⟨location, hfound, hsource, hwrites⟩ := hwrites.writes_trace s.world.history
  -- the location is known from before, or the device was asked just now
  have hresolved : location = (s.world.device.uniforms p.handle).resolve key :=
    hsource.elim (resolve_of_lookup hdevice hs hp) fun hreply =>
      (GlDevice.reply_uniformLocation hreply).1
  rw [← hnew, ← (mirrors_of_reached hdevice hs').trace, ← hmirrors.trace] at hwrites
  have hprogram : s.world.device.context.trace.bindings.program = p.handle.raw := hcurrent
  rw [hprogram] at hwrites
  cases found with
  | true => exact .inl ⟨location, UniformTable.stands_iff.mpr ⟨hfound.mp rfl, hresolved.symm⟩, rfl,
      hwrites⟩
  | false =>
      refine .inr ⟨fun other hother => ?_, rfl, by simpa using hwrites⟩
      obtain ⟨hlocated, hsame⟩ := UniformTable.stands_iff.mp hother
      rw [← hsame, ← hresolved] at hlocated
      exact absurd (hfound.mpr hlocated) (by decide)

end

/-! ## A member of two stages -/

def tint : String := "tint"

/-- The tint of the second stage. -/
def secondTint : String := "_push_constant_binding_fs.tint"

def programInUse : State (GlDevice GlReference) :=
  actAll
    [.step (.make "p" (.program none none false [.input emptyStage])), .step (.bind "p" 0)]
    { world := .start .reference, objects := [], files := .empty }

/-- The tint is set. -/
def tintSet : Except Refusal Answer × State (GlDevice GlReference) :=
  (play (.setUniform "p" tint (.float .one))).run.run programInUse

theorem reached_programInUse : ReachedBy .reference .empty Action.Genuine programInUse := by
  refine ReachedBy.start.of_allOk ?_ (by decide +kernel)
  simp [Action.Genuine, Action.Public, Recipe.Named]

theorem lookup_programInUse : programInUse.objects.lookup "p" = some (.program ⟨0⟩) :=
  lookup_of_program? (by decide +kernel)

theorem tintSet_answer : tintSet.1 = .ok (.truth true) := eq_of_truth? (by decide +kernel)

set_option maxRecDepth 2000 in
/-- What is written is what the tint stands for. -/
theorem uniform_of_name_reference :
    ∃ location, GlReference.uniformTable.Stands tint location ∧
      tintSet.2.world.device.context.writes =
        programInUse.world.device.context.writes ++ [⟨2, location, .float .one⟩] := by
  have hshape : (programInUse.world.programs.get? ⟨0⟩).map (fun p => p.handle.raw) = some 2 := by
    decide +kernel
  obtain ⟨p, hp, hraw⟩ := Option.map_eq_some_iff.mp hshape
  have hcurrent : programInUse.world.device.context.bindings.program = p.handle.raw := by
    rw [hraw]
    decide +kernel
  rcases uniform_of_name rfl reached_programInUse lookup_programInUse hp hcurrent
    (Prod.ext tintSet_answer rfl) with ⟨location, hstands, -, hwrites⟩ | ⟨-, hfalse, -⟩
  · exact ⟨location, hstands, hraw ▸ hwrites⟩
  · cases hfalse

set_option maxRecDepth 2000 in
/-- The tint of the second stage has a location, but only that of the first one is written. -/
theorem second_tint_unwritten :
    ReachedBy .reference .empty Action.Genuine programInUse ∧
      programInUse.objects.lookup "p" = some (.program ⟨0⟩) ∧
      tintSet.1 = .ok (.truth true) ∧
      ∃ p, programInUse.world.programs.get? ⟨0⟩ = some p ∧
        programInUse.world.device.context.bindings.program = p.handle.raw ∧
        some tint ∉ (programInUse.world.device.uniforms p.handle).active ∧
        some secondTint ∈ (programInUse.world.device.uniforms p.handle).active ∧
        MemberNamed secondTint tint ∧
        0 ≤ (programInUse.world.device.uniforms p.handle).location secondTint ∧
        ∀ x ∈ tintSet.2.world.device.context.writes,
          x.location ≠ (programInUse.world.device.uniforms p.handle).location secondTint := by
  have hshape : (programInUse.world.programs.get? ⟨0⟩).map (fun p => p.handle.raw) = some 2 := by
    decide +kernel
  obtain ⟨p, hp, hraw⟩ := Option.map_eq_some_iff.mp hshape
  have htable : programInUse.world.device.uniforms p.handle = GlReference.uniformTable := rfl
  refine ⟨reached_programInUse, lookup_programInUse, tintSet_answer, p, hp, ?_, ?_⟩
  · rw [hraw]
    decide +kernel
  rw [htable]
  refine ⟨by decide +kernel, by decide +kernel, ?_, by decide +kernel, by decide +kernel⟩
  exact UniformTable.endsWithMember_iff.mp (by decide +kernel)

end Session

end RenderKit
