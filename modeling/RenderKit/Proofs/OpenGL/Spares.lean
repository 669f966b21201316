import RenderKit.Proofs.OpenGL.Uniforms
import RenderKit.Proofs.OpenGL.Vocabulary

set_option autoImplicit false

/-! # Programs that are left alone

A request other than the deletion of a program leaves the program there, with the uniforms it has:
only linking and deleting give a program other uniforms, and what is linked is a new program. So a
device tells the same of a name as long as the program is there. -/

namespace RenderKit

/-- Requests that link or delete a program. -/
def Request.relinks (r : Request) : Bool := r matches .linkProgram _ | .deleteProgram _

theorem Request.relinks?_of_mayTell {r : Request} {c : GlCommand} (hr : r.relinks = false)
    (h : r.mayTell c) : c.relinks? = none := by
  cases c with
  | linkProgram program =>
      cases r with
      | linkProgram => cases hr
      | _ => cases h
  | delete kind name =>
      cases kind with
      | program =>
          cases r with
          | linkProgram | deleteProgram => cases hr
          | _ => cases h
      | _ => rfl
  | _ => rfl

namespace GlDevice

variable {δ : Type} [GlDriver δ] [UniformDriver δ]

/-! ## Commands and queries -/

section Spares

variable [Conforming δ] {α : Type} {program : GlName}

/-- There is a program, and these are its uniforms. -/
def Work.Knows (w : Work δ) (program : GlName) (t : UniformTable) : Prop :=
  ⟨.program, program⟩ ∈ w.context.objects ∧ w.uniforms program = t

/-- A task neither links nor deletes a program that is there. -/
def Spares (program : GlName) (task : Task δ α) : Prop :=
  ∀ (t : UniformTable) (w : Work δ), w.Knows program t →
    Runs task w (fun _ w' => w'.Knows program t) (fun w' => w'.Knows program t)

theorem mem_objects_run {c : GlCommand} {g : GlContext} (hc : c.relinks? ≠ some program)
    (h : ⟨.program, program⟩ ∈ g.objects) : ⟨.program, program⟩ ∈ (g.run c).objects := by
  cases c with
  | delete kind name =>
      refine List.mem_filter.mpr ⟨h, ?_⟩
      have hne : (⟨.program, program⟩ : Native) ≠ ⟨kind, name⟩ := by
        rintro ⟨⟩
        exact hc rfl
      exact decide_eq_true hne
  | bindBuffer target buffer => cases target <;> exact h
  | switch what on => cases what <;> exact h
  | stencilMask face mask => cases face <;> exact h
  | _ => exact h

theorem mem_objects_asked {q : GlQuery} {reply : q.Reply} {g : GlContext} {x : Native}
    (h : x ∈ g.objects) : x ∈ (g.asked q reply).objects := by
  cases q with
  | create object =>
      unfold GlContext.asked
      dsimp only
      split
      · exact h
      · exact List.mem_cons_of_mem _ h
  | _ => exact h

theorem Spares.attempt {task : Task δ α} (h : Spares program task) :
    Spares program (attempt task) := by
  intro t w hw
  refine (runs_attempt (h t w hw)).imp ?_
  rintro (e | a) w' hw'
  · exact hw'
  · exact hw'

/-- It takes a command to link or to delete a program. -/
theorem Says.spares {task : Task δ α} (h : Says (fun c => c.relinks? ≠ some program) task) :
    Spares program task := by
  intro t w hw
  refine h (fun d => (⟨.program, program⟩ : Native) ∈ (Conforming.context d).objects ∧
    UniformDriver.uniforms d program = t) ⟨?_, ?_⟩ w hw
  · rintro c d hc ⟨hthere, huniforms⟩
    have hc : c.relinks? ≠ some program := of_decide_eq_true hc
    rw [Conforming.context_run, UniformDriver.uniforms_run d hc]
    exact ⟨mem_objects_run hc hthere, huniforms⟩
  · rintro q d ⟨hthere, huniforms⟩
    rw [Conforming.context_ask, UniformDriver.uniforms_ask]
    exact ⟨mem_objects_asked hthere, huniforms⟩

/-! ## Requests -/

/-- The program that is linked is a new one. -/
theorem spares_linkProgram {shaders : List ShaderHandle} :
    Spares program (linkProgram shaders : Task δ ProgramHandle) := by
  intro t w hw
  -- there is no object yet that is called as the new program is
  have hcreate : Runs (create .program .program "program" : Task δ ProgramHandle) w
      (fun h w' => h.raw ≠ program ∧ w'.Knows program t) (fun w' => w'.Knows program t) := by
    refine (Runs.and (runs_create rfl rfl) (says_create.spares t w hw)).imp fun h w' hw' =>
      ⟨?_, hw'.2⟩
    rintro rfl
    exact hw'.1.1 hw.1
  refine Runs.bind hcreate fun h w' hw' => ?_
  obtain ⟨hne, hw'⟩ := hw'
  have hothers : (some h.raw : Option GlName) ≠ some program := by simpa using hne
  suffices hlink : Says (fun c => c.relinks? ≠ some program) _ from hlink.spares t w' hw'
  refine (says_tellAll (by simp [GlCommand.relinks?])).bind fun _ => ?_
  refine (says_tell (decide_eq_true hothers)).bind fun _ => ?_
  refine (says_tellAll (by simp [GlCommand.relinks?])).bind fun _ => ?_
  refine says_query.bind fun failure => ?_
  rcases (failure : Option String) with _ | info
  · exact .of_quiet ((quiet_note _ _ _).bind fun _ => quiet_pure _)
  · exact (says_tell (decide_eq_true hothers)).bind fun _ =>
      .of_quiet ((quiet_reject _).bind fun _ => (quiet_note _ _ _).bind fun _ => quiet_pure _)

/-- A request leaves every program alone that it does not delete. -/
theorem spares_serve {capabilities : Capabilities} {r : Request}
    (hr : (⟨.program, program⟩ : Native) ∉ r.deleted) :
    Spares program (serve capabilities r : Task δ r.Reply) := by
  by_cases hrelinks : r.relinks
  · cases r with
    | linkProgram => exact spares_linkProgram.attempt
    | deleteProgram other =>
        have hothers : (some other.raw : Option GlName) ≠ some program := by
          rintro ⟨⟩
          exact hr (List.mem_singleton_self _)
        exact Says.spares (says_deleteNoted (decide_eq_true hothers))
    | _ => cases hrelinks
  · have hnone := fun c => Request.relinks?_of_mayTell (c := c) (eq_false_of_ne_true hrelinks)
    exact ((says_serve r).mono fun c hc => by simp [hnone c hc]).spares

end Spares

/-! ## Devices -/

section Devices

variable {d : GlDevice δ} {r : Request} {program : ProgramHandle}

/-- The uniforms of a program on the driver of a device. -/
def uniforms (d : GlDevice δ) (program : ProgramHandle) : UniformTable :=
  UniformDriver.uniforms d.driver program.raw

/-- The device tells of a name what the table makes of it. -/
theorem reply_uniformLocation {name : String} {location : Int32}
    (hreply : (GlDevice.perform (.uniformLocation program name) d).reply = some location) :
    location = (d.uniforms program).resolve name ∧
      (GlDevice.perform (.uniformLocation program name) d).state.uniforms program =
        d.uniforms program := by
  have hserve : Runs (uniformLocation program name) ⟨d.driver, #[]⟩
      (fun location w => location = (d.uniforms program).resolve name ∧
        UniformDriver.uniforms w.driver program.raw = d.uniforms program) (fun _ => False) :=
    (runs_resolve rfl).imp fun _ _ h => ⟨h.2, congrFun h.1 program.raw⟩
  exact of_perform (r := .uniformLocation program name)
    (Q := fun location driver => location = (d.uniforms program).resolve name ∧
      UniformDriver.uniforms driver program.raw = d.uniforms program) hserve hreply

/-- What is there and is not deleted is there after a request, and has the uniforms it had. -/
theorem uniforms_perform [Conforming δ] {reply : r.Reply}
    (hreply : (GlDevice.perform r d).reply = some reply)
    (hprogram : program.native ∈ d.context.objects) (hr : program.native ∉ r.deleted) :
    program.native ∈ (GlDevice.perform r d).state.context.objects ∧
      (GlDevice.perform r d).state.uniforms program = d.uniforms program :=
  of_perform
    (Q := fun _ driver => program.native ∈ (Conforming.context driver).objects ∧
      UniformDriver.uniforms driver program.raw = d.uniforms program)
    (spares_serve hr _ ⟨d.driver, #[]⟩ ⟨hprogram, rfl⟩) hreply

end Devices

end GlDevice

end RenderKit
