import RenderKit.Proofs.OpenGL.Spares
import RenderKit.Proofs.OpenGL.Reference

set_option autoImplicit false

/-! # Devices that tell locations by name

A device tells the locations of a program by name if what it replies to a name is always the same,
whatever is used, bound and written in between. It may be cut off by some names, and then always by
these. Devices of the graphics interface are like that: they tell what their table of uniforms says,
and they are cut off by names with a null character. -/

namespace RenderKit

/-- Requests that uniforms, textures and samplers are applied with. -/
def Request.isApplying (r : Request) : Bool :=
  r matches .useProgram _ | .uniformLocation _ _ | .setUniform _ _ | .bindTexture _ _
    | .bindSampler _ _

section Devices

variable {σ : Type} [GraphicsDevice σ]

/-- A device after some requests. -/
def deviceAfter (device : σ) (rs : List Request) : σ :=
  rs.foldl (fun d r => (GraphicsDevice.perform r d).state) device

/-- The reply for a name is always this one, and none if the device is cut off by it. -/
def TellsByName (device : σ) (program : ProgramHandle) (answer : String → Option Int32) : Prop :=
  ∀ rs : List Request, (∀ r ∈ rs, r.isApplying) → ∀ name,
    (GraphicsDevice.perform (.uniformLocation program name) (deviceAfter device rs)).reply =
      answer name

namespace TellsByName

variable {device : σ} {program : ProgramHandle} {answer : String → Option Int32}

theorem reply (h : TellsByName device program answer) (name : String) :
    (GraphicsDevice.perform (.uniformLocation program name) device).reply = answer name :=
  h [] (fun _ hr => absurd hr List.not_mem_nil) name

theorem perform (h : TellsByName device program answer) {r : Request} (hr : r.isApplying) :
    TellsByName (GraphicsDevice.perform r device).state program answer := fun rs hrs =>
  h (r :: rs) (List.forall_mem_cons.mpr ⟨hr, hrs⟩)

/-- It is enough to have something that requests keep, and with which the replies are these. -/
theorem of_kept {P : σ → Prop} (hdevice : P device)
    (hkept : ∀ (d : σ) (r : Request), P d → r.isApplying → P (GraphicsDevice.perform r d).state)
    (hreply : ∀ (d : σ) (name : String), P d →
      (GraphicsDevice.perform (.uniformLocation program name) d).reply = answer name) :
    TellsByName device program answer := by
  intro rs
  induction rs generalizing device with
  | nil => exact fun _ name => hreply device name hdevice
  | cons r rest ih =>
    intro hrs
    obtain ⟨hr, hrest⟩ := List.forall_mem_cons.mp hrs
    exact ih (hkept device r hdevice hr) hrest

end TellsByName

end Devices

/-! ## Devices of the graphics interface -/

/-- What is told of a name. A null character cannot be handed to the driver. -/
def UniformTable.told? (t : UniformTable) (name : String) : Option Int32 :=
  if '\x00' ∈ name.toList then none else some (t.resolve name)

/-- Names of active uniforms have no null characters, as they end where one stands. -/
def UniformTable.Terminated (t : UniformTable) : Prop :=
  ∀ u, some u ∈ t.active → '\x00' ∉ u.toList

theorem terminated_uniformTable : GlReference.uniformTable.Terminated := by
  intro u hu
  have hnames : ∀ name ∈ GlReference.uniformNames, '\x00' ∉ name.toList := by decide +kernel
  have hmem : u ∈ GlReference.uniformNames := by simpa [GlReference.uniformTable] using hu
  exact hnames u hmem

namespace GlDevice

variable {δ : Type} [GlDriver δ] [UniformDriver δ] {α β : Type} {w w' : Work δ}
  {program : ProgramHandle} {name : String}

/-! ### What is left as it is -/

/-- A task leaves all uniforms as they are, also where it is cut off. -/
def Leaves (task : Task δ α) : Prop := ∀ w, (task.run.run w).2.uniforms = w.uniforms

theorem leaves_pure (a : α) : Leaves (pure a : Task δ α) := fun _ => rfl

theorem leaves_abort : Leaves (abort : Task δ α) := fun _ => rfl

theorem Leaves.bind {task : Task δ α} {f : α → Task δ β} (h : Leaves task)
    (hf : ∀ a, Leaves (f a)) : Leaves (task >>= f) := by
  intro w
  have hw := h w
  rw [run_bind]
  rcases hrun : task.run.run w with ⟨e | a, w₁⟩
  all_goals rw [hrun] at hw
  · exact hw
  · exact (hf a w₁).trans hw

theorem leaves_tell {c : GlCommand} (hc : c.relinks? = none) : Leaves (tell c : Task δ Unit) :=
  fun w => funext fun _ => UniformDriver.uniforms_run w.driver (by simp [hc])

theorem leaves_query (q : GlQuery) : Leaves (query q : Task δ q.Reply) :=
  fun w => UniformDriver.uniforms_ask q w.driver

theorem leaves_uniformLocation? :
    Leaves (uniformLocation? program name : Task δ (Option Int32)) := by
  unfold uniformLocation? lookUp?
  dsimp only
  split
  · exact leaves_abort.bind fun _ => (leaves_query _).bind fun _ => leaves_pure _
  · exact (leaves_query _).bind fun _ => leaves_pure _

theorem leaves_memberLocation? {index left : Nat} :
    Leaves (memberLocation? program name index left : Task δ (Option Int32)) := by
  induction left generalizing index with
  | zero => exact leaves_pure _
  | succ left ih =>
    refine (leaves_query _).bind fun active => ?_
    extract_lets path next
    have hnext : ∀ found, Leaves (next found) := by
      rintro (_ | location)
      · exact ih
      · exact leaves_pure _
    split
    · exact leaves_uniformLocation?.bind hnext
    · exact hnext none

theorem leaves_serve {capabilities : Capabilities} {r : Request} (hr : r.isApplying) :
    Leaves (serve capabilities r : Task δ r.Reply) := by
  cases r with
  | useProgram | bindSampler => exact leaves_tell rfl
  | setUniform location value =>
    show Leaves (if location < 0 then pure () else tell (.uniform location value) : Task δ Unit)
    split
    · exact leaves_pure _
    · exact leaves_tell rfl
  | bindTexture slot texture =>
    show Leaves (bindTexture slot texture)
    unfold bindTexture
    dsimp only
    split
    · exact leaves_abort.bind fun _ => (leaves_tell rfl).bind fun _ => leaves_tell rfl
    · exact (leaves_tell rfl).bind fun _ => leaves_tell rfl
  | uniformLocation program name =>
    refine leaves_uniformLocation?.bind ?_
    rintro (_ | location)
    · exact (leaves_query _).bind fun _ => leaves_memberLocation?.bind fun _ => leaves_pure _
    · exact leaves_pure _
  | _ => cases hr

theorem uniforms_applying {r : Request} (hr : r.isApplying) (d : GlDevice δ)
    (program : ProgramHandle) :
    (GlDevice.perform r d).state.uniforms program = d.uniforms program := by
  have hleaves : Leaves (serve d.capabilities r : Task δ r.Reply) := leaves_serve hr
  exact congrFun (hleaves ⟨d.driver, #[]⟩) program.raw

/-! ### What is told -/

section Ends

omit [UniformDriver δ]

/-- A task comes to its end. -/
def Ends (task : Task δ α) (w : Work δ) : Prop := ∃ a w', task.run.run w = (.ok a, w')

omit [GlDriver δ] in
theorem ends_pure (a : α) : Ends (pure a : Task δ α) w := ⟨a, w, rfl⟩

omit [GlDriver δ] in
theorem Ends.bind {task : Task δ α} {f : α → Task δ β} {P : α → Work δ → Prop} {E : Work δ → Prop}
    (h : Ends task w) (hruns : Runs task w P E) (hf : ∀ a w', P a w' → Ends (f a) w') :
    Ends (task >>= f) w := by
  obtain ⟨a, w', hrun⟩ := h
  obtain ⟨b, w'', hrest⟩ := hf a w' (hruns.of_ok hrun)
  refine ⟨b, w'', ?_⟩
  rw [run_bind, hrun]
  exact hrest

theorem ends_query (q : GlQuery) : Ends (query q : Task δ q.Reply) w := ⟨_, _, rfl⟩

theorem ends_uniformLocation? (hname : '\x00' ∉ name.toList) :
    Ends (uniformLocation? program name : Task δ (Option Int32)) w := by
  unfold uniformLocation? lookUp?
  dsimp only
  rw [if_neg (by simpa using hname)]
  exact ⟨_, _, rfl⟩

/-- A name that cannot be handed over cuts the search off at once. -/
theorem run_uniformLocation_of_mem (hname : '\x00' ∈ name.toList) :
    (uniformLocation program name : Task δ Int32).run.run w = (.error .abort, w) := by
  have hlookUp : (uniformLocation? program name : Task δ (Option Int32)).run.run w =
      (.error .abort, w) := by
    unfold uniformLocation? lookUp?
    dsimp only
    rw [if_pos (by simpa using hname)]
    rfl
  rw [uniformLocation, run_bind, hlookUp]

end Ends

theorem subset_withoutIndex (path : List Char) : withoutIndex path ⊆ path := by
  unfold withoutIndex
  split
  · exact List.take_subset _ _
  · exact fun _ h => h

section Tables

variable {t : UniformTable}

/-- What is handed over on the way is a part of what the driver has handed out. -/
theorem ends_memberLocation? (hterminated : t.Terminated) {index left : Nat}
    (ht : w.uniforms program.raw = t) :
    Ends (memberLocation? program name index left : Task δ (Option Int32)) w := by
  induction left generalizing index w with
  | zero => exact ends_pure _
  | succ left ih =>
    refine (ends_query _).bind (E := fun _ => True) runs_tellsQuery ?_
    rintro (active : Option String) w₁ ⟨hactive, h₁⟩
    have hactive : active = (t.active[index]?).join := ht ▸ hactive
    extract_lets path next
    have hnext : ∀ found w', w'.uniforms = w.uniforms → Ends (next found) w' := by
      rintro (_ | location) w' hw'
      · exact ih (hw' ▸ ht)
      · exact ends_pure _
    split
    · rename_i hmember
      obtain ⟨hsome, -⟩ := Bool.and_eq_true_iff.mp hmember
      obtain ⟨u, rfl⟩ := Option.isSome_iff_exists.mp hsome
      have hu : some u ∈ t.active :=
        List.mem_of_getElem? (Option.join_eq_some_iff.mp hactive.symm)
      have hpath : '\x00' ∉ (String.ofList path).toList := by
        rw [String.toList_ofList]
        exact fun hmem => hterminated u hu (subset_withoutIndex _ hmem)
      -- what the path is does not matter from here on
      clear_value path
      refine (ends_uniformLocation? hpath).bind (E := fun _ => True)
        (runs_exactLocation rfl) fun found w₂ h₂ => ?_
      exact hnext found w₂ (h₂.1.trans h₁)
    · exact hnext none w₁ h₁

theorem ends_uniformLocation (hterminated : t.Terminated) (ht : w.uniforms program.raw = t)
    (hname : '\x00' ∉ name.toList) : Ends (uniformLocation program name : Task δ Int32) w := by
  refine (ends_uniformLocation? hname).bind (E := fun _ => True) (runs_exactLocation rfl) ?_
  rintro (_ | location) w₁ ⟨h₁, -⟩
  · refine (ends_query _).bind (E := fun _ => True) runs_tellsQuery ?_
    rintro count w₂ ⟨-, h₂⟩
    have ht₂ : w₂.uniforms program.raw = t := by rw [h₂, h₁, ht]
    exact (ends_memberLocation? hterminated ht₂).bind (P := fun _ _ => True) (E := fun _ => True)
      (runs_anyhow fun _ _ => trivial) fun _ _ _ => ends_pure _
  · exact ends_pure _

end Tables

/-- The device replies what its table says, unless it is cut off by the name. -/
theorem reply_eq_told? {d : GlDevice δ} (hterminated : (d.uniforms program).Terminated)
    (name : String) :
    (GlDevice.perform (.uniformLocation program name) d).reply =
      (d.uniforms program).told? name := by
  have hreply : (GlDevice.perform (.uniformLocation program name) d).reply =
      ((uniformLocation program name).run.run ⟨d.driver, #[]⟩).1.toOption := rfl
  unfold UniformTable.told?
  split
  · rename_i hname
    rw [hreply, run_uniformLocation_of_mem hname]
    rfl
  · rename_i hname
    obtain ⟨location, w', hrun⟩ : Ends (uniformLocation program name) ⟨d.driver, #[]⟩ :=
      ends_uniformLocation hterminated rfl hname
    have htold : (GlDevice.perform (.uniformLocation program name) d).reply = some location := by
      rw [hreply, hrun]
      rfl
    rw [htold, (reply_uniformLocation htold).1]

/-- Devices of the graphics interface tell locations by name. -/
theorem tellsByName {d : GlDevice δ} (hterminated : (d.uniforms program).Terminated) :
    TellsByName d program (d.uniforms program).told? := by
  refine TellsByName.of_kept (P := fun d' => d'.uniforms program = d.uniforms program) rfl ?_ ?_
  · exact fun d' r hd' hr => (uniforms_applying hr d' program).trans hd'
  · intro d' name hd'
    rw [← hd']
    exact reply_eq_told? (hd' ▸ hterminated) name

end GlDevice

end RenderKit
