import RenderKit.Proofs.OpenGL.History

set_option autoImplicit false

/-! # What a driver tells about uniforms

A program has active uniforms, which have names and mostly a location. They stay what they are until
the program is linked again or goes. A name is looked up as it is first, and else it stands for the
first active uniform that is a member of this name and has a location. -/

namespace RenderKit

/-! ## Tables -/

/-- An active uniform is a member of a name: something, a dot and the name. If the member is an array,
    the index of its first element follows. -/
def MemberNamed (active name : String) : Prop :=
  ∃ outer, active.toList = outer ++ '.' :: name.toList ++ "[0]".toList ∨
    ¬"[0]".toList <:+ active.toList ∧ active.toList = outer ++ '.' :: name.toList

/-- What a driver tells about the uniforms of a program. -/
structure UniformTable where
  /-- The names of the active uniforms, one after the other. Some may be kept back. -/
  active : List (Option String)
  /-- Negative if there is none. -/
  location : String → Int32
  /-- An array is where its first element is. -/
  location_array : ∀ name, some (name ++ "[0]") ∈ active →
    location name = location (name ++ "[0]")

theorem GlDevice.withoutIndex_append (path : List Char) :
    withoutIndex (path ++ "[0]".toList) = path := by
  rw [withoutIndex, if_pos (by simp)]
  simp

theorem GlDevice.withoutIndex_of_not_suffix {path : List Char} (h : ¬"[0]".toList <:+ path) :
    withoutIndex path = path :=
  if_neg (by simpa using h)

namespace UniformTable

variable {t : UniformTable} {name : String} {location : Int32}

/-- The location of an active uniform that is a member of a name. -/
def memberLocation? (t : UniformTable) (name : String) (active : Option String) : Option Int32 :=
  active.bind fun u =>
    if GlDevice.endsWithMember (GlDevice.withoutIndex u.toList) name ∧ 0 ≤ t.location u then
      some (t.location u)
    else none

/-- The location a name stands for, negative if there is none. -/
def resolve (t : UniformTable) (name : String) : Int32 :=
  if 0 ≤ t.location name then t.location name
  else (t.active.findSome? (t.memberLocation? name)).getD (-1)

/-- The location is that of the first active uniform that is a member of a name and has one. -/
def FirstMember (t : UniformTable) (name : String) (location : Int32) : Prop :=
  ∃ before u after, t.active = before ++ some u :: after ∧ MemberNamed u name ∧
    t.location u = location ∧ 0 ≤ location ∧
    ∀ v, some v ∈ before → MemberNamed v name → t.location v < 0

/-- What a name stands for: what it is called by, and else its first member. -/
def Stands (t : UniformTable) (name : String) (location : Int32) : Prop :=
  0 ≤ location ∧
    (t.location name = location ∨ t.location name < 0 ∧ t.FirstMember name location)

theorem location_withoutIndex {active : String} (h : some active ∈ t.active) :
    t.location (String.ofList (GlDevice.withoutIndex active.toList)) = t.location active := by
  by_cases hindex : "[0]".toList <:+ active.toList
  · obtain ⟨path, hpath⟩ := hindex
    obtain rfl : String.ofList path ++ "[0]" = active := by
      rw [← String.toList_inj, String.toList_append, String.toList_ofList, hpath]
    rw [← hpath, GlDevice.withoutIndex_append]
    exact t.location_array _ h
  · rw [GlDevice.withoutIndex_of_not_suffix hindex, String.ofList_toList]

theorem endsWithMember_iff {active name : String} :
    GlDevice.endsWithMember (GlDevice.withoutIndex active.toList) name ↔
      MemberNamed active name := by
  rw [GlDevice.endsWithMember, List.isSuffixOf_iff_suffix]
  refine exists_congr fun outer => ?_
  by_cases hindex : "[0]".toList <:+ active.toList
  · obtain ⟨path, hpath⟩ := hindex
    rw [← hpath, GlDevice.withoutIndex_append, List.append_cancel_right_eq, eq_comm]
    exact (or_iff_left fun h => h.1 (List.suffix_append _ _)).symm
  · rw [GlDevice.withoutIndex_of_not_suffix hindex, eq_comm]
    refine ⟨fun h => .inr ⟨hindex, h⟩, ?_⟩
    rintro (h | ⟨-, h⟩)
    · exact absurd (h ▸ List.suffix_append _ _) hindex
    · exact h

theorem memberLocation?_of_member {u : String}
    (h : GlDevice.endsWithMember (GlDevice.withoutIndex u.toList) name) :
    t.memberLocation? name (some u) = if 0 ≤ t.location u then some (t.location u) else none := by
  simp [memberLocation?, h]

theorem memberLocation?_of_other {u : String}
    (h : GlDevice.endsWithMember (GlDevice.withoutIndex u.toList) name = false) :
    t.memberLocation? name (some u) = none := by
  simp [memberLocation?, h]

theorem memberLocation?_eq_some_iff {active : Option String} :
    t.memberLocation? name active = some location ↔
      ∃ u, active = some u ∧ MemberNamed u name ∧ t.location u = location ∧ 0 ≤ location := by
  rw [memberLocation?, Option.bind_eq_some_iff]
  refine exists_congr fun u => and_congr_right fun _ => ?_
  rw [Option.ite_none_right_eq_some, endsWithMember_iff, Option.some_inj, and_assoc]
  constructor
  · rintro ⟨hmember, hlocated, rfl⟩
    exact ⟨hmember, rfl, hlocated⟩
  · rintro ⟨hmember, rfl, hlocated⟩
    exact ⟨hmember, hlocated, rfl⟩

theorem memberLocation?_eq_none_iff {active : Option String} :
    t.memberLocation? name active = none ↔
      ∀ u, active = some u → MemberNamed u name → t.location u < 0 := by
  rw [Option.eq_none_iff_forall_ne_some]
  simp only [ne_eq, memberLocation?_eq_some_iff, not_exists, not_and]
  constructor
  · intro h u hu hmember
    exact Int32.not_le.mp (h _ u hu hmember rfl)
  · rintro h _ u hu hmember rfl
    exact Int32.not_le.mpr (h u hu hmember)

theorem firstMember_iff :
    t.FirstMember name location ↔
      t.active.findSome? (t.memberLocation? name) = some location := by
  rw [List.findSome?_eq_some_iff]
  constructor
  · rintro ⟨before, u, after, hactive, hmember, hlocation, hlocated, hbefore⟩
    refine ⟨before, some u, after, hactive, ?_, fun v hv => ?_⟩
    · exact memberLocation?_eq_some_iff.mpr ⟨u, rfl, hmember, hlocation, hlocated⟩
    · exact memberLocation?_eq_none_iff.mpr fun u hu => hbefore u (hu ▸ hv)
  · rintro ⟨before, active, after, hactive, hfirst, hbefore⟩
    obtain ⟨u, rfl, hmember, hlocation, hlocated⟩ := memberLocation?_eq_some_iff.mp hfirst
    exact ⟨before, u, after, hactive, hmember, hlocation, hlocated, fun v hv =>
      memberLocation?_eq_none_iff.mp (hbefore _ hv) v rfl⟩

/-- A name is resolved to what it stands for. -/
theorem stands_iff : t.Stands name location ↔ 0 ≤ location ∧ t.resolve name = location := by
  refine and_congr_right fun hlocated => ?_
  rw [resolve]
  by_cases hexact : 0 ≤ t.location name
  · rw [if_pos hexact]
    exact or_iff_left fun h => absurd hexact (Int32.not_le.mpr h.1)
  · rw [if_neg hexact]
    constructor
    · rintro (rfl | ⟨-, hfirst⟩)
      · exact absurd hlocated hexact
      · rw [firstMember_iff.mp hfirst]
        rfl
    · intro hresolved
      refine .inr ⟨Int32.not_le.mp hexact, firstMember_iff.mpr ?_⟩
      rcases hfirst : t.active.findSome? (t.memberLocation? name) with _ | first
      · -- the name would stand for nothing
        rw [hfirst] at hresolved
        subst hresolved
        exact absurd hlocated (by decide)
      · rw [hfirst] at hresolved
        exact congrArg some hresolved

end UniformTable

/-! ## Drivers -/

/-- The program that a command gives other uniforms, if it does so. -/
def GlCommand.relinks? : GlCommand → Option GlName
  | .linkProgram program | .delete .program program => some program
  | _ => none

/-- Whether a reply is what the tables say. -/
def GlQuery.Tells (tables : GlName → UniformTable) (q : GlQuery) (reply : q.Reply) : Prop :=
  match q with
  | .uniformLocation program name => (reply : Int32) = (tables program).location name
  | .activeUniformCount program => (reply : Nat) = (tables program).active.length
  | .activeUniform program index =>
      (reply : Option String) = ((tables program).active[index]?).join
  | _ => True

/-- A driver that knows the uniforms of its programs. -/
class UniformDriver (δ : Type) [GlDriver δ] where
  uniforms : δ → GlName → UniformTable
  uniforms_run {c : GlCommand} {program : GlName} (d : δ) (h : c.relinks? ≠ some program) :
    uniforms (GlDriver.run c d) program = uniforms d program
  uniforms_ask (q : GlQuery) (d : δ) : uniforms (GlDriver.ask q d).2 = uniforms d
  tells (q : GlQuery) (d : δ) : q.Tells (uniforms d) (GlDriver.ask q d).1

namespace GlDevice

variable {δ : Type} [GlDriver δ] [UniformDriver δ] {w : Work δ} {E : Work δ → Prop}

def Work.uniforms (w : Work δ) : GlName → UniformTable := UniformDriver.uniforms w.driver

/-! ## Looking up -/

theorem runs_tellsQuery {q : GlQuery} :
    Runs (query q) w (fun reply w' => q.Tells w.uniforms reply ∧ w'.uniforms = w.uniforms) E :=
  Runs.bind_get (Runs.bind_set
    (Runs.pure ⟨UniformDriver.tells q w.driver, UniformDriver.uniforms_ask q w.driver⟩))

theorem runs_exactLocation {program : ProgramHandle} {name : String} {t : UniformTable}
    (ht : w.uniforms program.raw = t) :
    Runs (uniformLocation? program name) w
      (fun found w' => w'.uniforms = w.uniforms ∧
        found = if 0 ≤ t.location name then some (t.location name) else none) E := by
  unfold uniformLocation? lookUp?
  dsimp only
  split
  · exact Runs.bind (P := fun _ _ => False) runs_abort fun _ _ h => h.elim
  · refine Runs.bind runs_tellsQuery ?_
    rintro (found : Int32) w₁ ⟨hfound, h₁⟩
    obtain rfl : found = t.location name := ht ▸ hfound
    refine Runs.pure ⟨h₁, ?_⟩
    show (if t.location name < 0 then none else some (t.location name)) = _
    by_cases hlocated : 0 ≤ t.location name
    · rw [if_pos hlocated, if_neg (Int32.not_lt.mpr hlocated)]
    · rw [if_neg hlocated, if_pos (Int32.not_le.mp hlocated)]

/-- The search goes through the active uniforms from some place on. -/
theorem runs_firstMember {program : ProgramHandle} {name : String} {t : UniformTable}
    {index left : Nat} (ht : w.uniforms program.raw = t) (hleft : index + left = t.active.length) :
    Runs (memberLocation? program name index left) w
      (fun found w' => w'.uniforms = w.uniforms ∧
        found = (t.active.drop index).findSome? (t.memberLocation? name)) E := by
  induction left generalizing index w with
  | zero =>
      refine Runs.pure ⟨rfl, ?_⟩
      rw [List.drop_eq_nil_of_le (by omega)]
      rfl
  | succ left ih =>
      have hlt : index < t.active.length := by omega
      refine Runs.bind runs_tellsQuery ?_
      rintro (active : Option String) w₁ ⟨hactive, h₁⟩
      have hactive : active = t.active[index] := by
        have htold : active = (t.active[index]?).join := ht ▸ hactive
        rwa [List.getElem?_eq_getElem hlt] at htold
      extract_lets path next
      have hpath : path = withoutIndex (active.getD "").toList := rfl
      clear_value path
      -- what is done once it is known whether the uniform at this place is a member
      have hnext : ∀ found w', w'.uniforms = w.uniforms →
          found = t.memberLocation? name t.active[index] →
          Runs (next found) w' (fun found w' => w'.uniforms = w.uniforms ∧
            found = (t.active.drop index).findSome? (t.memberLocation? name)) E := by
        intro found w' hw' hfound
        rw [List.drop_eq_getElem_cons hlt]
        rcases found with _ | location
        · refine (ih (hw' ▸ ht) (by omega)).imp fun _ _ h => ⟨h.1.trans hw', ?_⟩
          rw [List.findSome?_cons, ← hfound, h.2]
        · refine Runs.pure ⟨hw', ?_⟩
          rw [List.findSome?_cons, ← hfound]
      split
      · rename_i hmember
        obtain ⟨hsome, hends⟩ := Bool.and_eq_true_iff.mp hmember
        obtain ⟨u, rfl⟩ := Option.isSome_iff_exists.mp hsome
        have ht₁ : w₁.uniforms program.raw = t := by rw [h₁, ht]
        refine Runs.bind (runs_exactLocation ht₁) ?_
        rintro found w₂ ⟨h₂, rfl⟩
        refine hnext _ w₂ (h₂.trans h₁) ?_
        have hmem : some u ∈ t.active := hactive ▸ List.getElem_mem hlt
        rw [Option.getD_some] at hpath
        subst hpath
        rw [t.location_withoutIndex hmem, ← hactive, UniformTable.memberLocation?_of_member hends]
      · rename_i hother
        refine hnext none w₁ h₁ ?_
        rw [← hactive]
        rcases active with _ | u
        · rfl
        · rw [hpath, Option.getD_some, Option.isSome_some, Bool.true_and] at hother
          exact (UniformTable.memberLocation?_of_other (Bool.eq_false_iff.mpr hother)).symm

theorem runs_resolve {program : ProgramHandle} {name : String} {t : UniformTable}
    (ht : w.uniforms program.raw = t) :
    Runs (uniformLocation program name) w
      (fun location w' => w'.uniforms = w.uniforms ∧ location = t.resolve name) E := by
  refine Runs.bind (runs_exactLocation ht) ?_
  rintro found w₁ ⟨h₁, rfl⟩
  unfold UniformTable.resolve
  by_cases hlocated : 0 ≤ t.location name
  · rw [if_pos hlocated, if_pos hlocated]
    exact Runs.pure ⟨h₁, rfl⟩
  · rw [if_neg hlocated, if_neg hlocated]
    refine Runs.bind runs_tellsQuery ?_
    rintro (count : Nat) w₂ ⟨hcount, h₂⟩
    have ht₂ : w₂.uniforms program.raw = t := by rw [h₂, h₁, ht]
    have hcount : count = t.active.length := by
      rw [← ht, ← h₁]
      exact hcount
    refine Runs.bind (runs_firstMember ht₂ (by omega)) ?_
    rintro found w₃ ⟨h₃, rfl⟩
    exact Runs.pure ⟨h₃.trans (h₂.trans h₁), rfl⟩

end GlDevice

end RenderKit
