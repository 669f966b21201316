import RenderKit.Proofs.Uniforms.Answers

set_option autoImplicit false

/-! # What a device finds for a name

A name that a driver has a location for is found there. Another name is found where its first member
is that has a location, so members without one hide nothing. A uniform whose name ends in the same
letters is no member: it takes a dot in front of them. -/

namespace RenderKit

/-! ## Members -/

namespace UniformTable

variable {t : UniformTable} {name : String} {location l : Int32}

/-- An active uniform that a name may stand for if it has no location itself. -/
def Candidate (t : UniformTable) (name u : String) : Prop :=
  some u ∈ t.active ∧ MemberNamed u name ∧ 0 ≤ t.location u

theorem FirstMember.exists_candidate (h : t.FirstMember name l) :
    ∃ u, t.Candidate name u ∧ t.location u = l := by
  obtain ⟨before, u, after, hactive, hmember, rfl, hlocated, -⟩ := h
  exact ⟨u, ⟨hactive ▸ List.mem_append_right _ List.mem_cons_self, hmember, hlocated⟩, rfl⟩

theorem FirstMember.nonneg (h : t.FirstMember name l) : 0 ≤ l := by
  obtain ⟨u, ⟨-, -, hlocated⟩, rfl⟩ := h.exists_candidate
  exact hlocated

/-- If there are candidates, one of them is the first. -/
theorem exists_firstMember_iff : (∃ l, t.FirstMember name l) ↔ ∃ u, t.Candidate name u := by
  constructor
  · rintro ⟨l, hfirst⟩
    obtain ⟨u, hcandidate, -⟩ := hfirst.exists_candidate
    exact ⟨u, hcandidate⟩
  · rintro ⟨u, hactive, hmember, hlocated⟩
    have hfound : (t.active.findSome? (t.memberLocation? name)).isSome := by
      refine List.findSome?_isSome_iff.mpr ⟨some u, hactive, ?_⟩
      rw [memberLocation?_eq_some_iff.mpr ⟨u, rfl, hmember, rfl, hlocated⟩]
      rfl
    obtain ⟨l, hl⟩ := Option.isSome_iff_exists.mp hfound
    exact ⟨l, firstMember_iff.mpr hl⟩

/-! ## What is found -/

/-- The name has a location. -/
theorem resolve_of_located (h : 0 ≤ t.location name) : t.resolve name = t.location name :=
  if_pos h

/-- The name has none, but a member of it has one. -/
theorem resolve_of_firstMember (h : t.location name < 0) (hfirst : t.FirstMember name l) :
    t.resolve name = l := by
  rw [resolve, if_neg (Int32.not_le.mpr h), firstMember_iff.mp hfirst]
  rfl

/-- Neither the name nor any member of it has one. -/
theorem resolve_of_missing (h : t.location name < 0) (hnone : ∀ u, ¬t.Candidate name u) :
    t.resolve name = -1 := by
  have hfirst : t.active.findSome? (t.memberLocation? name) = none := by
    rw [Option.eq_none_iff_forall_ne_some]
    intro l hl
    obtain ⟨u, hcandidate⟩ := exists_firstMember_iff.mp ⟨l, firstMember_iff.mpr hl⟩
    exact hnone u hcandidate
  rw [resolve, if_neg (Int32.not_le.mpr h), hfirst]
  rfl

/-- What a name is found to stand for. -/
structure Finds (t : UniformTable) (name : String) (location : Int32) : Prop where
  /-- A name with a location is found there, whatever its members are. -/
  named : 0 ≤ t.location name → location = t.location name
  /-- Any other name is found where its first member is that has a location. -/
  first : t.location name < 0 → ∀ l, t.FirstMember name l ↔ 0 ≤ l ∧ location = l
  /-- Nothing is found if and only if there is nothing. -/
  missing : location = -1 ↔ t.location name < 0 ∧ ∀ u, ¬t.Candidate name u
  /-- A candidate is not hidden by uniforms that have no location. -/
  unhidden : ∀ u, t.Candidate name u → 0 ≤ location
  /-- What is found is the name or a candidate, so not a uniform without the dot. -/
  dotted : 0 ≤ location →
    t.location name = location ∨ ∃ u, t.Candidate name u ∧ t.location u = location

theorem finds_resolve : t.Finds name (t.resolve name) := by
  by_cases hexact : 0 ≤ t.location name
  · rw [resolve_of_located hexact]
    refine ⟨fun _ => rfl, fun hnone => ?_, ?_, fun _ _ => hexact, fun _ => .inl rfl⟩
    · exact absurd hexact (Int32.not_le.mpr hnone)
    · refine ⟨fun hnone => ?_, fun hnone => absurd hexact (Int32.not_le.mpr hnone.1)⟩
      exact absurd (hnone ▸ hexact) (by decide)
  have hnone : t.location name < 0 := Int32.not_le.mp hexact
  by_cases hcandidates : ∃ u, t.Candidate name u
  · obtain ⟨l, hfirst⟩ := exists_firstMember_iff.mpr hcandidates
    rw [resolve_of_firstMember hnone hfirst]
    refine ⟨fun h => absurd h hexact, fun _ l' => ⟨fun hfirst' => ?_, ?_⟩, ?_,
      fun _ _ => hfirst.nonneg, fun _ => .inr hfirst.exists_candidate⟩
    · exact ⟨hfirst'.nonneg, (resolve_of_firstMember hnone hfirst).symm.trans
        (resolve_of_firstMember hnone hfirst')⟩
    · rintro ⟨-, rfl⟩
      exact hfirst
    · refine ⟨fun h => absurd (h ▸ hfirst.nonneg) (by decide), fun h => ?_⟩
      obtain ⟨u, hu⟩ := hcandidates
      exact absurd hu (h.2 u)
  · have hnothing : ∀ u, ¬t.Candidate name u := not_exists.mp hcandidates
    rw [resolve_of_missing hnone hnothing]
    refine ⟨fun h => absurd h hexact, fun _ l => ⟨fun hfirst => ?_, ?_⟩,
      ⟨fun _ => ⟨hnone, hnothing⟩, fun _ => rfl⟩, fun u hu => absurd hu (hnothing u),
      fun h => absurd h (by decide)⟩
    · exact absurd (exists_firstMember_iff.mp ⟨l, hfirst⟩) hcandidates
    · rintro ⟨hlocated, rfl⟩
      exact absurd hlocated (by decide)

end UniformTable

namespace GlDevice

variable {δ : Type} [GlDriver δ] [UniformDriver δ] {d : GlDevice δ} {program : ProgramHandle}
  {name : String}

/-- Whatever uniforms a program has, a name that can be handed over is looked up to the end. -/
theorem lookup_complete (hterminated : (d.uniforms program).Terminated)
    (hname : '\x00' ∉ name.toList) :
    ∃ location, (GlDevice.perform (.uniformLocation program name) d).reply = some location ∧
      (d.uniforms program).Finds name location := by
  refine ⟨(d.uniforms program).resolve name, ?_, UniformTable.finds_resolve⟩
  exact (reply_eq_told? hterminated name).trans (if_neg hname)

/-- What the reference device replies to a name. -/
def referenceReply (name : String) : Option Int32 :=
  (GlDevice.perform (.uniformLocation ⟨2, by decide⟩ name) .reference).reply

/-- Of two members the first is found, and an array is found without its index. None of them is found
    for the last letters of its name. -/
theorem lookup_complete_reference :
    referenceReply "tint" = some 1 ∧ referenceReply "weights" = some 3 ∧
      referenceReply "int" = some (-1) := by
  have hfinds : ∀ name, '\x00' ∉ name.toList → ∃ location, referenceReply name = some location ∧
      GlReference.uniformTable.Finds name location :=
    fun name hname => lookup_complete terminated_uniformTable hname
  obtain ⟨tint, htint, htells⟩ := hfinds "tint" (by decide +kernel)
  obtain ⟨weights, hweights, hholds⟩ := hfinds "weights" (by decide +kernel)
  obtain ⟨int, hint, hlacks⟩ := hfinds "int" (by decide +kernel)
  have hfirst : GlReference.uniformTable.FirstMember "tint" 1 :=
    UniformTable.firstMember_iff.mpr (by decide +kernel)
  have harray : GlReference.uniformTable.FirstMember "weights" 3 :=
    UniformTable.firstMember_iff.mpr (by decide +kernel)
  have hnothing : ∀ u, ¬GlReference.uniformTable.Candidate "int" u := by
    rintro u ⟨hu, hmember, -⟩
    have hends : ∀ u ∈ GlReference.uniformNames,
        endsWithMember (withoutIndex u.toList) "int" = false := by decide +kernel
    obtain ⟨v, hv, huv⟩ := List.mem_map.mp hu
    obtain rfl := Option.some_inj.mp huv
    exact Bool.false_ne_true ((hends v hv).symm.trans (UniformTable.endsWithMember_iff.mpr hmember))
  refine ⟨?_, ?_, ?_⟩
  · rw [htint, ((htells.first (by decide +kernel) 1).mp hfirst).2]
  · rw [hweights, ((hholds.first (by decide +kernel) 3).mp harray).2]
  · rw [hint, hlacks.missing.mpr ⟨by decide +kernel, hnothing⟩]

end GlDevice

end RenderKit
