import RenderKit.Proofs.Keys
import RenderKit.Proofs.Shaders.Sections
import RenderKit.Proofs.Task
import RenderKit.Shader.SourceFile

set_option autoImplicit false

/-! # How any text is split

What `Sections` shows of written texts is said here of every text. The lines of a text fall into a
preamble without an opening line and into parts, each an opening line with the lines up to the
next one. A part is read by itself: only the name in the preamble reaches into it.

What reading does with the parts is then a fold of `place` over one section for each part, and
that keeps, of every stage, the place of the first section and the contents of the last one. -/

namespace RenderKit

namespace Section

/-! ## Directives -/

/-- The line opens a section. -/
def Opens (line : List Char) : Prop := stageWord <+: trimChars line

instance (line : List Char) : Decidable (Opens line) :=
  inferInstanceAs (Decidable (stageWord <+: trimChars line))

/-- The line gives a name. -/
def Names (line : List Char) : Prop := nameWord <+: trimChars line

instance (line : List Char) : Decidable (Names line) :=
  inferInstanceAs (Decidable (nameWord <+: trimChars line))

/-- The line is no part of the source. -/
def Directive (line : List Char) : Prop := Opens line ∨ Names line

instance (line : List Char) : Decidable (Directive line) := inferInstanceAs (Decidable (_ ∨ _))

/-- What stands behind the word of an opening line. -/
def stageToken (line : List Char) : List Char :=
  trimChars ((trimChars line).drop stageWord.length)

/-- What stands behind the word of a line with a name. -/
def nameText (line : List Char) : List Char :=
  trimChars ((trimChars line).drop nameWord.length)

/-- The two words are equally long and differ, so no line begins with both. -/
theorem Names.not_opens {line : List Char} (h : Names line) : ¬Opens line := by
  intro hopens
  have hword := List.prefix_of_prefix_length_le hopens h (by decide)
  exact absurd hword (by decide)

theorem Opens.classify {line : List Char} (h : Opens line) :
    classify line = .stage (stageToken line) := by
  rw [Section.classify, if_pos (List.isPrefixOf_iff_prefix.mpr h)]
  rfl

theorem Names.classify {line : List Char} (h : Names line) :
    classify line = .name (nameText line) := by
  rw [Section.classify, if_neg (mt List.isPrefixOf_iff_prefix.mp h.not_opens),
    if_pos (List.isPrefixOf_iff_prefix.mpr h)]
  rfl

theorem classify_of_not_directive {line : List Char} (h : ¬Directive line) :
    classify line = .body line := by
  obtain ⟨hopens, hnames⟩ := not_or.mp h
  rw [classify, if_neg (mt List.isPrefixOf_iff_prefix.mp hopens),
    if_neg (mt List.isPrefixOf_iff_prefix.mp hnames)]

/-- The lines that are source. -/
def sourceLines (lines : List (List Char)) : List (List Char) :=
  lines.filter fun line => ¬Directive line

theorem sourceLines_cons_of_directive {line : List Char} (h : Directive line)
    (rest : List (List Char)) : sourceLines (line :: rest) = sourceLines rest :=
  List.filter_cons_of_neg (by simpa using h)

theorem sourceLines_cons_of_not_directive {line : List Char} (h : ¬Directive line)
    (rest : List (List Char)) : sourceLines (line :: rest) = line :: sourceLines rest :=
  List.filter_cons_of_pos (by simpa using h)

/-- The last name that some lines give. -/
def lastName? (lines : List (List Char)) : Option String :=
  (lines.filter fun line => Names line).getLast?.map fun line => String.ofList (nameText line)

theorem lastName?_cons_of_names {line : List Char} (h : Names line) (rest : List (List Char)) :
    lastName? (line :: rest) = (lastName? rest).or (some (String.ofList (nameText line))) := by
  rw [lastName?, List.filter_cons_of_pos (by simpa using h), List.getLast?_cons, lastName?]
  cases (rest.filter fun line => Names line).getLast? <;> rfl

theorem lastName?_cons_of_not_names {line : List Char} (h : ¬Names line)
    (rest : List (List Char)) : lastName? (line :: rest) = lastName? rest := by
  rw [lastName?, List.filter_cons_of_neg (by simpa using h), lastName?]

/-! ## The parts of a text -/

/-- An opening line with the lines that follow it. -/
structure Part where
  head : List Char
  body : List (List Char)

def Part.lines (p : Part) : List (List Char) := p.head :: p.body

/-- The lines before the first opening line, and the parts behind them. -/
structure Division where
  preamble : List (List Char)
  parts : List Part

/-- The division of some lines: opening lines stand at the heads of the parts and nowhere else. -/
structure Divides (d : Division) (lines : List (List Char)) : Prop where
  lines_eq : lines = d.preamble ++ d.parts.flatMap Part.lines
  preamble : ∀ line ∈ d.preamble, ¬Opens line
  heads : ∀ p ∈ d.parts, Opens p.head
  bodies : ∀ p ∈ d.parts, ∀ line ∈ p.body, ¬Opens line

/-- Divide lines from the last one on: an opening line makes a part of what stands before the
    next part. -/
def divide : List (List Char) → Division
  | [] => ⟨[], []⟩
  | line :: rest =>
      let d := divide rest
      if Opens line then ⟨[], ⟨line, d.preamble⟩ :: d.parts⟩ else ⟨line :: d.preamble, d.parts⟩

theorem divides_divide (lines : List (List Char)) : Divides (divide lines) lines := by
  induction lines with
  | nil => constructor <;> simp [divide]
  | cons line rest ih =>
    by_cases h : Opens line
    · rw [divide, if_pos h]
      refine ⟨?_, by simp, List.forall_mem_cons.mpr ⟨h, ih.heads⟩,
        List.forall_mem_cons.mpr ⟨ih.preamble, ih.bodies⟩⟩
      rw [List.nil_append, List.flatMap_cons, Part.lines, List.cons_append, ← ih.lines_eq]
    · rw [divide, if_neg h]
      refine ⟨?_, List.forall_mem_cons.mpr ⟨h, ih.preamble⟩, ih.heads, ih.bodies⟩
      rw [List.cons_append, ← ih.lines_eq]

/-- The lines that open a section are the heads of the parts. -/
theorem Divides.opens_iff {d : Division} {lines : List (List Char)} (h : Divides d lines)
    (line : List Char) : line ∈ lines ∧ Opens line ↔ ∃ p ∈ d.parts, p.head = line := by
  constructor
  · rintro ⟨hline, hopens⟩
    rw [h.lines_eq, List.mem_append, List.mem_flatMap] at hline
    rcases hline with hline | ⟨p, hp, hline⟩
    · exact absurd hopens (h.preamble line hline)
    rcases List.mem_cons.mp hline with rfl | hline
    · exact ⟨p, hp, rfl⟩
    · exact absurd hopens (h.bodies p hp line hline)
  · rintro ⟨p, hp, rfl⟩
    refine ⟨?_, h.heads p hp⟩
    rw [h.lines_eq]
    exact List.mem_append_right _ (List.mem_flatMap.mpr ⟨p, hp, List.mem_cons_self⟩)

/-- The section that a part gives; `shared` is the name for parts without one. -/
structure Part.Gives (shared : Option String) (p : Part) (s : Section) : Prop where
  stage : Stage.ofChars? (stageToken p.head) = some s.stage
  name : s.name = (lastName? p.body).or shared
  lines : s.lines = sourceLines p.body
  source : s.source = String.ofList ((sourceLines p.body).flatMap fun line => line ++ ['\n'])

/-- If every part names a stage, there is one section for each of them. -/
theorem Part.exists_gives (shared : Option String) {parts : List Part}
    (h : ∀ p ∈ parts, Stage.ofChars? (stageToken p.head) ≠ none) :
    ∃ all, List.Forall₂ (Part.Gives shared) parts all := by
  induction parts with
  | nil => exact ⟨[], .nil⟩
  | cons p rest ih =>
    rw [List.forall_mem_cons] at h
    obtain ⟨stage, hstage⟩ := Option.ne_none_iff_exists'.mp h.1
    obtain ⟨all, hall⟩ := ih h.2
    exact ⟨⟨stage, _, _⟩ :: all, .cons ⟨hstage, rfl, rfl, rfl⟩ hall⟩

/-- The source of a text, from its first opening line on, is the source of its sections. -/
theorem Part.sourceLines_gives {shared : Option String} {parts : List Part}
    {all : List Section} (hopens : ∀ p ∈ parts, Opens p.head)
    (h : List.Forall₂ (Part.Gives shared) parts all) :
    sourceLines (parts.flatMap Part.lines) = all.flatMap Section.lines := by
  induction h with
  | nil => rfl
  | @cons p s rest all hp _ ih =>
    rw [List.forall_mem_cons] at hopens
    have hhead : sourceLines p.lines = s.lines := by
      rw [hp.lines, Part.lines, sourceLines_cons_of_directive (.inl hopens.1)]
    rw [List.flatMap_cons, List.flatMap_cons, sourceLines, List.filter_append, ← sourceLines,
      ← sourceLines, hhead, ih hopens.2]

/-! ## Reading the parts -/

namespace Reading

/-- Before the first section, a name is kept for all of them. -/
theorem steps_unopened (name : Option String) (finished : List Section)
    {lines : List (List Char)} (h : ∀ line ∈ lines, ¬Opens line) :
    steps ⟨name, finished, none⟩ lines = .ok ⟨(lastName? lines).or name, finished, none⟩ := by
  induction lines generalizing name with
  | nil => rfl
  | cons line rest ih =>
    rw [List.forall_mem_cons] at h
    by_cases hnames : Names line
    · have hstep : step ⟨name, finished, none⟩ line =
          .ok ⟨some (String.ofList (nameText line)), finished, none⟩ := by
        simp [step, hnames.classify]
      rw [steps_cons hstep, ih _ h.2, lastName?_cons_of_names hnames, Option.or_assoc,
        Option.some_or]
    · have hstep : step ⟨name, finished, none⟩ line = .ok ⟨name, finished, none⟩ := by
        simp [step, classify_of_not_directive (not_or.mpr ⟨h.1, hnames⟩)]
      rw [steps_cons hstep, ih _ h.2, lastName?_cons_of_not_names hnames]

/-- In a section, a name is the section's, and source goes to its end. -/
theorem steps_opened (name : Option String) (finished : List Section) (s : Section)
    {lines : List (List Char)} (h : ∀ line ∈ lines, ¬Opens line) :
    steps ⟨name, finished, some s⟩ lines =
      .ok ⟨name, finished,
        some ⟨s.stage, (lastName? lines).or s.name, s.lines ++ sourceLines lines⟩⟩ := by
  induction lines generalizing s with
  | nil => simp [steps, lastName?, sourceLines]
  | cons line rest ih =>
    rw [List.forall_mem_cons] at h
    by_cases hnames : Names line
    · have hstep : step ⟨name, finished, some s⟩ line =
          .ok ⟨name, finished, some { s with name := some (String.ofList (nameText line)) }⟩ := by
        simp [step, hnames.classify]
      rw [steps_cons hstep, ih _ h.2, lastName?_cons_of_names hnames, Option.or_assoc,
        Option.some_or, sourceLines_cons_of_directive (.inr hnames)]
    · have hbody : ¬Directive line := not_or.mpr ⟨h.1, hnames⟩
      have hstep : step ⟨name, finished, some s⟩ line =
          .ok ⟨name, finished, some { s with lines := s.lines ++ [line] }⟩ := by
        simp [step, classify_of_not_directive hbody]
      rw [steps_cons hstep, ih _ h.2, lastName?_cons_of_not_names hnames,
        sourceLines_cons_of_not_directive hbody, List.append_assoc, List.singleton_append]

/-- A part closes what stood open, and its own section stands open behind it. -/
theorem steps_part (r : Reading) {p : Part} {s : Section} (hopens : Opens p.head)
    (hbody : ∀ line ∈ p.body, ¬Opens line) (h : p.Gives r.defaultName s) :
    r.steps p.lines = .ok ⟨r.defaultName, r.sections, some s⟩ := by
  have hstep : r.step p.head =
      .ok ⟨r.defaultName, r.sections, some ⟨s.stage, r.defaultName, []⟩⟩ := by
    simp [step, hopens.classify, h.stage]
  rw [Part.lines, steps_cons hstep, steps_opened _ _ _ hbody, List.nil_append, ← h.name, ← h.lines]

/-- The sections of the parts take their places one after the other. -/
theorem steps_parts (r : Reading) {parts : List Part} {all : List Section}
    (hopens : ∀ p ∈ parts, Opens p.head)
    (hbodies : ∀ p ∈ parts, ∀ line ∈ p.body, ¬Opens line)
    (h : List.Forall₂ (Part.Gives r.defaultName) parts all) :
    ∃ r', r.steps (parts.flatMap Part.lines) = .ok r' ∧
      r'.sections = all.foldl place r.sections := by
  induction parts generalizing r all with
  | nil =>
    cases h
    exact ⟨r, rfl, rfl⟩
  | cons p rest ih =>
    obtain ⟨s, all, hs, hall, rfl⟩ := List.forall₂_cons_left_iff.mp h
    rw [List.forall_mem_cons] at hopens hbodies
    obtain ⟨r', hsteps, hsections⟩ :=
      ih ⟨r.defaultName, r.sections, some s⟩ hopens.2 hbodies.2 hall
    refine ⟨r', ?_, hsections⟩
    rw [List.flatMap_cons, steps_append, steps_part r hopens.1 hbodies.1 hs]
    exact hsteps

/-- One part whose stage is unknown is enough to refuse the text. -/
theorem steps_unknown (r : Reading) {parts : List Part} (hopens : ∀ p ∈ parts, Opens p.head)
    (hbodies : ∀ p ∈ parts, ∀ line ∈ p.body, ¬Opens line)
    (h : ∃ p ∈ parts, Stage.ofChars? (stageToken p.head) = none) :
    ∃ token, r.steps (parts.flatMap Part.lines) = .error (.unknownStage token) := by
  induction parts generalizing r with
  | nil => simp at h
  | cons p rest ih =>
    rw [List.forall_mem_cons] at hopens hbodies
    rw [List.exists_mem_cons_iff] at h
    rw [List.flatMap_cons, steps_append]
    cases hstage : Stage.ofChars? (stageToken p.head) with
    | none =>
      refine ⟨String.ofList (stageToken p.head), ?_⟩
      rw [Part.lines, steps]
      simp [step, hopens.1.classify, hstage, Except.bind]
    | some stage =>
      have hgives : p.Gives r.defaultName ⟨stage, _, _⟩ := ⟨hstage, rfl, rfl, rfl⟩
      rw [steps_part r hopens.1 hbodies.1 hgives]
      exact ih _ hopens.2 hbodies.2 (h.resolve_left (by simp [hstage]))

end Reading

/-! ## One section for each stage -/

/-- The last section of a stage. -/
def lastOf? (all : List Section) (stage : Stage) : Option Section :=
  (all.filter fun s => s.stage = stage).getLast?

/-- Of every stage the last section, in the order of the first ones. -/
def merged (all : List Section) : List Section :=
  (all.map Section.stage).eraseDups.filterMap (lastOf? all)

theorem stage_of_lastOf? {all : List Section} {stage : Stage} {s : Section}
    (h : lastOf? all stage = some s) : s.stage = stage := by
  have hmem := List.mem_of_getLast? h
  simpa using (List.mem_filter.mp hmem).2

theorem lastOf?_ne_none {all : List Section} {stage : Stage}
    (h : stage ∈ (all.map Section.stage).eraseDups) : lastOf? all stage ≠ none := by
  obtain ⟨s, hs, rfl⟩ := List.mem_map.mp (List.mem_eraseDups.mp h)
  have hmem : s ∈ all.filter fun t => t.stage = s.stage := List.mem_filter.mpr ⟨hs, by simp⟩
  exact mt List.getLast?_eq_none_iff.mp (List.ne_nil_of_mem hmem)

theorem lastOf?_append (all : List Section) (s : Section) (stage : Stage) :
    lastOf? (all ++ [s]) stage = if s.stage = stage then some s else lastOf? all stage := by
  rw [lastOf?, List.filter_append]
  split
  · next h => simp [h]
  · next h => simp [h, lastOf?]

/-- Among sections that are found by their stages, a section takes the place of its stage. -/
theorem place_filterMap {stages : List Stage} (hnodup : stages.Nodup)
    {f : Stage → Option Section} (hf : ∀ stage ∈ stages, ∃ t, f stage = some t ∧ t.stage = stage)
    {s : Section} (h : s.stage ∈ stages) :
    place (stages.filterMap f) s =
      stages.filterMap fun stage => if s.stage = stage then some s else f stage := by
  induction stages with
  | nil => simp at h
  | cons stage rest ih =>
    rw [List.forall_mem_cons] at hf
    rw [List.nodup_cons] at hnodup
    obtain ⟨t, ht, rfl⟩ := hf.1
    rw [List.filterMap_cons_some ht, place]
    by_cases heq : s.stage = t.stage
    · rw [if_pos heq.symm, List.filterMap_cons_some (b := s) (by rw [if_pos heq])]
      -- no other section has this stage
      congr 1
      refine List.filterMap_congr fun stage hstage => (if_neg ?_).symm
      rintro rfl
      exact hnodup.1 (heq ▸ hstage)
    · rw [if_neg (Ne.symm heq), ih hnodup.2 hf.2 ((List.mem_cons.mp h).resolve_left heq),
        List.filterMap_cons_some (b := t) (by rw [if_neg heq, ht])]

theorem merged_append (all : List Section) (s : Section) :
    merged (all ++ [s]) = place (merged all) s := by
  have hfound : ∀ stage ∈ (all.map Section.stage).eraseDups,
      ∃ t, lastOf? all stage = some t ∧ t.stage = stage := by
    intro stage hstage
    obtain ⟨t, ht⟩ := Option.ne_none_iff_exists'.mp (lastOf?_ne_none hstage)
    exact ⟨t, ht, stage_of_lastOf? ht⟩
  rw [merged, List.map_append, List.map_singleton, eraseDups_append_singleton,
    funext (lastOf?_append all s)]
  split
  · next h => exact (place_filterMap (nodup_eraseDups _) hfound (List.mem_eraseDups.mpr h)).symm
  · next h =>
    have hnew : ∀ stage ∈ (all.map Section.stage).eraseDups, s.stage ≠ stage := by
      rintro _ hstage rfl
      exact h (List.mem_eraseDups.mp hstage)
    rw [place_of_new, List.filterMap_append, merged, List.filterMap_congr (g := lastOf? all)
      fun stage hstage => if_neg (hnew stage hstage)]
    · simp
    · intro t ht
      obtain ⟨stage, hstage, ht⟩ := List.mem_filterMap.mp ht
      rw [stage_of_lastOf? ht]
      exact (hnew stage hstage).symm

/-- Placing sections one after the other merges them. -/
theorem foldl_place (all : List Section) : all.foldl place [] = merged all := by
  induction all using List.reverseRecOn with
  | nil => rfl
  | append_singleton all s ih => rw [List.foldl_append, ih, merged_append]; rfl

theorem map_stage_merged (all : List Section) :
    (merged all).map Section.stage = (all.map Section.stage).eraseDups := by
  have hfound : ∀ stage ∈ (all.map Section.stage).eraseDups,
      (lastOf? all stage).map Section.stage = some stage := by
    intro stage hstage
    obtain ⟨s, hs⟩ := Option.ne_none_iff_exists'.mp (lastOf?_ne_none hstage)
    rw [hs, Option.map_some, stage_of_lastOf? hs]
  rw [merged, List.map_filterMap, List.filterMap_congr hfound, List.filterMap_some]

theorem merged_ne_nil {all : List Section} (h : all ≠ []) : merged all ≠ [] := by
  obtain ⟨s, hs⟩ := List.exists_mem_of_ne_nil all h
  have hstage : s.stage ∈ (merged all).map Section.stage := by
    rw [map_stage_merged, List.mem_eraseDups]
    exact List.mem_map_of_mem hs
  rintro hnil
  simp [hnil] at hstage

/-- The sections that no later one of their stage replaces, in their order. -/
def lasting : List Section → List Section
  | [] => []
  | s :: rest => if s.stage ∈ rest.map Section.stage then lasting rest else s :: lasting rest

theorem lasting_append (all : List Section) (s : Section) :
    lasting (all ++ [s]) = (lasting all).filter (fun t => t.stage ≠ s.stage) ++ [s] := by
  induction all with
  | nil => rfl
  | cons t rest ih =>
    rw [List.cons_append, lasting, lasting, ih]
    by_cases hlater : t.stage ∈ rest.map Section.stage
    · rw [if_pos hlater, if_pos (by rw [List.map_append]; exact List.mem_append_left _ hlater)]
    · rw [if_neg hlater]
      by_cases hstage : t.stage = s.stage
      · rw [if_pos (by simp [hstage]), List.filter_cons_of_neg (by simpa using hstage)]
      · have hnone : t.stage ∉ (rest ++ [s]).map Section.stage := by
          rw [List.map_append, List.mem_append, not_or]
          exact ⟨hlater, by simpa using hstage⟩
        rw [if_neg hnone, List.filter_cons_of_pos (by simpa using hstage), List.cons_append]

/-- A placed section is there once, with all sections of other stages. -/
theorem place_perm {sections : List Section} (h : (sections.map Section.stage).Nodup)
    (s : Section) :
    (place sections s).Perm (sections.filter (fun t => t.stage ≠ s.stage) ++ [s]) := by
  induction sections with
  | nil => exact .refl _
  | cons t rest ih =>
    rw [List.map_cons, List.nodup_cons] at h
    rw [place]
    split
    · next hstage =>
      have hrest : rest.filter (fun u => u.stage ≠ s.stage) = rest := by
        refine List.filter_eq_self.mpr fun u hu => ?_
        have hne : u.stage ≠ t.stage := fun heq => h.1 (heq ▸ List.mem_map_of_mem hu)
        simpa [hstage] using hne
      rw [List.filter_cons_of_neg (by simpa using hstage), hrest]
      exact (List.perm_append_singleton s rest).symm
    · next hstage =>
      rw [List.filter_cons_of_pos (by simpa using hstage), List.cons_append]
      exact (ih h.2).cons t

/-- Merging loses no section but those that are replaced, and makes up none. -/
theorem merged_perm (all : List Section) : (merged all).Perm (lasting all) := by
  induction all using List.reverseRecOn with
  | nil => exact .refl _
  | append_singleton all s ih =>
    have hnodup : ((merged all).map Section.stage).Nodup := by
      rw [map_stage_merged]
      exact nodup_eraseDups _
    rw [merged_append, lasting_append]
    exact (place_perm hnodup s).trans ((ih.filter _).append_right [s])

/-! ## Whole texts -/

/-- A text in which every opening line names a stage is read as the sections of its parts. -/
theorem read_of_known {text : List Char} {name : Option String} {d : Division}
    {all : List Section} (hne : text ≠ []) (hd : Divides d (linesOf text)) (hparts : d.parts ≠ [])
    (h : List.Forall₂ (Part.Gives ((lastName? d.preamble).or name)) d.parts all) :
    ∃ r, read text name = .ok r ∧ r.sections = merged all := by
  obtain ⟨r, hsteps, hsections⟩ := Reading.steps_parts
    ⟨(lastName? d.preamble).or name, [], none⟩ hd.heads hd.bodies h
  have hmerged : r.sections = merged all := hsections.trans (foldl_place all)
  have hall : all ≠ [] := by
    rintro rfl
    exact hparts (List.forall₂_nil_right_iff.mp h)
  refine ⟨r, ?_, hmerged⟩
  rw [read, if_neg (by simpa using hne), hd.lines_eq, Reading.steps_append,
    Reading.steps_unopened _ _ hd.preamble]
  simp [Except.bind, hsteps, hmerged, merged_ne_nil hall]

theorem read_of_unknown {text : List Char} {d : Division} (hne : text ≠ [])
    (hd : Divides d (linesOf text))
    (h : ∃ p ∈ d.parts, Stage.ofChars? (stageToken p.head) = none) (name : Option String) :
    ∃ token, read text name = .error (.unknownStage token) := by
  obtain ⟨token, hsteps⟩ := Reading.steps_unknown
    ⟨(lastName? d.preamble).or name, [], none⟩ hd.heads hd.bodies h
  refine ⟨token, ?_⟩
  rw [read, if_neg (by simpa using hne), hd.lines_eq, Reading.steps_append,
    Reading.steps_unopened _ _ hd.preamble]
  simp [Except.bind, hsteps]

theorem read_of_unopened {text : List Char} {d : Division} (hne : text ≠ [])
    (hd : Divides d (linesOf text)) (h : d.parts = []) (name : Option String) :
    read text name = .error .noStage := by
  rw [read, if_neg (by simpa using hne), hd.lines_eq, Reading.steps_append,
    Reading.steps_unopened _ _ hd.preamble, h]
  rfl

/-- Some opening line names no stage, or no line opens a section. -/
def Malformed (lines : List (List Char)) : Prop :=
  (∃ line ∈ lines, Opens line ∧ Stage.ofChars? (stageToken line) = none) ∨
    ∀ line ∈ lines, ¬Opens line

instance (lines : List (List Char)) : Decidable (Malformed lines) :=
  inferInstanceAs (Decidable (_ ∨ _))

theorem Divides.malformed_iff {d : Division} {lines : List (List Char)} (h : Divides d lines) :
    Malformed lines ↔
      (∃ p ∈ d.parts, Stage.ofChars? (stageToken p.head) = none) ∨ d.parts = [] := by
  refine or_congr ⟨?_, ?_⟩ ⟨?_, ?_⟩
  · rintro ⟨line, hline, hopens, hnone⟩
    obtain ⟨p, hp, rfl⟩ := (h.opens_iff line).mp ⟨hline, hopens⟩
    exact ⟨p, hp, hnone⟩
  · rintro ⟨p, hp, hnone⟩
    obtain ⟨hline, hopens⟩ := (h.opens_iff p.head).mpr ⟨p, hp, rfl⟩
    exact ⟨p.head, hline, hopens, hnone⟩
  · refine fun hnone => List.eq_nil_iff_forall_not_mem.mpr fun p hp => ?_
    obtain ⟨hline, hopens⟩ := (h.opens_iff p.head).mpr ⟨p, hp, rfl⟩
    exact hnone p.head hline hopens
  · intro hnil line hline hopens
    obtain ⟨p, hp, _⟩ := (h.opens_iff line).mp ⟨hline, hopens⟩
    simp [hnil] at hp

theorem read_of_malformed {text : List Char} (hne : text ≠ []) (h : Malformed (linesOf text))
    (name : Option String) :
    ∃ problem, read text name = .error problem ∧ Cause.kind problem = .invalidFormat := by
  have hd := divides_divide (linesOf text)
  rcases hd.malformed_iff.mp h with hunknown | hnil
  · obtain ⟨token, hread⟩ := read_of_unknown hne hd hunknown name
    exact ⟨_, hread, rfl⟩
  · exact ⟨_, read_of_unopened hne hd hnil name, rfl⟩

theorem read_of_not_malformed {text : List Char} (hne : text ≠ [])
    (h : ¬Malformed (linesOf text)) (name : Option String) :
    ∃ all r, List.Forall₂ (Part.Gives ((lastName? (divide (linesOf text)).preamble).or name))
        (divide (linesOf text)).parts all ∧
      read text name = .ok r ∧ r.sections = merged all := by
  have hd := divides_divide (linesOf text)
  obtain ⟨hknown, hparts⟩ := not_or.mp (mt hd.malformed_iff.mpr h)
  obtain ⟨all, hall⟩ := Part.exists_gives _ fun p hp hnone => hknown ⟨p, hp, hnone⟩
  obtain ⟨r, hread, hsections⟩ := read_of_known hne hd hparts hall
  exact ⟨all, r, hall, hread, hsections⟩

/-- What comes of a text, whatever the state. -/
theorem run_parse {S : Type} [HasJournal S] (text : String) (name : Option String) (state : S) :
    ((parse text name).run.run state).1 =
      match read text.toList name with
      | .ok r => .ok r.sections
      | .error problem => .error (.error (Cause.error problem)) := by
  rw [parse]
  cases read text.toList name <;> rfl

/-- A text is refused as empty exactly if it is, and as malformed exactly if an opening line names
    no stage or no line opens a section. Every other text gives one section for each stage, in the
    order of their first opening lines and with what the last part of the stage says. The source
    lines behind the first opening line all belong to sections, of which those are given that no
    later one replaces. A file is such a text, with its own name for sections without one. -/
theorem parse_splits {S : Type} [HasJournal S] (text : String) (name : Option String)
    (state : S) :
    let lines := linesOf text.toList
    let d := divide lines
    let outcome := ((parse text name).run.run state).1
    ((∃ e, outcome = .error (.error e) ∧ e.kind = .invalidState) ↔ text = "") ∧
    ((∃ e, outcome = .error (.error e) ∧ e.kind = .invalidFormat) ↔
      text ≠ "" ∧ Malformed lines) ∧
    Divides d lines ∧
    (text ≠ "" → ¬Malformed lines →
      ∃ all, List.Forall₂ (Part.Gives ((lastName? d.preamble).or name)) d.parts all ∧
        outcome = .ok (merged all) ∧
        (merged all).map Section.stage = (all.map Section.stage).eraseDups ∧
        (merged all).Perm (lasting all) ∧
        sourceLines (d.parts.flatMap Part.lines) = all.flatMap Section.lines) ∧
    ∀ (files : Files) (path : String), files.readText path = .ok text →
      name = Files.fileStem? path →
        (parseFile files path).run.run state = (parse text name).run.run state := by
  intro lines d outcome
  have hd : Divides d lines := divides_divide lines
  have houtcome : outcome = _ := run_parse text name state
  have hfile : ∀ (files : Files) (path : String), files.readText path = .ok text →
      name = Files.fileStem? path →
        (parseFile files path).run.run state = (parse text name).run.run state := by
    rintro files path htext rfl
    rw [parseFile, readShaderSource, htext]
    rfl
  by_cases hempty : text = ""
  · have hread : read text.toList name = .error .empty := by rw [hempty]; rfl
    rw [hread] at houtcome
    refine ⟨?_, ?_, hd, fun hne => absurd hempty hne, hfile⟩
    · simp [houtcome, hempty, Cause.error, Cause.kind]
    · simp [houtcome, hempty, Cause.error, Cause.kind]
  have hne : text.toList ≠ [] := by simpa using hempty
  by_cases hmalformed : Malformed lines
  · obtain ⟨problem, hread, hkind⟩ := read_of_malformed hne hmalformed name
    rw [hread] at houtcome
    refine ⟨?_, ?_, hd, fun _ hgood => absurd hmalformed hgood, hfile⟩
    · simp [houtcome, hempty, Cause.error, hkind]
    · simp [houtcome, hempty, hmalformed, Cause.error, hkind]
  · obtain ⟨all, r, hall, hread, hsections⟩ := read_of_not_malformed hne hmalformed name
    rw [hread] at houtcome
    replace houtcome : outcome = .ok (merged all) := houtcome.trans (congrArg Except.ok hsections)
    refine ⟨?_, ?_, hd, fun _ _ => ⟨all, hall, houtcome, map_stage_merged all, merged_perm all,
      Part.sourceLines_gives hd.heads hall⟩, hfile⟩
    · simp [houtcome, hempty]
    · simp [houtcome, hmalformed]

/-- A file whose bytes are those of a text is read as that text. -/
theorem readText_of_bytes {files : Files} {path text : String}
    (h : files.readBytes path = .ok text.toUTF8.data.toList) : files.readText path = .ok text := by
  have htext : String.fromUTF8? ⟨text.toUTF8.data.toList.toArray⟩ = some text := by
    rw [Array.toArray_toList, String.fromUTF8?]
    exact dif_pos text.isValidUTF8
  rw [Files.readText, h]
  simp only [htext]

/-- A vertex stage that is replaced, names in front of the sections and in them, and blanks around
    directives. -/
def twiceText : String :=
  "#name early\n// lead\n#name sky\n#type vert\nold\n #name first\n#type frag\nred\n\n" ++
    "  #type\tVERTEX \nnew\n #name last"

def twiceFiles : Files :=
  Files.empty.insert "shaders/dawn.glsl" (.file twiceText.toUTF8.data.toList)

theorem parse_splits_twice :
    twiceText ≠ "" ∧ ¬Malformed (linesOf twiceText.toList) ∧
    twiceFiles.readText "shaders/dawn.glsl" = .ok twiceText ∧
    (∃ all, List.Forall₂ (Part.Gives (some "sky")) (divide (linesOf twiceText.toList)).parts all ∧
      ((parse twiceText (some "dawn")).run.run (#[] : Journal)).1 = .ok (merged all)) ∧
    (parseFile twiceFiles "shaders/dawn.glsl").run.run (#[] : Journal) =
      (parse twiceText (some "dawn")).run.run #[] := by
  have hne : twiceText ≠ "" := by decide
  have hgood : ¬Malformed (linesOf twiceText.toList) := by decide +kernel
  have htext : twiceFiles.readText "shaders/dawn.glsl" = .ok twiceText :=
    readText_of_bytes (by rfl)
  have hname : (lastName? (divide (linesOf twiceText.toList)).preamble).or (some "dawn") =
      some "sky" := by decide +kernel
  obtain ⟨_, _, _, hsections, hfile⟩ := parse_splits twiceText (some "dawn") (#[] : Journal)
  obtain ⟨all, hall, houtcome, _⟩ := hsections hne hgood
  rw [hname] at hall
  exact ⟨hne, hgood, htext, ⟨all, hall, houtcome⟩, hfile _ _ htext (by decide +kernel)⟩

end Section

end RenderKit
