import RenderKit.Shader.Sections

set_option autoImplicit false

/-! # Sectioned texts read back

Writing sections and reading the text gives the sections again, provided that the lines survive
as lines. A line does if nothing in it ends a line, and nothing makes it one of the two
directives. A name survives if trimming leaves it as it is. The preamble is a list of such lines
too, since a `#name` in it would reach every section without a name.

Reading goes line by line, so the law is proved along the lines: what one written section does to
a reading, and from there what a list of them does. -/

namespace RenderKit

/-! ## Trimming -/

theorem dropBlankEnd_append_of_ne_nil {b : List Char} (a : List Char) (hne : b ≠ [])
    (hb : dropBlankEnd b = b) : dropBlankEnd (a ++ b) = a ++ b := by
  have hrev : b.reverse.dropWhile isBlank = b.reverse := List.reverse_eq_iff.mp hb
  simp [dropBlankEnd, List.dropWhile_append, hrev, hne]

theorem dropBlankEnd_append {a : List Char} (b : List Char) (ha : dropBlankEnd a = a) :
    dropBlankEnd (a ++ b) = a ++ dropBlankEnd b := by
  have hrev : a.reverse.dropWhile isBlank = a.reverse := List.reverse_eq_iff.mp ha
  simp only [dropBlankEnd, List.reverse_append, List.dropWhile_append]
  split
  · next h => simp [hrev, List.isEmpty_iff.mp h]
  · simp

/-- A text without blanks around it begins and ends with something else. -/
theorem of_trimChars_eq_self {cs : List Char} (h : trimChars cs = cs) :
    cs.dropWhile isBlank = cs ∧ dropBlankEnd cs = cs := by
  have hlen : (trimChars cs).length ≤ (cs.dropWhile isBlank).length := by
    simpa [trimChars, dropBlankEnd] using
      (List.dropWhile_sublist isBlank (l := (cs.dropWhile isBlank).reverse)).length_le
  have hdrop : cs.dropWhile isBlank = cs :=
    (List.dropWhile_suffix isBlank).eq_of_length_le (by rwa [h] at hlen)
  exact ⟨hdrop, by rwa [trimChars, hdrop] at h⟩

theorem not_blank_of_getLast? {cs : List Char} {c : Char} (h : dropBlankEnd cs = cs)
    (hc : cs.getLast? = some c) : isBlank c = false := by
  have hrev : cs.reverse.dropWhile isBlank = cs.reverse := List.reverse_eq_iff.mp h
  have hstart := List.head?_dropWhile_not isBlank cs.reverse
  rw [hrev, List.head?_reverse, hc] at hstart
  exact hstart

/-- The blank in front of a trimmed text is all that trimming takes from it. -/
theorem trimChars_blank {cs : List Char} (h : trimChars cs = cs) :
    trimChars (dropBlankEnd (' ' :: cs)) = cs := by
  obtain ⟨hstart, hend⟩ := of_trimChars_eq_self h
  by_cases hne : cs = []
  · subst hne
    decide
  · have hblank : dropBlankEnd (' ' :: cs) = ' ' :: cs :=
      dropBlankEnd_append_of_ne_nil [' '] hne hend
    rw [hblank, trimChars, List.dropWhile_cons_of_pos (by decide), hstart, hend]

/-- A word that begins with something else than a blank stays in front. -/
theorem trimChars_word {word rest : List Char} {c : Char} (hc : isBlank c = false)
    (hword : dropBlankEnd (c :: word) = c :: word) :
    trimChars (c :: word ++ rest) = c :: word ++ dropBlankEnd rest := by
  rw [trimChars, List.cons_append, List.dropWhile_cons_of_neg (by simp [hc]), ← List.cons_append,
    dropBlankEnd_append rest hword]

/-! ## Lines -/

theorem dropReturn_eq_self {line : List Char} (h : line.getLast? ≠ some '\r') :
    dropReturn line = line := by
  rw [dropReturn]
  split
  · next rest heq => exact absurd (by rw [← List.head?_reverse, heq]; rfl) h
  · rfl

theorem linesFrom_append {line : List Char} (start rest : List Char) (h : '\n' ∉ line) :
    linesFrom start (line ++ '\n' :: rest) =
      dropReturn (start.reverse ++ line) :: linesFrom [] rest := by
  induction line generalizing start with
  | nil => simp [linesFrom]
  | cons c line ih =>
    obtain ⟨hc, hline⟩ := not_or.mp (mt List.mem_cons.mpr h)
    rw [List.cons_append, linesFrom.eq_3 _ _ _ (fun hn => hc hn.symm), ih _ hline]
    simp

/-- Lines with a feed behind each of them are the lines of the text they make. -/
theorem linesOf_flatMap {lines : List (List Char)} (hfeed : ∀ line ∈ lines, '\n' ∉ line)
    (hreturn : ∀ line ∈ lines, line.getLast? ≠ some '\r') :
    linesOf (lines.flatMap fun line => line ++ ['\n']) = lines := by
  induction lines with
  | nil => rfl
  | cons line rest ih =>
    rw [List.forall_mem_cons] at hfeed hreturn
    rw [List.flatMap_cons, List.append_assoc, List.singleton_append, linesOf,
      linesFrom_append [] _ hfeed.1, ← linesOf, ih hfeed.2 hreturn.2, List.reverse_nil,
      List.nil_append, dropReturn_eq_self hreturn.1]

namespace Section

/-! ## What can be written -/

/-- A line that reads back as part of the source. -/
def Plain (line : List Char) : Prop :=
  '\n' ∉ line ∧ line.getLast? ≠ some '\r' ∧ ¬stageWord <+: trimChars line
    ∧ ¬nameWord <+: trimChars line

instance (line : List Char) : Decidable (Plain line) := inferInstanceAs (Decidable (_ ∧ _))

/-- A name that reads back: trimming leaves it as it is, and it stays on one line. -/
def PlainName (name : String) : Prop := trimChars name.toList = name.toList ∧ '\n' ∉ name.toList

instance (name : String) : Decidable (PlainName name) := inferInstanceAs (Decidable (_ ∧ _))

/-- A section whose name and lines read back. -/
def Writable (s : Section) : Prop := (∀ n ∈ s.name, PlainName n) ∧ ∀ line ∈ s.lines, Plain line

instance (s : Section) : Decidable s.Writable := inferInstanceAs (Decidable (_ ∧ _))

/-- A section with the name it gets if it has none of its own. -/
def named (name : Option String) (s : Section) : Section := { s with name := s.name.or name }

/-! ## Reading what was written -/

theorem classify_plain {line : List Char} (h : Plain line) : classify line = .body line := by
  obtain ⟨_, _, hstage, hname⟩ := h
  simp [classify, hstage, hname]

theorem classify_stage (s : Stage) :
    classify (stageWord ++ ' ' :: s.name.toList) = .stage s.name.toList := by
  cases s <;> decide +kernel

theorem classify_name {name : String} (h : PlainName name) :
    classify (nameWord ++ ' ' :: name.toList) = .name name.toList := by
  have htrim : trimChars (nameWord ++ ' ' :: name.toList) =
      nameWord ++ dropBlankEnd (' ' :: name.toList) :=
    trimChars_word (by decide) (by decide)
  -- the two words are equally long and differ, so neither begins the other
  have hstage : ¬stageWord <+: nameWord ++ dropBlankEnd (' ' :: name.toList) := by
    intro hword
    have := List.prefix_of_prefix_length_le hword (List.prefix_append _ _) (by decide)
    exact absurd this (by decide)
  simp [classify, htrim, hstage, trimChars_blank h.1]

theorem place_of_new {sections : List Section} {s : Section}
    (h : ∀ t ∈ sections, t.stage ≠ s.stage) : place sections s = sections ++ [s] := by
  induction sections with
  | nil => rfl
  | cons first rest ih =>
    rw [List.forall_mem_cons] at h
    rw [place, if_neg h.1, ih h.2, List.cons_append]

namespace Reading

theorem steps_cons {r r' : Reading} {line : List Char} (h : r.step line = .ok r')
    (rest : List (List Char)) : r.steps (line :: rest) = r'.steps rest := by
  rw [steps, h]

theorem steps_append (r : Reading) (xs ys : List (List Char)) :
    r.steps (xs ++ ys) = (r.steps xs).bind fun r' => r'.steps ys := by
  induction xs generalizing r with
  | nil => rfl
  | cons line rest ih =>
    rw [List.cons_append, steps, steps]
    cases r.step line with
    | error p => rfl
    | ok r' => exact ih r'

/-- Before the first section, plain lines change nothing. -/
theorem steps_preamble {r : Reading} (hcurrent : r.current = none) {lines : List (List Char)}
    (h : ∀ line ∈ lines, Plain line) : r.steps lines = .ok r := by
  induction lines with
  | nil => rfl
  | cons line rest ih =>
    rw [List.forall_mem_cons] at h
    have hstep : r.step line = .ok r := by simp [step, classify_plain h.1, hcurrent]
    rw [steps_cons hstep]
    exact ih h.2

/-- In a section they go to its end. -/
theorem steps_body (name : Option String) (finished : List Section) (s : Section)
    {lines : List (List Char)} (h : ∀ line ∈ lines, Plain line) :
    steps ⟨name, finished, some s⟩ lines =
      .ok ⟨name, finished, some { s with lines := s.lines ++ lines }⟩ := by
  induction lines generalizing s with
  | nil => simp [steps]
  | cons line rest ih =>
    rw [List.forall_mem_cons] at h
    have hstep : step ⟨name, finished, some s⟩ line =
        .ok ⟨name, finished, some { s with lines := s.lines ++ [line] }⟩ := by
      simp [step, classify_plain h.1]
    rw [steps_cons hstep, ih _ h.2]
    simp

/-- One written section closes what stood open, and stands open itself. -/
theorem steps_written (r : Reading) {s : Section} (h : s.Writable) :
    r.steps s.written = .ok ⟨r.defaultName, r.sections, some (s.named r.defaultName)⟩ := by
  obtain ⟨hname, hlines⟩ := h
  have hopen : r.step (stageWord ++ ' ' :: s.stage.name.toList) =
      .ok ⟨r.defaultName, r.sections, some ⟨s.stage, r.defaultName, []⟩⟩ := by
    simp [step, classify_stage, Stage.ofChars?_name]
  rcases s with ⟨stage, _ | name, lines⟩
  · exact (steps_cons hopen lines).trans (steps_body _ _ _ hlines)
  · have hstep : step ⟨r.defaultName, r.sections, some ⟨stage, r.defaultName, []⟩⟩
        (nameWord ++ ' ' :: name.toList) =
          .ok ⟨r.defaultName, r.sections, some ⟨stage, some name, []⟩⟩ := by
      simp [step, classify_name (hname name rfl)]
    have hnamed := (steps_cons hopen ((nameWord ++ ' ' :: name.toList) :: lines)).trans
      (steps_cons hstep lines)
    exact hnamed.trans (steps_body _ _ _ hlines)

/-- Sections of stages that were not met before follow those that were. -/
theorem steps_sections (r : Reading) {sections : List Section}
    (hstages : ((r.sections ++ sections).map Section.stage).Nodup)
    (h : ∀ s ∈ sections, s.Writable) :
    ∃ r', r.steps (sections.flatMap written) = .ok r' ∧ r'.defaultName = r.defaultName
      ∧ r'.sections = r.sections ++ sections.map (named r.defaultName) := by
  induction sections generalizing r with
  | nil => exact ⟨r, rfl, rfl, by simp⟩
  | cons s rest ih =>
    rw [List.forall_mem_cons] at h
    -- what stood open is finished, and the next section stands open behind it
    let opened : Reading := ⟨r.defaultName, r.sections, some (s.named r.defaultName)⟩
    have hnew : ∀ t ∈ r.sections, t.stage ≠ s.stage := by
      simp only [List.map_append, List.map_cons, List.nodup_append] at hstages
      exact fun t ht => hstages.2.2 _ (List.mem_map_of_mem ht) _ List.mem_cons_self
    have hopened : opened.sections = r.sections ++ [s.named r.defaultName] := place_of_new hnew
    obtain ⟨r', hsteps, hname, hsections⟩ := ih opened (by simpa [hopened, named] using hstages) h.2
    refine ⟨r', ?_, hname, by simp [hsections, hopened, opened]⟩
    rw [List.flatMap_cons, steps_append, steps_written r h.1]
    exact hsteps

end Reading

/-! ## Whole texts -/

/-- Lines that are the lines of the text they make. -/
theorem lines_written {s : Section} (h : s.Writable) :
    ∀ line ∈ s.written, '\n' ∉ line ∧ line.getLast? ≠ some '\r' := by
  intro line hline
  rcases List.mem_cons.mp hline with rfl | hline
  · cases s.stage <;> decide +kernel
  rcases List.mem_append.mp hline with hline | hline
  · cases hname : s.name with
    | none => simp [hname] at hline
    | some name =>
        obtain ⟨htrim, hfeed⟩ := h.1 name hname
        simp only [hname, List.mem_singleton] at hline
        subst hline
        refine ⟨by simp [nameWord, hfeed], fun hlast => ?_⟩
        rw [← List.singleton_append, ← List.append_assoc, List.getLast?_append] at hlast
        cases hend : name.toList.getLast? with
        | none => simp [hend] at hlast
        | some c =>
            -- a trimmed name does not end in a blank, which a return is
            have hblank := not_blank_of_getLast? (of_trimChars_eq_self htrim).2 hend
            simp only [hend, Option.some_or, Option.some_inj] at hlast
            subst hlast
            exact absurd hblank (by decide)
  · exact ⟨(h.2 line hline).1, (h.2 line hline).2.1⟩

/-- Whatever name the sections without one are to get, a written text gives its sections. -/
theorem read_render {preamble : List (List Char)} {sections : List Section}
    (hne : sections ≠ []) (hstages : (sections.map stage).Nodup)
    (hpreamble : ∀ line ∈ preamble, Plain line) (h : ∀ s ∈ sections, s.Writable)
    (name : Option String) :
    ∃ r, read (render preamble sections) name = .ok r ∧ r.defaultName = name
      ∧ r.sections = sections.map (named name) := by
  have hlines : ∀ line ∈ preamble ++ sections.flatMap written,
      '\n' ∉ line ∧ line.getLast? ≠ some '\r' := by
    intro line hline
    rcases List.mem_append.mp hline with hline | hline
    · exact ⟨(hpreamble line hline).1, (hpreamble line hline).2.1⟩
    · obtain ⟨s, hs, hline⟩ := List.mem_flatMap.mp hline
      exact lines_written (h s hs) line hline
  have hsplit : linesOf (render preamble sections) = preamble ++ sections.flatMap written :=
    linesOf_flatMap (fun line hl => (hlines line hl).1) fun line hl => (hlines line hl).2
  obtain ⟨r, hsteps, hname, hsections⟩ :=
    Reading.steps_sections ⟨name, [], none⟩ hstages h
  have hall : Reading.steps ⟨name, [], none⟩ (preamble ++ sections.flatMap written) = .ok r := by
    rw [Reading.steps_append, Reading.steps_preamble rfl hpreamble]
    exact hsteps
  have hfound : r.sections.isEmpty = false := by
    rw [hsections]
    simpa [Reading.sections] using hne
  have htext : (render preamble sections).isEmpty = false := by
    obtain ⟨s, hs⟩ := List.exists_mem_of_ne_nil _ hne
    refine List.isEmpty_eq_false_iff.mpr fun hnil => ?_
    have hnone : preamble ++ sections.flatMap written = [] := by rw [← hsplit, hnil]; rfl
    have hhead := List.flatMap_eq_nil_iff.mp (List.append_eq_nil_iff.mp hnone).2 s hs
    exact List.cons_ne_nil _ _ hhead
  exact ⟨r, by simp [read, htext, hsplit, hall, hfound], hname, hsections⟩

theorem named_none : named none = id := by
  funext s
  simp [named]

/-- Sections of different stages, written behind a preamble, are read back as they are and in
    their order, and the journal is told how many they were. -/
theorem parse_render {S : Type} [HasJournal S] {preamble : List (List Char)}
    {sections : List Section} (hne : sections ≠ []) (hstages : (sections.map stage).Nodup)
    (hpreamble : ∀ line ∈ preamble, Plain line) (h : ∀ s ∈ sections, s.Writable) (state : S) :
    (parse (String.ofList (render preamble sections)) none).run.run state =
      (.ok sections, HasJournal.note ⟨.info, "cbox::shader",
        "Parsed shader '<unnamed>' with " ++ toString sections.length ++ " stage(s)"⟩ state) := by
  obtain ⟨r, hread, hname, hsections⟩ := read_render hne hstages hpreamble h none
  have hback : r.sections = sections := by simpa [named_none] using hsections
  rw [parse, String.toList_ofList, hread]
  show ((do
    note .info "cbox::shader"
      ("Parsed shader '" ++ r.defaultName.getD "<unnamed>" ++ "' with "
        ++ toString r.sections.length ++ " stage(s)")
    return r.sections : TaskOn S (List Section)).run.run state) = _
  rw [hname, hback]
  rfl

/-- Two stages of which one has a name, blank lines, and words of directives inside of lines. -/
def skySections : List Section :=
  [⟨.vertex, some "sky box", ["#version 450".toList, [], "  \t".toList, "// #type".toList]⟩,
   ⟨.tessControl, none, [" type #name x ".toList]⟩]

theorem parse_render_sky :
    (parse (String.ofList (render ["// shared".toList, []] skySections)) none).run.run
        (#[] : Journal) =
      (.ok skySections, #[⟨.info, "cbox::shader",
        "Parsed shader '<unnamed>' with " ++ toString skySections.length ++ " stage(s)"⟩]) :=
  parse_render (by decide) (by decide) (by decide +kernel) (by decide +kernel) #[]

end Section

end RenderKit
