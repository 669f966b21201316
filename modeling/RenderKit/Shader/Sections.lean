import RenderKit.Journal
import RenderKit.Shader.Stage

set_option autoImplicit false

/-! # Source files with sections

One text can hold the source of several stages. A line that begins with `#type` opens a section
and names its stage; a line that begins with `#name` names the section it stands in, or, before
the first section, every section that has no name of its own. All other lines belong to the
section they stand in, and lines before the first section to none. Blanks around a line do not
matter to what it is, but they stay in the source.

A stage keeps the place of its first section and the contents of its last one. -/

namespace RenderKit

/-- The source of one stage, as its lines. -/
structure Section where
  stage : Stage
  name : Option String
  lines : List (List Char)
deriving DecidableEq, Repr

namespace Section

/-- Every line with a line feed behind it. -/
def sourceChars (s : Section) : List Char := s.lines.flatMap fun line => line ++ ['\n']

def source (s : Section) : String := String.ofList s.sourceChars

/-! ## Lines of a sectioned text -/

/-- The word that opens a section. -/
def stageWord : List Char := "#type".toList

/-- The word that names one. -/
def nameWord : List Char := "#name".toList

/-- What a line is. -/
inductive Line where
  /-- A section opens; the text says for which stage. -/
  | stage (token : List Char)
  | name (text : List Char)
  | body (line : List Char)
deriving DecidableEq, Repr

/-- A line is told by the beginning of its trimmed text. -/
def classify (line : List Char) : Line :=
  let trimmed := trimChars line
  if stageWord.isPrefixOf trimmed then .stage (trimChars (trimmed.drop stageWord.length))
  else if nameWord.isPrefixOf trimmed then .name (trimChars (trimmed.drop nameWord.length))
  else .body line

/-! ## Reading -/

/-- Why a sectioned text is refused. -/
inductive Problem where
  | empty
  | unknownStage (token : String)
  | noStage
deriving DecidableEq, Repr

instance : Cause Problem where
  source _ := "cbox::shader"
  kind
    | .empty => .invalidState
    | .unknownStage _ => .invalidFormat
    | .noStage => .invalidFormat
  message
    | .empty => "Shader source is empty"
    | .unknownStage token => "Unknown shader stage: " ++ token
    | .noStage => "No shader stages found in source"

/-- A section takes the place of an earlier one of its stage, or goes to the end. -/
def place (sections : List Section) (s : Section) : List Section :=
  match sections with
  | [] => [s]
  | first :: rest => if first.stage = s.stage then s :: rest else first :: place rest s

/-- What has been read so far: the name for sections without one, the finished sections, and the
    open one. -/
structure Reading where
  defaultName : Option String
  finished : List Section
  current : Option Section
deriving DecidableEq, Repr

/-- The sections read so far, the open one included. -/
def Reading.sections (r : Reading) : List Section :=
  match r.current with
  | none => r.finished
  | some s => place r.finished s

/-- Read one line. -/
def Reading.step (r : Reading) (line : List Char) : Except Problem Reading :=
  match classify line with
  | .stage token =>
      match Stage.ofChars? token with
      | none => .error (.unknownStage (String.ofList token))
      | some stage =>
          .ok { r with
            finished := r.sections
            current := some { stage := stage, name := r.defaultName, lines := [] } }
  | .name text =>
      match r.current with
      | none => .ok { r with defaultName := some (String.ofList text) }
      | some s => .ok { r with current := some { s with name := some (String.ofList text) } }
  | .body line =>
      match r.current with
      | none => .ok r
      | some s => .ok { r with current := some { s with lines := s.lines ++ [line] } }

/-- Read lines one after the other. -/
def Reading.steps (r : Reading) : List (List Char) → Except Problem Reading
  | [] => .ok r
  | line :: rest =>
      match r.step line with
      | .error p => .error p
      | .ok r => r.steps rest

/-- Read a whole text; `name` is the name for sections without one. -/
def read (text : List Char) (name : Option String) : Except Problem Reading :=
  if text.isEmpty then .error .empty
  else
    match Reading.steps { defaultName := name, finished := [], current := none } (linesOf text) with
    | .error p => .error p
    | .ok r => if r.sections.isEmpty then .error .noStage else .ok r

/-- The sections of a text, with an entry about them in the journal. -/
def parse {S : Type} [HasJournal S] (text : String) (name : Option String) :
    TaskOn S (List Section) := do
  let r ← accept (read text.toList name)
  note .info "cbox::shader"
    ("Parsed shader '" ++ r.defaultName.getD "<unnamed>" ++ "' with "
      ++ toString r.sections.length ++ " stage(s)")
  return r.sections

/-! ## Writing -/

/-- The lines that read back as this section. -/
def written (s : Section) : List (List Char) :=
  let head := stageWord ++ ' ' :: s.stage.name.toList
  let name := match s.name with
    | none => []
    | some n => [nameWord ++ ' ' :: n.toList]
  head :: name ++ s.lines

/-- The text of several sections behind a preamble. -/
def render (preamble : List (List Char)) (sections : List Section) : List Char :=
  (preamble ++ sections.flatMap written).flatMap fun line => line ++ ['\n']

end Section

end RenderKit
