import RenderKit.Error
import RenderKit.Text.Blank

set_option autoImplicit false

/-! # Shader stages

A stage has one canonical name and, when it is read from a text, a few short ones. Reading
ignores blanks around the name and the case of ASCII letters. -/

namespace RenderKit

inductive Stage where
  | vertex
  | fragment
  | geometry
  | compute
  | tessControl
  | tessEvaluation
deriving DecidableEq, Repr

namespace Stage

/-- Every stage, in the order of the pipeline. -/
def all : List Stage :=
  [.vertex, .tessControl, .tessEvaluation, .geometry, .fragment, .compute]

/-- The canonical name. -/
def name : Stage → String
  | .vertex => "vertex"
  | .fragment => "fragment"
  | .geometry => "geometry"
  | .compute => "compute"
  | .tessControl => "tess_control"
  | .tessEvaluation => "tess_evaluation"

/-- The name of the constructor, in the words of reports. -/
def title : Stage → String
  | .vertex => "Vertex"
  | .fragment => "Fragment"
  | .geometry => "Geometry"
  | .compute => "Compute"
  | .tessControl => "TessControl"
  | .tessEvaluation => "TessEvaluation"

/-- Every accepted name with its stage. -/
def names : List (String × Stage) :=
  [("vertex", .vertex), ("vert", .vertex), ("vs", .vertex),
   ("fragment", .fragment), ("frag", .fragment), ("pixel", .fragment), ("fs", .fragment),
   ("ps", .fragment),
   ("geometry", .geometry), ("geom", .geometry), ("gs", .geometry),
   ("compute", .compute), ("comp", .compute), ("cs", .compute),
   ("tess_control", .tessControl), ("tesc", .tessControl),
   ("tess_evaluation", .tessEvaluation), ("tese", .tessEvaluation)]

/-- A text as it is compared with the accepted names. -/
def normalName (cs : List Char) : List Char := (trimChars cs).map lowerAscii

/-- The stage a text names. -/
def ofChars? (cs : List Char) : Option Stage :=
  (names.find? fun entry => entry.1.toList == normalName cs).map (·.2)

/-- Each stage is read back from its canonical name. -/
theorem ofChars?_name (s : Stage) : ofChars? s.name.toList = some s := by
  cases s <;> decide +kernel

/-- The stage a text names, or the error that shows what was looked for. -/
def parse (text : String) : Except Error Stage :=
  match ofChars? text.toList with
  | some stage => .ok stage
  | none =>
      .error (.of .invalidFormat
        ("Unknown shader stage: '" ++ String.ofList (normalName text.toList) ++ "'"))

/-- Whether the stage can be expressed in bytecode. The others are known by name only. -/
def compilable : Stage → Bool
  | .vertex | .fragment | .compute => true
  | .geometry | .tessControl | .tessEvaluation => false

end Stage

end RenderKit
