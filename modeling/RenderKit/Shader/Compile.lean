import RenderKit.Shader.SourceFile
import RenderKit.Shader.Toolchain

set_option autoImplicit false

/-! # Compiling shaders

Source text becomes bytecode in several steps, each of which can end the work: the text must not be
blank, the stage must be one that bytecode knows, the text must be well formed, the entry point
must exist, the module must be valid, and resources that the entry point does not use are
reported, or refused if warnings are errors. Then the module is compacted, unless that is not
wanted, and written. -/

namespace RenderKit

/-- How source is compiled. -/
structure CompileOptions where
  /-- Drop what the entry points cannot reach. -/
  optimize : Bool := true
  /-- Keep the source next to the bytecode. -/
  debugInfo : Bool := false
  /-- Refuse sources that would only be warned about. -/
  warningsAsErrors : Bool := false
  entryPoint : String := "main"
  /-- Names with their replacements; of two with one name the last counts. -/
  defines : List (String × String) := []
deriving DecidableEq, Repr

/-- The options with one more definition. -/
def CompileOptions.define (o : CompileOptions) (name value : String) : CompileOptions :=
  { o with defines := o.defines ++ [(name, value)] }

inductive CompileError where
  | blank (stage : Stage)
  | unsupported (stage : Stage)
  | malformed (stage : Stage) (report : String)
  | noEntryPoint (stage : Stage) (name : String)
  | invalid (stage : Stage) (report : String)
  | unusedResources (stage : Stage) (names : List String)
  /-- The module is not valid any more after it was compacted. -/
  | broken (stage : Stage) (report : String)
  | unwritable (stage : Stage) (report : String)
deriving DecidableEq, Repr

namespace CompileError

/-- The words for resources that are declared and never used. -/
def unusedText (stage : Stage) (names : List String) : String :=
  stage.name ++ " shader declares unused resources: " ++ String.intercalate ", " names

def message : CompileError → String
  | .blank stage => "Cannot compile empty " ++ stage.name ++ " shader source"
  | .unsupported stage => stage.name ++ " stage not supported by the shader compiler"
  | .malformed stage report => stage.name ++ " shader compilation failed:\n" ++ report
  | .noEntryPoint stage name => stage.name ++ " shader has no entry point '" ++ name ++ "'"
  | .invalid stage report => stage.name ++ " shader validation failed:\n" ++ report
  | .unusedResources stage names => unusedText stage names
  | .broken stage report => stage.name ++ " shader invalid after compaction: " ++ report
  | .unwritable stage report => stage.name ++ " shader SPIR-V emission failed: " ++ report

end CompileError

instance : Cause CompileError where
  source _ := shaderSource
  kind
    | .broken _ _ => .backendError
    | _ => .invalidFormat
  message := CompileError.message

/-! ## Unused resources -/

/-- Whether a global is a resource from outside, and not memory of the shader's own. -/
def Space.isResource (s : Space) : Bool := s != .hidden && s != .workGroup

section Sources

variable [Toolchain]

/-- A source without errors. -/
structure CheckedSource where
  shader : Toolchain.Module
  analysis : Toolchain.Analysis
  /-- The place of the entry point. -/
  entry : Nat

/-- The resources the entry point never goes to, in the order of their declaration. -/
def CheckedSource.unused (c : CheckedSource) : List String :=
  ((Toolchain.view c.shader).globals.zipIdx.filter fun g =>
    g.1.space.isResource && !Toolchain.uses c.analysis c.entry g.2).map fun g =>
      g.1.name.getD ("global" ++ toString g.2)

/-! ## Compiling -/

/-- Go through a source up to the report on unused resources. -/
def checkSource (source : String) (stage : Stage) (o : CompileOptions) :
    Except CompileError CheckedSource := do
  if (trimChars source.toList).isEmpty then throw (.blank stage)
  if !stage.compilable then throw (.unsupported stage)
  let shader ← (Toolchain.parse stage o.defines source).mapError (.malformed stage)
  match (Toolchain.view shader).entryPlace? stage o.entryPoint with
  | none => throw (.noEntryPoint stage o.entryPoint)
  | some entry => do
      let analysis ← (Toolchain.validate shader).mapError (.invalid stage)
      return { shader, analysis, entry }

/-- The bytecode of a source without errors. A module that was compacted has to be checked anew. -/
def CheckedSource.bytecode (c : CheckedSource) (source : String) (stage : Stage)
    (o : CompileOptions) : Except CompileError (List UInt32) := do
  let embedded := if o.debugInfo then some source else none
  let shader := if o.optimize then Toolchain.compact c.shader else c.shader
  let analysis ←
    if o.optimize then (Toolchain.validate shader).mapError (.broken stage) else pure c.analysis
  (Toolchain.write shader analysis embedded stage o.entryPoint).mapError (.unwritable stage)

variable {S : Type} [HasJournal S]

/-- Compile a source text to bytecode. -/
def compile (source : String) (stage : Stage) (o : CompileOptions) : TaskOn S (List UInt32) := do
  let c ← accept (checkSource source stage o)
  if !c.unused.isEmpty then
    if o.warningsAsErrors then reject (CompileError.unusedResources stage c.unused)
    note .warn shaderSource (CompileError.unusedText stage c.unused)
  accept (c.bytecode source stage o)

/-- Compile the source text in a file. -/
def compileFile (files : Files) (path : String) (stage : Stage) (o : CompileOptions) :
    TaskOn S (List UInt32) := do
  let source ← readShaderSource files path
  compile source stage o

end Sources

end RenderKit
