import RenderKit.Shader.Native
import RenderKit.Shader.SourceFile
import RenderKit.World

set_option autoImplicit false

/-! # Programs

A program is linked from stages, each of which is given as source text, as bytecode, as a file, or
as one section of a text with several. Every stage goes through bytecode, whatever it was given
as. Shaders of the device live only until the program is linked.

A program remembers the location of each uniform it was asked for, also that there is none. -/

namespace RenderKit

/-- What a stage can be given as. -/
inductive StageInput where
  | source (stage : Stage) (text : String)
  | bytecode (stage : Stage) (words : List UInt32)
  | file (stage : Stage) (path : String)
  /-- A text with sections, each of which is a stage. -/
  | sections (text : String)
deriving DecidableEq, Repr

/-- A stage before it is compiled. -/
inductive StageSource where
  | text (source : String)
  | words (bytecode : List UInt32)
deriving DecidableEq, Repr

inductive ProgramError where
  | noStages
  | stageTwice (stage : Stage)
deriving DecidableEq, Repr

instance : Cause ProgramError where
  source _ := shaderSource
  kind _ := .invalidState
  message
    | .noStages => "Cannot build a shader module without stages"
    | .stageTwice stage => "Shader module has more than one " ++ stage.name ++ " stage"

namespace Program

def debugText (p : Program) : String :=
  recordText "ShaderModule"
    [("program", p.handle.debugText), ("stages", listText (p.stages.map Stage.title))]

variable {σ : Type} [GraphicsDevice σ]

instance : Owned Program where
  discard p := ask (.deleteProgram p.handle)

/-! ## Building -/

/-- The stages of some inputs, in their order. -/
def expand (files : Files) : List StageInput → Render σ (List (Stage × StageSource))
  | [] => return []
  | input :: rest => do
      let first ← match input with
        | .source stage text => pure [(stage, StageSource.text text)]
        | .bytecode stage words => pure [(stage, StageSource.words words)]
        | .file stage path => do pure [(stage, StageSource.text (← readShaderSource files path))]
        | .sections text => do
            let sections ← Section.parse text none
            pure (sections.map fun s => (s.stage, StageSource.text s.source))
      return first ++ (← expand files rest)

/-- The first stage that occurs a second time. -/
def repeatedStage? (seen : List Stage) : List Stage → Option Stage
  | [] => none
  | s :: rest => if seen.contains s then some s else repeatedStage? (s :: seen) rest

/-- A stage that the device has compiled. -/
structure Compiled where
  stage : Stage
  handle : ShaderHandle
  reflection : Option Reflection

/-- Compile one stage: to bytecode, to the language of the device, and on the device. -/
def compileStage [Toolchain] (options : CompileOptions) (reflected : Bool) (stage : Stage)
    (source : StageSource) : Render σ Compiled := do
  let words ← match source with
    | .text text => compile text stage options
    | .words words => pure words
  let native ← transpile words stage
  let reflection ← if reflected then some <$> reflect words stage else pure none
  let handle ← settle (← ask (.compileShader stage native.text))
  return ⟨stage, handle, reflection⟩

def deleteShaders : List ShaderHandle → Render σ Unit
  | [] => return ()
  | h :: rest => do
      ask (.deleteShader h)
      deleteShaders rest

/-- Compile stages one after the other. If one fails, the shaders before it are deleted. -/
def compileStages [Toolchain] (options : CompileOptions) (reflected : Bool)
    (done : List Compiled) : List (Stage × StageSource) → Render σ (List Compiled)
  | [] => return done
  | (stage, source) :: rest => do
      match ← attempt (compileStage options reflected stage source) with
      | .ok c => compileStages options reflected (done ++ [c]) rest
      | .error e =>
          deleteShaders (done.map Compiled.handle)
          note .error shaderSource
            ("Shader module build failed at " ++ stage.name ++ " stage: " ++ e.text)
          raise e

/-- Build a program. -/
def create [Toolchain] (files : Files) (options : CompileOptions) (reflected : Bool)
    (inputs : List StageInput) : Render σ (Ref Program) := do
  let sources ← expand files inputs
  if sources.isEmpty then reject ProgramError.noStages
  match repeatedStage? [] (sources.map (·.1)) with
  | some stage => reject (ProgramError.stageTwice stage)
  | none => pure ()
  let compiled ← compileStages options reflected [] sources
  let shaders := compiled.map Compiled.handle
  let linked ← attempt (do settle (← ask (.linkProgram shaders)))
  deleteShaders shaders
  match linked with
  | .error e =>
      note .error shaderSource ("Shader program link failed: " ++ e.text)
      raise e
  | .ok handle =>
      let stages := compiled.map Compiled.stage
      note .info shaderSource
        ("Linked shader program " ++ handle.text ++ " ("
          ++ ", ".intercalate (stages.map Stage.name) ++ ")")
      share
        { handle := handle
          stages := stages
          reflections := compiled.filterMap fun c => c.reflection.map fun r => (c.stage, r)
          cache := ⟨.empty, false⟩ }

/-! ## Using -/

def bind (r : Ref Program) : Render σ Unit := do
  let p ← view r
  ask (.useProgram (some p.handle))

/-- Use no program. -/
def unbind : Render σ Unit := ask (.useProgram none)

/-- What was found in a stage; nothing if it was not looked into. -/
def reflection (p : Program) (stage : Stage) : Reflection :=
  (p.reflections.lookup stage).getD .empty

def hasStage (p : Program) (stage : Stage) : Bool := p.stages.contains stage

/-- Use what a program remembers with its lock held. A lock that is poisoned is no obstacle. -/
def lockCache {α : Type} (r : Ref Program) (use : UniformCache → Render σ α) : Render σ α := do
  let p ← view r
  unwinding (use p.cache.recover) fun w => w.altered r poison

/-- Ask the device for a location and put it to what is remembered. -/
def askLocation (r : Ref Program) (program : ProgramHandle) (name : String)
    (cache : UniformCache) : Render σ Int32 := do
  let location : Int32 ← ask (.uniformLocation program name)
  if location < (0 : Int32) then
    note .debug shaderSource ("Uniform '" ++ name ++ "' not found in program " ++ program.text)
  alter r fun p => p.keep (cache.put name location)
  return location

/-- The location of a uniform, negative if there is none. The device is asked once for each
    name. -/
def uniformLocation (r : Ref Program) (name : String) : Render σ Int32 := do
  let p ← view r
  lockCache r fun cache => do
    let cache := cache.about p.handle
    alter r fun p => p.keep cache
    match cache.locations.lookup name with
    | some location => return location
    | none => askLocation r p.handle name cache

/-- Write a uniform if it exists; the answer is whether it does. -/
def setUniform (r : Ref Program) (name : String) (value : UniformValue) : Render σ Bool := do
  let location ← uniformLocation r name
  if location < (0 : Int32) then return false
  ask (.setUniform location value)
  return true

/-- The location of an attribute: what the device says, and else what was found in the vertex
    stage. -/
def attributeLocation (r : Ref Program) (name : String) : Render σ Int32 := do
  let p ← view r
  let location : Int32 ← ask (.attributeLocation p.handle name)
  if location ≥ (0 : Int32) then return location
  match (p.reflection .vertex).attributeLocations.lookup name with
  | some n => return Int32.ofNat n
  | none => return -1

end Program

end RenderKit
