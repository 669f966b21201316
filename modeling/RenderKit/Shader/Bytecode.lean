import RenderKit.Journal
import RenderKit.Shader.Compile

set_option autoImplicit false

/-! # What is done with bytecode

Bytecode is read to look into it or to turn it into the language of a device. Both fail alike when
there is none, when its stage is not known to bytecode, and when it is damaged. -/

namespace RenderKit

/-- What bytecode is read for. -/
inductive BytecodeUse where
  | reflect
  | transpile
deriving DecidableEq, Repr

def BytecodeUse.verb : BytecodeUse → String
  | .reflect => "reflect"
  | .transpile => "transpile"

inductive BytecodeError where
  | empty (use : BytecodeUse) (stage : Stage)
  | unsupported (use : BytecodeUse) (stage : Stage)
  | damaged (use : BytecodeUse) (stage : Stage) (report : String)
  /-- Nothing of the stage to look into. -/
  | nothingToReflect (stage : Stage)
  /-- The module is not valid, or cannot be expressed in the language of a device. -/
  | untranslatable (stage : Stage) (report : String)
  | nothingToTranspile (stage : Stage)
deriving DecidableEq, Repr

namespace BytecodeError

def message : BytecodeError → String
  | .empty use stage => "Cannot " ++ use.verb ++ " empty " ++ stage.name ++ " bytecode"
  | .unsupported use stage =>
      "Cannot " ++ use.verb ++ " " ++ stage.name ++ " bytecode: stage not supported"
  | .damaged use stage report =>
      "Cannot " ++ use.verb ++ " " ++ stage.name ++ " bytecode: invalid SPIR-V (" ++ report ++ ")"
  | .nothingToReflect stage =>
      "Reflection failed: no " ++ stage.name ++ " entry point in module"
  | .untranslatable stage report => "Cannot transpile " ++ stage.name ++ " bytecode: " ++ report
  | .nothingToTranspile stage =>
      "Cannot transpile " ++ stage.name ++ " bytecode: no " ++ stage.name ++ " entry point"

end BytecodeError

instance : Cause BytecodeError where
  source _ := shaderSource
  kind
    | .nothingToReflect _ => .backendError
    | _ => .invalidFormat
  message := BytecodeError.message

/-- The module in some bytecode. -/
def readBytecode [Toolchain] (words : List UInt32) (stage : Stage) (use : BytecodeUse) :
    Except BytecodeError Toolchain.Module :=
  if words.isEmpty then .error (.empty use stage)
  else if !stage.compilable then .error (.unsupported use stage)
  else (Toolchain.read words).mapError (.damaged use stage)

end RenderKit
