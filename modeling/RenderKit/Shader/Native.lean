import RenderKit.Shader.Reflection

set_option autoImplicit false

/-! # Shaders in the language of a device

Bytecode is turned into a text for the driver. The text is to give each resource its own number
without that of its set, as far as a byte has room for it. -/

namespace RenderKit

/-! ## Numbers of resources -/

/-- The number that a text is to have for a resource. -/
def ResourceBinding.point? (x : ResourceBinding) : Option UInt8 :=
  if x.binding < UInt8.size then some (UInt8.ofNat x.binding) else none

/-- The numbers that a text is to have for the resources of a module. -/
def ShaderModule.points (m : ShaderModule) : List (ResourceBinding × UInt8) :=
  (m.globals.filterMap Global.binding).filterMap fun x => x.point?.map fun point => (x, point)

/-! ## Texts -/

/-- A shader as it is handed to a driver. -/
structure NativeShader where
  text : String
deriving DecidableEq, Repr

namespace NativeShader

/-- The version a text is written for. Compute stages need a newer one. -/
def version : Stage → Nat
  | .compute => 430
  | _ => 420

/-- The number that a text begins with. -/
def leadingNumber (text : List Char) : Nat := Nat.ofDigitChars 10 (text.takeWhile Char.isDigit) 0

/-- The word that stands in front of the number of a resource. -/
def bindingWord : List Char := "binding = ".toList

/-- The numbers that stand behind the word for them. -/
def numbersIn : List Char → List Nat
  | [] => []
  | c :: rest =>
      if bindingWord.isPrefixOf (c :: rest) then
        leadingNumber ((c :: rest).drop bindingWord.length) :: numbersIn rest
      else numbersIn rest

/-- The numbers of resources in the text, in ascending order. -/
def bindings (s : NativeShader) : List Nat := Reflection.sortedBy id (numbersIn s.text.toList)

end NativeShader

/-- The number that a text has for a global: the one it is to have for the resource, if the global
    is a resource. -/
def Global.number? (m : ShaderModule) (points : List (ResourceBinding × UInt8)) (g : Global) :
    Option Nat := do
  let _ ← g.kind? m
  let x ← g.binding
  return (← points.lookup x).toNat

/-- The globals at some places. -/
def ShaderModule.globalsAt (m : ShaderModule) (place : Nat → Bool) : List Global :=
  (m.globals.zipIdx.filter fun g => place g.2).map (·.1)

/-! ## Translation -/

section Translation

variable [Toolchain]

/-- The shader in some bytecode. In contrast to looking into it, the module must be valid. -/
def nativeShader (words : List UInt32) (stage : Stage) : Except BytecodeError NativeShader := do
  let shader ← readBytecode words stage .transpile
  let analysis ← (Toolchain.validate shader).mapError (.untranslatable stage)
  match (Toolchain.view shader).entryPoint? stage with
  | none => .error (.nothingToTranspile stage)
  | some e => do
      let text ← (Toolchain.print shader analysis
        { version := NativeShader.version stage
          points := (Toolchain.view shader).points
          stage := stage
          entryPoint := e.name }).mapError (.untranslatable stage)
      return { text }

/-- Turn bytecode into the language of a device. -/
def transpile {S : Type} [HasJournal S] (words : List UInt32) (stage : Stage) :
    TaskOn S NativeShader :=
  accept (nativeShader words stage)

end Translation

end RenderKit
