import RenderKit.Shader.Module

set_option autoImplicit false

/-! # Toolchains

How source texts and bytecode are read, how a module is checked and compacted, and how it is written
as bytecode or as a text for a driver, is up to a toolchain. What a module declares can be seen from
outside, and the text for a driver is written as it is asked for. -/

namespace RenderKit

/-- What a text for a driver is to be like. -/
structure PrintOptions where
  /-- The version of the language. -/
  version : Nat
  /-- The numbers that the text has for resources. -/
  points : List (ResourceBinding × UInt8)
  stage : Stage
  entryPoint : String
deriving DecidableEq, Repr

/-- What reads, checks and writes shaders. What it comes to depends on nothing but what it is
    given, and of what it cannot do there is a report. -/
class Toolchain where
  /-- What is made of a source text, or of bytecode. -/
  Module : Type
  /-- What is found out about a module when it is checked. -/
  Analysis : Type
  /-- Read a text for a stage, with some definitions. -/
  parse : Stage → List (String × String) → String → Except String Module
  /-- Read bytecode. -/
  read : List UInt32 → Except String Module
  /-- What a module declares. -/
  view : Module → ShaderModule
  validate : Module → Except String Analysis
  /-- Whether the entry point at a place uses the global at a place, itself or through the
      functions it calls. -/
  uses : Analysis → Nat → Nat → Bool
  compact : Module → Module
  /-- Write the entry point of a stage and a name as bytecode, next to the source if it is given. -/
  write : Module → Analysis → Option String → Stage → String → Except String (List UInt32)
  /-- Write a module in the language of drivers. -/
  print : Module → Analysis → PrintOptions → Except String String

end RenderKit
