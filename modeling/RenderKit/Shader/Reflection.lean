import RenderKit.Named
import RenderKit.Shader.Bytecode

set_option autoImplicit false

/-! # Looking into bytecode

A reflection lists what the host has to provide: the attributes of vertices by location, the
members of uniform and push-constant blocks in the order of the module, and the sampled images by
binding. Things without a name get one from their place. -/

namespace RenderKit

/-- The types the host can tell apart. -/
inductive UniformType where
  | none
  | float
  | int
  | vec2
  | vec3
  | vec4
  | ivec2
  | ivec3
  | ivec4
  | mat3
  | mat4
  | bool
  | sampler2D
  | samplerCube
  | sampler3D
deriving DecidableEq, Repr

instance : Named UniformType where
  all := [.none, .float, .int, .vec2, .vec3, .vec4, .ivec2, .ivec3, .ivec4, .mat3, .mat4, .bool,
    .sampler2D, .samplerCube, .sampler3D]
  name
    | .none => "None"
    | .float => "Float"
    | .int => "Int"
    | .vec2 => "Vec2"
    | .vec3 => "Vec3"
    | .vec4 => "Vec4"
    | .ivec2 => "IVec2"
    | .ivec3 => "IVec3"
    | .ivec4 => "IVec4"
    | .mat3 => "Mat3"
    | .mat4 => "Mat4"
    | .bool => "Bool"
    | .sampler2D => "Sampler2D"
    | .samplerCube => "SamplerCube"
    | .sampler3D => "Sampler3D"

namespace UniformType

/-- The bytes of a tightly packed value; samplers have none. -/
def size : UniformType → Nat
  | .float | .int | .bool => 4
  | .vec2 | .ivec2 => 8
  | .vec3 | .ivec3 => 12
  | .vec4 | .ivec4 => 16
  | .mat3 => 36
  | .mat4 => 64
  | .none | .sampler2D | .samplerCube | .sampler3D => 0

def isSampler : UniformType → Bool
  | .sampler2D | .samplerCube | .sampler3D => true
  | _ => false

/-- What the host calls a type of a shader. Types without a word of their own are `none`. -/
def ofShaderType : ShaderType → UniformType
  | .scalar s =>
      match s.kind with
      | .float => .float
      | .sint | .uint => .int
      | .bool => .bool
  | .vector n s =>
      match s.kind, n with
      | .float, 2 => .vec2
      | .float, 3 => .vec3
      | .float, 4 => .vec4
      | .sint, 2 | .uint, 2 => .ivec2
      | .sint, 3 | .uint, 3 => .ivec3
      | .sint, 4 | .uint, 4 => .ivec4
      | _, _ => .none
  | .matrix 3 3 _ => .mat3
  | .matrix 4 4 _ => .mat4
  | .image .d2 _ false => .sampler2D
  | .image .cube _ false => .samplerCube
  | .image .d3 _ false => .sampler3D
  | _ => .none

end UniformType

/-! ## What is found -/

structure AttributeInfo where
  location : Nat
  name : String
  type : UniformType
  offset : Nat
deriving DecidableEq, Repr

structure UniformInfo where
  /-- The binding of the block; push constants have none. -/
  binding : Option Nat
  /-- The place of the member in its block. -/
  location : Nat
  name : String
  type : UniformType
  /-- The bytes of one value. -/
  size : Nat
deriving DecidableEq, Repr

structure SamplerInfo where
  binding : Nat
  name : String
  type : UniformType
deriving DecidableEq, Repr

structure Reflection where
  attributes : List AttributeInfo
  uniforms : List UniformInfo
  samplers : List SamplerInfo
deriving DecidableEq, Repr

namespace Reflection

def empty : Reflection := ⟨[], [], []⟩

def isEmpty (r : Reflection) : Bool :=
  r.attributes.isEmpty && r.uniforms.isEmpty && r.samplers.isEmpty

def uniform? (r : Reflection) (name : String) : Option UniformInfo :=
  r.uniforms.find? fun u => u.name == name

def sampler? (r : Reflection) (name : String) : Option SamplerInfo :=
  r.samplers.find? fun s => s.name == name

def attribute? (r : Reflection) (name : String) : Option AttributeInfo :=
  r.attributes.find? fun a => a.name == name

/-! ## Look-up by name

Where a name occurs more than once, a table by name keeps the last. -/

/-- Put a value under a name, in place of an older one. -/
def put (table : List (String × Nat)) (name : String) (n : Nat) : List (String × Nat) :=
  if table.any fun e => e.1 == name then
    table.map fun e => if e.1 == name then (name, n) else e
  else table ++ [(name, n)]

def table (entries : List (String × Nat)) : List (String × Nat) :=
  entries.foldl (fun t e => put t e.1 e.2) []

def uniformLocations (r : Reflection) : List (String × Nat) :=
  table (r.uniforms.map fun u => (u.name, u.location))

def samplerBindings (r : Reflection) : List (String × Nat) :=
  table (r.samplers.map fun s => (s.name, s.binding))

def attributeLocations (r : Reflection) : List (String × Nat) :=
  table (r.attributes.map fun a => (a.name, a.location))

/-! ## Looking -/

/-- A list in the order of a key; equal keys keep their order. -/
def sortedBy {α : Type} (key : α → Nat) (xs : List α) : List α :=
  xs.mergeSort fun a b => key a ≤ key b

def typeOf (m : ShaderModule) (t : TypeRef) : UniformType :=
  match m.type? t with
  | some t => .ofShaderType t
  | none => .none

/-- The attributes in an input. A built-in is none. A value with a location is one, and gets its
    name from its `place` among the inputs; of a structure that is passed member by member each
    member with a location is one, and gets its name from there. -/
def inputAttributes (m : ShaderModule) (v : StageVar) (place : Nat) : List AttributeInfo :=
  match v.varying with
  | some (.location n) =>
      [{ location := n
         name := v.name.getD ("input" ++ toString place)
         type := typeOf m v.type
         offset := 0 }]
  | some (.builtIn _) => []
  | none =>
      match m.type? v.type with
      | some (.struct members) =>
          members.filterMap fun x =>
            x.location?.map fun n =>
              { location := n
                name := x.name.getD ("input" ++ toString n)
                type := typeOf m x.type
                offset := 0 }
      | _ => []

/-- The attributes among the inputs. -/
def attributesOf (m : ShaderModule) (e : EntryPoint) : List AttributeInfo :=
  sortedBy AttributeInfo.location
    (e.inputs.zipIdx.flatMap fun input => inputAttributes m input.1 input.2)

/-- The type inside of a block. A structure whose only member has no name is a wrapper. -/
def insideOf (m : ShaderModule) (t : TypeRef) : TypeRef :=
  match m.type? t with
  | some (.struct [x]) => if x.name.isNone then x.type else t
  | _ => t

/-- A uniform as it is listed, with the size of its type. -/
def uniformOf (binding : Option Nat) (location : Nat) (name : String) (type : UniformType) :
    UniformInfo :=
  { binding := binding, location := location, name := name, type := type, size := type.size }

def uniformsOf (m : ShaderModule) (g : Global) (binding : Option Nat) : List UniformInfo :=
  let t := insideOf m g.type
  match m.type? t with
  | some (.struct members) =>
      members.zipIdx.map fun x =>
        uniformOf binding x.2 (x.1.name.getD ("member" ++ toString x.2)) (typeOf m x.1.type)
  | _ => [uniformOf binding 0 (g.name.getD "") (typeOf m t)]

def blockUniforms (m : ShaderModule) (g : Global) : List UniformInfo :=
  match g.space with
  | .uniform => uniformsOf m g (g.binding.map (·.binding))
  | .pushConstant => uniformsOf m g none
  | _ => []

/-- A sampled image. Storage images and samplers of their own are none. -/
def imageSampler? (m : ShaderModule) (g : Global) : Option SamplerInfo :=
  match g.space, g.binding, m.type? g.type with
  | .handle, some b, some (.image _ .sampled _) | .handle, some b, some (.image _ .depth _) =>
      some
        { binding := b.binding
          name := g.name.getD ("binding" ++ toString b.binding)
          type := typeOf m g.type }
  | _, _, _ => none

/-- What a module asks the host for through an entry point. Only a vertex stage has attributes. -/
def ofModule (m : ShaderModule) (e : EntryPoint) (stage : Stage) : Reflection :=
  { attributes := if stage = .vertex then attributesOf m e else []
    uniforms := m.globals.flatMap (blockUniforms m)
    samplers := sortedBy SamplerInfo.binding (m.globals.filterMap (imageSampler? m)) }

end Reflection

/-- Look into bytecode. It is not checked beyond being readable. -/
def inspectBytecode [Toolchain] (words : List UInt32) (stage : Stage) :
    Except BytecodeError Reflection := do
  let m := Toolchain.view (← readBytecode words stage .reflect)
  match m.entryPoint? stage with
  | some e => .ok (Reflection.ofModule m e stage)
  | none => .error (.nothingToReflect stage)

/-- Look into bytecode, with an entry in the journal. -/
def reflect [Toolchain] {S : Type} [HasJournal S] (words : List UInt32) (stage : Stage) :
    TaskOn S Reflection := do
  let r ← accept (inspectBytecode words stage)
  note .debug shaderSource
    ("Reflected " ++ stage.name ++ " shader: " ++ toString r.attributes.length ++ " attributes, "
      ++ toString r.uniforms.length ++ " uniforms, " ++ toString r.samplers.length ++ " samplers")
  return r

end RenderKit
