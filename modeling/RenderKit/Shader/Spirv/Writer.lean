import RenderKit.Shader.Module
import RenderKit.Shader.Spirv.Instruction

set_option autoImplicit false

/-! # Writing bytecode

A module is written out as its interface: names, decorations, types, variables, and for every
entry point a function that goes once to each global the entry point uses. Uniform and
push-constant blocks are wrapped into a structure whose only member has no name, so that a value
of any type can be a block. -/

namespace RenderKit.Spirv

namespace Writer

/-! ## Ids

Every object has an id of its own; ids of one kind stand together. -/

def voidId : Nat := 1

def functionTypeId : Nat := 2

def uintId : Nat := 3

def typeId (t : TypeRef) : Nat := 4 + t

/-- The constant with the length of an array type. -/
def lengthId (m : ShaderModule) (t : TypeRef) : Nat := 4 + m.types.length + t

def firstGlobal (m : ShaderModule) : Nat := 4 + 2 * m.types.length

def wrapperId (m : ShaderModule) (g : Nat) : Nat := firstGlobal m + 3 * g

def pointerId (m : ShaderModule) (g : Nat) : Nat := firstGlobal m + 3 * g + 1

def globalId (m : ShaderModule) (g : Nat) : Nat := firstGlobal m + 3 * g + 2

def firstEntry (m : ShaderModule) : Nat := firstGlobal m + 3 * m.globals.length

/-- The ids an entry point needs: its function, its label, two for each stage variable and one
    for each use. -/
def entrySize (e : EntryPoint) : Nat :=
  2 + 2 * (e.inputs.length + e.outputs.length) + e.uses.length

/-! ## Instructions -/

def op (opcode : Nat) (operands : List Nat) (tail : List UInt32) : Instruction :=
  { opcode := opcode, operands := operands.map Nat.toUInt32 ++ tail }

def nameOp (id : Nat) : Option String → List Instruction
  | none => []
  | some name => [op Op.name [id] (textWords name)]

def decorateOp (id : Nat) (kind : UInt32) (values : List Nat) : Instruction :=
  { opcode := Op.decorate, operands := id.toUInt32 :: kind :: values.map Nat.toUInt32 }

def isWrapped (g : Global) : Bool := g.space == .uniform || g.space == .pushConstant

/-- The type a global has in the bytecode. -/
def outerType (m : ShaderModule) (place : Nat) (g : Global) : Nat :=
  if isWrapped g then wrapperId m place else typeId g.type

def classOf : Space → UInt32
  | .uniform => Class.uniform
  | .pushConstant => Class.pushConstant
  | .storage => Class.storageBuffer
  | .handle => Class.uniformConstant
  | .workGroup => Class.workgroup
  | .hidden => Class.hidden

def model : Stage → Nat
  | .vertex => 0
  | .tessControl => 1
  | .tessEvaluation => 2
  | .geometry => 3
  | .fragment => 4
  | .compute => 5

/-! ## Names and decorations -/

def typeNames (t : TypeRef) : ShaderType → List Instruction
  | .struct members =>
      members.zipIdx.flatMap fun x =>
        match x.1.name with
        | none => []
        | some name => [op Op.memberName [typeId t, x.2] (textWords name)]
  | _ => []

def globalNames (m : ShaderModule) (place : Nat) (g : Global) : List Instruction :=
  nameOp (globalId m place) g.name

def globalDecorations (m : ShaderModule) (place : Nat) (g : Global) : List Instruction :=
  let block := match g.space with
    | .uniform | .pushConstant => [decorateOp (wrapperId m place) Decor.block []]
    | .storage => [decorateOp (typeId g.type) Decor.block []]
    | _ => []
  let resource := match g.binding with
    | none => []
    | some b =>
        [decorateOp (globalId m place) Decor.descriptorSet [b.set],
         decorateOp (globalId m place) Decor.binding [b.binding]]
  block ++ resource

def varyingDecoration (id : Nat) : Varying → Instruction
  | .location n => decorateOp id Decor.location [n]
  | .builtIn code => decorateOp id Decor.builtIn [code]

/-! ## Types and variables -/

def scalarType (id : Nat) (s : Scalar) : Instruction :=
  match s.kind with
  | .float => op Op.typeFloat [id, 8 * s.width] []
  | .sint => op Op.typeInt [id, 8 * s.width, 1] []
  | .uint => op Op.typeInt [id, 8 * s.width, 0] []
  | .bool => op Op.typeBool [id] []

/-- The place of a type in the table. -/
def placeOf (m : ShaderModule) (t : ShaderType) : Nat := m.types.idxOf t

def dimNumber : ImageDim → Nat
  | .d1 => 0
  | .d2 => 1
  | .d3 => 2
  | .cube => 3

/-- A type. Vectors and matrices need their members' types in the table before them. -/
def typeOps (m : ShaderModule) (t : TypeRef) : ShaderType → List Instruction
  | .scalar s => [scalarType (typeId t) s]
  | .vector n s => [op Op.typeVector [typeId t, typeId (placeOf m (.scalar s)), n] []]
  | .matrix columns rows s =>
      [op Op.typeMatrix [typeId t, typeId (placeOf m (.vector rows s)), columns] []]
  | .image dim kind arrayed =>
      let depth := if kind = .depth then 1 else 0
      let usage := if kind = .storage then 2 else 1
      [op Op.typeImage
        [typeId t, typeId (placeOf m (.scalar ⟨.float, 4⟩)), dimNumber dim, depth,
         arrayed.toNat, 0, usage, 0] []]
  | .sampler => [op Op.typeSampler [typeId t] []]
  | .array element (some n) =>
      [op Op.constant [uintId, lengthId m t, n] [],
       op Op.typeArray [typeId t, typeId element, lengthId m t] []]
  | .handles element =>
      [op Op.constant [uintId, lengthId m t, 1] [],
       op Op.typeArray [typeId t, typeId element, lengthId m t] []]
  | .array element none => [op Op.typeRuntimeArray [typeId t, typeId element] []]
  | .struct members => [op Op.typeStruct (typeId t :: members.map fun x => typeId x.type) []]
  | .pointer target => [op Op.typePointer [typeId t, 6, typeId target] []]

def globalOps (m : ShaderModule) (place : Nat) (g : Global) : List Instruction :=
  let wrapper :=
    if isWrapped g then [op Op.typeStruct [wrapperId m place, typeId g.type] []] else []
  let storage := (classOf g.space).toNat
  wrapper ++
    [op Op.typePointer [pointerId m place, storage, outerType m place g] [],
     op Op.declareVariable [pointerId m place, globalId m place, storage] []]

/-! ## Entry points -/

/-- The stage variables of an entry point with their ids and their classes. -/
def stageVars (base : Nat) (e : EntryPoint) : List (Nat × StageVar × UInt32) :=
  let all := e.inputs.map (fun p => (p, Class.input)) ++ e.outputs.map fun p => (p, Class.output)
  all.zipIdx.map fun x => (base + 2 + 2 * x.2, x.1)

def announcement (base : Nat) (e : EntryPoint) : Instruction :=
  { opcode := Op.entryPoint
    operands := (model e.stage).toUInt32 :: base.toUInt32 :: textWords e.name
      ++ (stageVars base e).map fun p => (p.1 + 1).toUInt32 }

def modeOps (base : Nat) (e : EntryPoint) : List Instruction :=
  match e.stage with
  | .fragment => [op Op.executionMode [base, 7] []]
  | .compute =>
      [op Op.executionMode [base, 17, e.groupSize.1, e.groupSize.2.1, e.groupSize.2.2] []]
  | _ => []

def stageVarNames (base : Nat) (e : EntryPoint) : List Instruction :=
  (stageVars base e).flatMap fun p => nameOp (p.1 + 1) p.2.1.name

def stageVarDecorations (base : Nat) (e : EntryPoint) : List Instruction :=
  (stageVars base e).flatMap fun p =>
    p.2.1.varying.toList.map (varyingDecoration (p.1 + 1))

def stageVarOps (base : Nat) (e : EntryPoint) : List Instruction :=
  (stageVars base e).flatMap fun p =>
    [op Op.typePointer [p.1, p.2.2.toNat, typeId p.2.1.type] [],
     op Op.declareVariable [p.1, p.1 + 1, p.2.2.toNat] []]

def bodyOps (m : ShaderModule) (base : Nat) (e : EntryPoint) : List Instruction :=
  let results := base + 2 + 2 * (e.inputs.length + e.outputs.length)
  let loads := e.uses.zipIdx.filterMap fun u =>
    m.globals[u.1]?.map fun g =>
      op Op.load [outerType m u.1 g, results + u.2, globalId m u.1] []
  [op Op.function [voidId, base, 0, functionTypeId] [], op Op.label [base + 1] []] ++ loads
    ++ [op Op.returnVoid [] [], op Op.functionEnd [] []]

/-- The entry points with the first of their ids. -/
def entryBases : Nat → List EntryPoint → List (Nat × EntryPoint)
  | _, [] => []
  | base, e :: rest => (base, e) :: entryBases (base + entrySize e) rest

/-! ## The module -/

def instructions (m : ShaderModule) : List Instruction :=
  let entries := entryBases (firstEntry m) m.entries
  let types := m.types.zipIdx
  let globals := m.globals.zipIdx
  [op Op.capability [1] [], op Op.memoryModel [0, 1] []]
    ++ entries.map (fun e => announcement e.1 e.2)
    ++ entries.flatMap (fun e => modeOps e.1 e.2)
    ++ types.flatMap (fun t => typeNames t.2 t.1)
    ++ globals.flatMap (fun g => globalNames m g.2 g.1)
    ++ entries.flatMap (fun e => stageVarNames e.1 e.2)
    ++ globals.flatMap (fun g => globalDecorations m g.2 g.1)
    ++ entries.flatMap (fun e => stageVarDecorations e.1 e.2)
    ++ [op Op.typeVoid [voidId] [], op Op.typeFunction [functionTypeId, voidId] [],
        op Op.typeInt [uintId, 32, 0] []]
    ++ types.flatMap (fun t => typeOps m t.2 t.1)
    ++ globals.flatMap (fun g => globalOps m g.2 g.1)
    ++ entries.flatMap (fun e => stageVarOps e.1 e.2)
    ++ entries.flatMap (fun e => bodyOps m e.1 e.2)

end Writer

/-- The bytecode of a module: a header of five words and the instructions. -/
def write (m : ShaderModule) : List UInt32 :=
  let bound := (Writer.entryBases (Writer.firstEntry m) m.entries).foldl
    (fun _ e => e.1 + Writer.entrySize e.2) (Writer.firstEntry m)
  [magic, 0x00010000, 0, bound.toUInt32, 0]
    ++ (Writer.instructions m).flatMap Instruction.words

end RenderKit.Spirv
