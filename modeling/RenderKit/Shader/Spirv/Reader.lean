import RenderKit.Shader.Module
import RenderKit.Shader.Spirv.Instruction

set_option autoImplicit false

/-! # Reading bytecode

Bytecode is read instruction by instruction. Outside of functions the instructions come in
phases, and none may appear after a later phase has begun. Inside of a function only two things
matter to the interface: which globals its instructions go to, and which functions it calls.
Reading fails on the first thing that is malformed, unknown or unsupported. -/

namespace RenderKit.Spirv

/-- The number by which instructions refer to each other. -/
abbrev Id := UInt32

/-! ## What is known while reading -/

/-- A decoration of an object, or of one of its members. -/
structure Decoration where
  target : Id
  member : Option Nat
  kind : UInt32
  operands : List UInt32

/-- An announced entry point, waiting for its function. -/
structure Pending where
  stage : Option Stage
  function : Id
  name : String
  interface : List Id
  groupSize : Nat × Nat × Nat

/-- What a variable outside of functions is. -/
inductive Role where
  | global (place : Nat)
  | input (stageVar : StageVar)
  | output (stageVars : List StageVar)

/-- A finished function. -/
structure Body where
  function : Id
  uses : List Nat
  calls : List Id

/-- The function being read. -/
structure OpenBody where
  function : Id
  parameters : Nat
  inBlock : Bool
  /-- The addresses inside of globals that were computed so far. -/
  roots : List (Id × Nat)
  uses : List Nat
  calls : List Id

structure Reading where
  phase : Nat
  names : List (Id × String)
  memberNames : List ((Id × Nat) × String)
  decorations : List Decoration
  pending : List Pending
  types : List ShaderType
  typeIds : List (Id × TypeRef)
  void : Option Id
  functionTypes : List (Id × Id × Nat)
  constants : List (Id × Option Nat)
  /-- Structures that are storage buffers by decoration. -/
  bufferTypes : List TypeRef
  roles : List (Id × Role)
  globals : List Global
  current : Option OpenBody
  bodies : List Body
  /-- The entry points whose functions were read, in that order. -/
  ready : List Pending

namespace Reading

def start : Reading :=
  { phase := 0, names := [], memberNames := [], decorations := [], pending := [], types := []
    typeIds := [], void := none, functionTypes := [], constants := [], bufferTypes := []
    roles := [], globals := [], current := none, bodies := [], ready := [] }

/-- Enter a phase, unless a later one has begun. -/
def enter (r : Reading) (phase : Nat) : Option Reading :=
  if phase < r.phase then none else some { r with phase := phase }

def type? (r : Reading) (id : Id) : Option TypeRef := r.typeIds.lookup id

def shape? (r : Reading) (id : Id) : Option ShaderType := (r.type? id).bind fun t => r.types[t]?

/-- Add a type under an id. -/
def addType (r : Reading) (id : Id) (t : ShaderType) : Reading :=
  { r with types := r.types ++ [t], typeIds := (id, r.types.length) :: r.typeIds }

def decorationsOf (r : Reading) (target : Id) (member : Option Nat) : List Decoration :=
  r.decorations.filter fun d => d.target == target && d.member == member

/-- The number that goes with a decoration; the last one counts. -/
def value? (ds : List Decoration) (kind : UInt32) : Option Nat :=
  (ds.find? fun d => d.kind == kind).bind fun d => d.operands.head?.map (·.toNat)

/-- The built-ins that are understood. -/
def builtIns : List Nat :=
  [0, 1, 3, 4, 7, 15, 16, 17, 18, 20, 22, 24, 25, 26, 27, 28, 29, 36, 38, 40, 41, 42, 43, 4424,
   4425, 4440]

/-- How decorations say a value is passed: by a location or as a built-in, not both. -/
def varying? (ds : List Decoration) : Option Varying :=
  match value? ds Decor.builtIn, value? ds Decor.location with
  | some code, none => if builtIns.contains code then some (.builtIn code) else none
  | none, some n => some (.location n)
  | _, _ => none

/-! ## Annotations -/

/-- The decorations that carry one number. -/
def numbered : List UInt32 :=
  [Decor.builtIn, Decor.location, Decor.binding, Decor.descriptorSet, Decor.offset,
   Decor.matrixStride, Decor.arrayStride]

def decorate (r : Reading) (target : Id) (member : Option Nat) (kind : UInt32)
    (operands : List UInt32) : Option Reading :=
  if numbered.contains kind && operands.length != 1 then none
  else
    some { r with
      decorations :=
        { target := target, member := member, kind := kind, operands := operands }
          :: r.decorations }

/-! ## Types -/

/-- The sizes a vector or one side of a matrix can have. -/
def vectorSize? (n : UInt32) : Option Nat :=
  if 2 ≤ n.toNat && n.toNat ≤ 4 then some n.toNat else none

/-- The bytes a column of a matrix takes up, with the gap behind three rows. -/
def columnStride (rows width : Nat) : Nat := (if rows = 2 then 2 else 4) * width

def width? (bits : UInt32) : Option Nat :=
  if bits.toNat / 8 < 256 then some (bits.toNat / 8) else none

def imageDim? (n : UInt32) : Option ImageDim :=
  match n.toNat with
  | 0 => some .d1
  | 1 => some .d2
  | 2 => some .d3
  | 3 => some .cube
  | _ => none

/-- The members of a structure. A matrix must have the stride of its shape. -/
def members? (r : Reading) (struct : Id) : Nat → List Id → Option (List Member)
  | _, [] => some []
  | place, id :: rest => do
      let t ← r.type? id
      let ds := r.decorationsOf struct (some place)
      match r.types[t]?, value? ds Decor.matrixStride with
      | some (.matrix _ rows s), some stride =>
          if stride ≠ 0 && stride ≠ columnStride rows s.width then none
      | _, _ => pure ()
      let following ← members? r struct (place + 1) rest
      return { name := r.memberNames.lookup (struct, place), type := t, varying := varying? ds }
        :: following

/-- The space of a class of storage; inputs and outputs have none. -/
def space? (storage : UInt32) : Option (Option Space) :=
  if storage = Class.uniformConstant then some (some .handle)
  else if storage = Class.input || storage = Class.output then some none
  else if storage = Class.uniform then some (some .uniform)
  else if storage = Class.workgroup then some (some .workGroup)
  else if storage = Class.hidden || storage = Class.function then some (some .hidden)
  else if storage = Class.pushConstant then some (some .pushConstant)
  else if storage = Class.storageBuffer then some (some .storage)
  else none

/-- Read a pointer type. Handles are not pointed to: the pointer is the handle's own type. -/
def pointer (r : Reading) (id : Id) (storage : UInt32) (target : Id) : Option Reading := do
  let t ← r.type? target
  let space ← if r.bufferTypes.contains t then some (some .storage) else space? storage
  match r.types[t]?, space with
  | some (.array _ none), some .storage => pure ()
  | some (.array _ none), _ => none
  | _, _ => pure ()
  if space = some .handle then some { r with typeIds := (id, t) :: r.typeIds }
  else some (r.addType id (.pointer t))

def image (r : Reading) (id sampled : Id) (rest : List UInt32) : Option Reading := do
  match ← r.shape? sampled with
  | .scalar _ | .vector _ _ | .matrix _ _ _ => pure ()
  | _ => none
  match rest with
  | dim :: depth :: arrayed :: _ :: usage :: format :: _ =>
      let dim ← imageDim? dim
      let kind : ImageClass :=
        if depth = 1 then .depth else if format ≠ 0 || usage = 2 then .storage else .sampled
      some (r.addType id (.image dim kind (arrayed != 0)))
  | _ => none

def array (r : Reading) (id element length : Id) : Option Reading := do
  let count ← (← r.constants.lookup length)
  if count = 0 then none
  let t ← r.type? element
  match r.types[t]? with
  | some (.image _ _ _) | some .sampler => some (r.addType id (.handles t))
  | _ => some (r.addType id (.array t (some count)))

def struct (r : Reading) (id : Id) (ids : List Id) : Option Reading := do
  let members ← r.members? id 0 ids
  let buffer := (r.decorationsOf id none).any fun d => d.kind == Decor.bufferBlock
  let place := r.types.length
  let r := r.addType id (.struct members)
  some (if buffer then { r with bufferTypes := place :: r.bufferTypes } else r)

/-! ## Variables -/

/-- The set and the binding of a resource; one without the other is none. -/
def resource? (ds : List Decoration) : Option ResourceBinding :=
  match value? ds Decor.descriptorSet, value? ds Decor.binding with
  | some set, some binding => some ⟨set, binding⟩
  | _, _ => none

/-- What flows out through a variable: one value, or the members of a block. -/
def outputs (r : Reading) (name : Option String) (t : TypeRef) (ds : List Decoration) :
    List StageVar :=
  match varying? ds with
  | some v => [{ name := name, type := t, varying := some v }]
  | none =>
      match r.types[t]? with
      | some (.struct members) =>
          members.filterMap fun x =>
            x.varying.map fun v => { name := x.name, type := x.type, varying := some v }
      | _ => []

def declare (r : Reading) (type id : Id) (storage : UInt32) : Option Reading := do
  let given ← r.type? type
  let t := match r.types[given]? with
    | some (.pointer target) => target
    | _ => given
  let ds := r.decorationsOf id none
  match r.types[given]? with
  | some (.handles _) => if (resource? ds).isNone then none
  | _ => pure ()
  let space ← if r.bufferTypes.contains t then some (some .storage) else space? storage
  let name := r.names.lookup id
  match space with
  | some space =>
      let global : Global := { name := name, space := space, binding := resource? ds, type := t }
      some { r with
        globals := r.globals ++ [global]
        roles := (id, .global r.globals.length) :: r.roles }
  | none =>
      if storage = Class.input then
        let v ← varying? ds
        some { r with
          roles := (id, .input { name := name, type := t, varying := some v }) :: r.roles }
      else some { r with roles := (id, .output (r.outputs name t ds)) :: r.roles }

/-! ## Entry points -/

/-- The stage of an execution model that is understood. -/
def stage? (model : UInt32) : Option Stage :=
  match model.toNat with
  | 0 => some .vertex
  | 4 => some .fragment
  | 5 => some .compute
  | _ => none

def announce (r : Reading) (model function : UInt32) (rest : List UInt32) : Option Reading := do
  let stage ← stage? model
  let (name, interface) ← readText rest
  let p : Pending :=
    { stage := some stage, function := function, name := name, interface := interface
      groupSize := (0, 0, 0) }
  some { r with pending := r.pending.filter (fun q => q.function != function) ++ [p] }

/-- The modes that say nothing about the interface. -/
def quietModes : List Nat := [7, 9, 12, 14, 15, 16]

def localSizeMode : Nat := 17

def mode (r : Reading) (function : Id) (mode : UInt32) (operands : List UInt32) :
    Option Reading := do
  if !(r.pending.any fun p => p.function == function) then none
  if quietModes.contains mode.toNat then some r
  else if mode.toNat = localSizeMode then
    match operands with
    | x :: y :: z :: _ =>
        let update (p : Pending) : Pending :=
          if p.function == function then
            { p with groupSize := (x.toNat, y.toNat, z.toNat) }
          else p
        some { r with pending := r.pending.map update }
    | _ => none
  else none

/-! ## Functions -/

def beginFunction (r : Reading) (result id type : Id) : Option Reading := do
  let (expected, parameters) ← r.functionTypes.lookup type
  if expected ≠ result then none
  if r.void ≠ some result && (r.type? result).isNone then none
  some { r with
    current := some
      { function := id, parameters := parameters, inBlock := false, roots := [], uses := []
        calls := [] } }

def endFunction (r : Reading) (b : OpenBody) : Reading :=
  { r with
    current := none
    bodies := r.bodies ++ [{ function := b.function, uses := b.uses, calls := b.calls }]
    ready := r.ready ++ r.pending.filter fun p => p.function == b.function
    pending := r.pending.filter fun p => p.function != b.function }

def terminators : List Nat :=
  [Op.branch, Op.branchConditional, Op.switch, Op.kill, Op.returnVoid, Op.returnValue,
   Op.unreachable]

/-- The operands through which an instruction goes to memory. -/
def addresses (i : Instruction) : List Id :=
  if i.opcode = Op.load || i.opcode = Op.arrayLength
      || (227 ≤ i.opcode && i.opcode ≤ 242 && i.opcode ≠ 228) then
    (i.operands.drop 2).take 1
  else if i.opcode = Op.store || i.opcode = 228 then i.operands.take 1
  else if i.opcode = Op.copyMemory then i.operands.take 2
  else if i.opcode = Op.functionCall then i.operands.drop 3
  else []

/-- The global an address lies in. -/
def root? (r : Reading) (b : OpenBody) (id : Id) : Option Nat :=
  match b.roots.lookup id with
  | some g => some g
  | none =>
      match r.roles.lookup id with
      | some (.global g) => some g
      | _ => none

/-- One instruction inside a block. -/
def blockStep (r : Reading) (b : OpenBody) (i : Instruction) : OpenBody :=
  let b := { b with uses := b.uses ++ (addresses i).filterMap (r.root? b) }
  if i.opcode = Op.accessChain || i.opcode = Op.inBoundsAccessChain
      || i.opcode = Op.copyObject then
    match i.operands with
    | _ :: result :: base :: _ =>
        match r.root? b base with
        | some g => { b with roots := (result, g) :: b.roots }
        | none => b
    | _ => b
  else if i.opcode = Op.functionCall then
    { b with calls := b.calls ++ (i.operands.drop 2).take 1 }
  else b

/-- One instruction of a function: its parameters come first, then blocks, each from a label to
    a terminator. -/
def bodyStep (r : Reading) (b : OpenBody) (i : Instruction) : Option Reading :=
  if b.parameters ≠ 0 then
    if i.opcode = Op.functionParameter && i.operands.length = 2 then
      some { r with current := some { b with parameters := b.parameters - 1 } }
    else none
  else if b.inBlock then
    if terminators.contains i.opcode then
      some { r with current := some { b with inBlock := false } }
    else if [Op.label, Op.function, Op.functionEnd, Op.functionParameter].contains i.opcode then
      none
    else some { r with current := some (r.blockStep b i) }
  else if i.opcode = Op.label && i.operands.length = 1 then
    some { r with current := some { b with inBlock := true } }
  else if i.opcode = Op.line || i.opcode = Op.noLine then some r
  else if i.opcode = Op.functionEnd && i.operands.isEmpty then some (r.endFunction b)
  else none

/-! ## Instructions outside of functions -/

/-- The extensions that are understood. -/
def extensions : List String :=
  ["SPV_KHR_storage_buffer_storage_class", "SPV_KHR_vulkan_memory_model", "SPV_KHR_multiview",
   "SPV_EXT_descriptor_indexing", "SPV_EXT_shader_atomic_float_add", "SPV_KHR_16bit_storage",
   "SPV_KHR_non_semantic_info", "SPV_KHR_shader_draw_parameters"]

/-- The sets of further instructions that are understood. -/
def instructionSets : List String :=
  ["GLSL.std.450", "NonSemantic.DebugPrintf", "NonSemantic.Shader.DebugInfo.100"]

/-- Announcements, names and annotations. -/
def preambleStep (r : Reading) (i : Instruction) : Option Reading := do
  let op := i.opcode
  if op = Op.capability then
    if i.operands.length = 1 then r.enter 1 else none
  else if op = Op.extension then
    let r ← r.enter 2
    let name ← wholeText i.operands
    if extensions.contains name then some r else none
  else if op = Op.extInstImport then
    let r ← r.enter 3
    let name ← wholeText i.operands.tail
    if instructionSets.contains name then some r else none
  else if op = Op.memoryModel then
    if i.operands.length = 2 then r.enter 4 else none
  else if op = Op.entryPoint then
    let r ← r.enter 5
    match i.operands with
    | model :: function :: rest => r.announce model function rest
    | _ => none
  else if op = Op.executionMode then
    let r ← r.enter 6
    match i.operands with
    | function :: mode :: rest => r.mode function mode rest
    | _ => none
  else if op = Op.source || op = Op.sourceExtension || op = Op.string then r.enter 7
  else if op = Op.name then
    let r ← r.enter 8
    match i.operands with
    | id :: rest =>
        let text ← wholeText rest
        some { r with names := (id, text) :: r.names }
    | [] => none
  else if op = Op.memberName then
    let r ← r.enter 8
    match i.operands with
    | id :: member :: rest =>
        let text ← wholeText rest
        some { r with memberNames := ((id, member.toNat), text) :: r.memberNames }
    | _ => none
  else if op = Op.moduleProcessed then r.enter 9
  else if op = Op.decorate then
    let r ← r.enter 10
    match i.operands with
    | id :: kind :: rest => r.decorate id none kind rest
    | _ => none
  else if op = Op.memberDecorate then
    let r ← r.enter 10
    match i.operands with
    | id :: member :: kind :: rest => r.decorate id (some member.toNat) kind rest
    | _ => none
  else none

/-- Types of values. -/
def typeStep (r : Reading) (i : Instruction) : Option Reading := do
  let op := i.opcode
  match i.operands with
  | [id] =>
      if op = Op.typeVoid then some { r with void := some id }
      else if op = Op.typeBool then some (r.addType id (.scalar ⟨.bool, 1⟩))
      else if op = Op.typeSampler then some (r.addType id .sampler)
      else if op = Op.typeStruct then r.struct id []
      else none
  | [id, a] =>
      if op = Op.typeFloat then
        let w ← width? a
        some (r.addType id (.scalar ⟨.float, w⟩))
      else if op = Op.typeSampledImage then
        let t ← r.type? a
        some { r with typeIds := (id, t) :: r.typeIds }
      else if op = Op.typeRuntimeArray then
        let t ← r.type? a
        match r.types[t]? with
        | some (.image _ _ _) | some .sampler => some (r.addType id (.handles t))
        | _ => some (r.addType id (.array t none))
      else if op = Op.typeStruct then r.struct id [a]
      else if op = Op.typeFunction then
        some { r with functionTypes := (id, a, 0) :: r.functionTypes }
      else none
  | id :: a :: b :: rest =>
      if op = Op.typeStruct then r.struct id (a :: b :: rest)
      else if op = Op.typeFunction then
        some { r with functionTypes := (id, a, rest.length + 1) :: r.functionTypes }
      else if op = Op.typeImage then r.image id a (b :: rest)
      else if !rest.isEmpty then none
      else if op = Op.typeInt then
        let w ← width? a
        match b.toNat with
        | 0 => some (r.addType id (.scalar ⟨.uint, w⟩))
        | 1 => some (r.addType id (.scalar ⟨.sint, w⟩))
        | _ => none
      else if op = Op.typeVector then
        match ← r.shape? a with
        | .scalar s => (vectorSize? b).map fun n => r.addType id (.vector n s)
        | _ => none
      else if op = Op.typeMatrix then
        match ← r.shape? a with
        | .vector rows s => (vectorSize? b).map fun n => r.addType id (.matrix n rows s)
        | _ => none
      else if op = Op.typePointer then r.pointer id a b
      else if op = Op.typeArray then r.array id a b
      else none
  | [] => none

/-- Constants, of which only whole numbers matter, and variables. -/
def valueStep (r : Reading) (i : Instruction) : Option Reading := do
  let op := i.opcode
  match i.operands with
  | type :: id :: rest =>
      if op = Op.constant || op = Op.specConstant then
        match ← r.shape? type, rest with
        | .scalar s, low :: _ =>
            let value := if s.kind = .sint || s.kind = .uint then some low.toNat else none
            some { r with constants := (id, value) :: r.constants }
        | _, _ => none
      else if op = Op.declareVariable then
        match rest with
        | [storage] => r.declare type id storage
        | [storage, initial] =>
            if (r.constants.lookup initial).isSome then r.declare type id storage else none
        | _ => none
      else if [Op.constantNull, Op.undef, Op.constantTrue, Op.constantFalse, Op.specConstantTrue,
          Op.specConstantFalse, Op.constantComposite, Op.specConstantComposite].contains op then
        if (r.type? type).isSome then
          some { r with constants := (id, none) :: r.constants }
        else none
      else none
  | _ => none

def typeOps : List Nat :=
  [Op.typeVoid, Op.typeBool, Op.typeInt, Op.typeFloat, Op.typeVector, Op.typeMatrix, Op.typeImage,
   Op.typeSampler, Op.typeSampledImage, Op.typeArray, Op.typeRuntimeArray, Op.typeStruct,
   Op.typePointer, Op.typeFunction]

def valueOps : List Nat :=
  [Op.constant, Op.specConstant, Op.declareVariable, Op.constantNull, Op.undef, Op.constantTrue,
   Op.constantFalse, Op.specConstantTrue, Op.specConstantFalse, Op.constantComposite,
   Op.specConstantComposite]

/-- One instruction. -/
def step (r : Reading) (i : Instruction) : Option Reading :=
  match r.current with
  | some b => r.bodyStep b i
  | none =>
      if typeOps.contains i.opcode then (r.enter 11).bind fun r => r.typeStep i
      else if valueOps.contains i.opcode then (r.enter 11).bind fun r => r.valueStep i
      else if i.opcode = Op.function then
        match r.enter 12, i.operands with
        | some r, [result, id, _, type] => r.beginFunction result id type
        | _, _ => none
      else r.preambleStep i

def steps (r : Reading) : List Instruction → Option Reading
  | [] => some r
  | i :: rest => (r.step i).bind fun r => r.steps rest

/-! ## The module -/

def body? (r : Reading) (id : Id) : Option Body := r.bodies.find? fun b => b.function == id

/-- The globals that some functions use, with everything they call. Fuel is the number of
    functions: a longer chain of calls would go in a circle. -/
def usesOf (r : Reading) : Nat → List Id → List Nat
  | 0, _ => []
  | fuel + 1, ids =>
      ids.flatMap fun id =>
        match r.body? id with
        | none => []
        | some b => b.uses ++ r.usesOf fuel b.calls

/-- An entry point with everything its interface names. -/
def entryPoint? (r : Reading) (p : Pending) : Option EntryPoint := do
  let roles ← p.interface.mapM fun id => r.roles.lookup id
  let stage ← p.stage
  some
    { name := p.name
      stage := stage
      inputs := roles.filterMap fun
        | .input stageVar => some stageVar
        | _ => none
      outputs := roles.flatMap fun
        | .output stageVars => stageVars
        | _ => []
      uses := (r.usesOf (r.bodies.length + 1) [p.function]).eraseDups
      groupSize := p.groupSize }

def finish (r : Reading) : Option ShaderModule := do
  if r.current.isSome then none
  let entries ← r.ready.mapM r.entryPoint?
  some { types := r.types, globals := r.globals, entries := entries }

end Reading

/-- The module in some bytecode, unless it is malformed. The header has five words. -/
def read (words : List UInt32) : Option ShaderModule :=
  match words with
  | first :: _ :: _ :: _ :: _ :: rest =>
      if first = magic then
        (Instruction.split rest).bind fun instructions =>
          (Reading.start.steps instructions).bind Reading.finish
      else none
  | _ => none

end RenderKit.Spirv
