import RenderKit.Shader.Module

set_option autoImplicit false

/-! # Valid modules

A module that is to be translated has to keep the rules of the graphics interface. -/

namespace RenderKit.ShaderModule

/-- The globals an entry point uses, in the order of their declaration. -/
def used (m : ShaderModule) (e : EntryPoint) : List Global :=
  (m.globals.zipIdx.filter fun g => e.uses.contains g.2).map (·.1)

/-- Whether a value of the type can be kept in memory that is shared with the host. Truth values
    and handles cannot. Fuel bounds the depth of the type. -/
def shareable (m : ShaderModule) : Nat → TypeRef → Bool
  | 0, _ => false
  | fuel + 1, t =>
      match m.type? t with
      | some (.scalar s) | some (.vector _ s) | some (.matrix _ _ s) => s.kind != .bool
      | some (.array element _) => m.shareable fuel element
      | some (.struct members) => members.all fun x => m.shareable fuel x.type
      | _ => false

/-- Whether a value of the type can flow between stages. -/
def passable (m : ShaderModule) (t : TypeRef) : Bool :=
  match m.type? t with
  | some (.scalar s) | some (.vector _ s) => s.kind != .bool
  | _ => false

/-- Resources have a binding, and nothing else has one. Blocks hold shareable values. -/
def globalValid (m : ShaderModule) (g : Global) : Bool :=
  match g.space with
  | .uniform | .storage => g.binding.isSome && m.shareable (m.types.length + 1) g.type
  | .handle => g.binding.isSome
  | .pushConstant => g.binding.isNone && m.shareable (m.types.length + 1) g.type
  | .workGroup | .hidden => g.binding.isNone

/-- Whether no member of a list occurs twice. -/
def distinct {α : Type} [BEq α] : List α → Bool
  | [] => true
  | a :: rest => !rest.contains a && distinct rest

/-- Whether a built-in can be passed into a stage, or be written by it. -/
def builtInFits (stage : Stage) (written : Bool) (code : Nat) : Bool :=
  match stage, written with
  | .vertex, false => [42, 43, 4424, 4425, 4426, 4440].contains code
  | .vertex, true => [0, 1, 3, 4, 15].contains code
  | .fragment, false => [0, 7, 15, 16, 17, 18, 20, 4440].contains code
  | .fragment, true => [20, 22].contains code
  | .compute, false => [24, 25, 26, 27, 28, 29, 36, 38, 40, 41].contains code
  | _, _ => false

/-- The values that a stage variable stands for: itself, or the members of a structure that is
    passed member by member. -/
def passed (m : ShaderModule) (v : StageVar) : List StageVar :=
  match v.varying, m.type? v.type with
  | none, some (.struct members) =>
      members.map fun x => { name := x.name, type := x.type, varying := x.varying }
  | _, _ => [v]

def stageVarFits (stage : Stage) (written : Bool) (v : StageVar) : Bool :=
  match v.varying with
  | some (.location _) => true
  | some (.builtIn code) => builtInFits stage written code
  | none => false

/-- Built-ins fit the stage, locations are distinct on both sides, the resources in use have
    distinct bindings, at most one push-constant block is in use, and a vertex stage writes the
    position. -/
def entryValid (m : ShaderModule) (e : EntryPoint) : Bool :=
  let used := m.used e
  let pushes := used.filter fun g => g.space == .pushConstant
  let inputs := e.inputs.flatMap m.passed
  let outputs := e.outputs.flatMap m.passed
  let placed := fun (v : StageVar) => v.location?.isSome
  inputs.all (stageVarFits e.stage false)
    && outputs.all (stageVarFits e.stage true)
    && distinct (inputs.filterMap StageVar.location?)
    && distinct (outputs.filterMap StageVar.location?)
    && (inputs.filter placed).all (fun v => m.passable v.type)
    && (outputs.filter placed).all (fun v => m.passable v.type)
    && distinct (used.filterMap (·.binding))
    && decide (pushes.length ≤ 1)
    && (e.stage != .vertex || outputs.any fun v => v.varying == some .position)

def valid (m : ShaderModule) : Bool :=
  m.globals.all m.globalValid && m.entries.all m.entryValid

end RenderKit.ShaderModule
