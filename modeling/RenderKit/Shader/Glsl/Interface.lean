import RenderKit.Shader.Glsl.BuiltIn
import RenderKit.Shader.Glsl.Parser
import RenderKit.Shader.Glsl.Source
import RenderKit.Shader.Validity

set_option autoImplicit false

/-! # The interface of a source

The declarations of a source are gone through in their order. Every name that is mentioned has
to be declared before, globals and built-in variables get a number where they first appear, and
what `main` mentions, itself or through the functions it calls, is what the shader uses. -/

namespace RenderKit.Glsl

/-- What a name outside of functions stands for. -/
inductive Meaning where
  /-- A resource. A block has fields. -/
  | resource (place : Nat) (fields : Option (List String))
  /-- Anything else that can be mentioned. -/
  | value
deriving DecidableEq, Repr

structure FunctionInfo where
  name : String
  arity : Nat
  uses : List Nat
  calls : List String
deriving Repr

structure Context where
  stage : Stage
  types : List ShaderType
  structs : List (String × TypeRef)
  globals : List Global
  /-- A text for each global, also for those without a name. -/
  labels : List String
  /-- How many variables outside of functions there are, of every kind. -/
  count : Nat
  meanings : List (String × Meaning)
  inputs : List StageVar
  outputs : List StageVar
  functions : List FunctionInfo
  /-- Whether there is a `main` with a body. -/
  hasMain : Bool
  groupSize : Nat × Nat × Nat

/-- What a source offers: the module, and a text for each of its globals. -/
structure Interface where
  shader : ShaderModule
  labels : List String
deriving Repr

abbrev Build := StateT Context Option

namespace Build

/-! ## Types -/

/-- The place of a type in the table, where it is put if it is new. -/
def intern (t : ShaderType) : Build TypeRef := do
  let c ← get
  let place := c.types.idxOf t
  if place = c.types.length then set { c with types := c.types ++ [t] }
  return place

/-- A named type and the types it is made of. -/
def known : KnownType → Build TypeRef
  | .scalar s => intern (.scalar s)
  | .vector n s => do
      let _ ← intern (.scalar s)
      intern (.vector n s)
  | .matrix columns rows => do
      let _ ← intern (.scalar float32)
      let _ ← intern (.vector rows float32)
      intern (.matrix columns rows float32)
  | .image dim kind arrayed => do
      let _ ← intern (.scalar float32)
      intern (.image dim kind arrayed)
  | .sampler => intern .sampler

def isHandle (types : List ShaderType) (t : TypeRef) : Bool :=
  match types[t]? with
  | some (.image _ _ _) | some .sampler | some (.handles _) => true
  | _ => false

/-- The type of some arrays around an element. -/
def around (element : TypeRef) : List (Option Nat) → Build TypeRef
  | [] => return element
  | n :: rest => do
      let inner ← around element rest
      if n = some 0 then failure
      if isHandle (← get).types inner then intern (.handles inner) else intern (.array inner n)

def type (t : TypeName) : Build TypeRef := do
  let element ← match knownTypes.lookup t.name with
    | some k => known k
    | none => ((← get).structs.lookup t.name : Option TypeRef)
  around element t.lengths

/-- Whether a type holds a matrix with two rows. Fuel bounds the depth of the type. -/
def holdsTwoRows (types : List ShaderType) : Nat → TypeRef → Bool
  | 0, _ => false
  | fuel + 1, t =>
      match types[t]? with
      | some (.matrix _ 2 _) => true
      | some (.array element _) => holdsTwoRows types fuel element
      | some (.struct members) => members.any fun x => holdsTwoRows types fuel x.type
      | _ => false

/-- A structure, whose members have distinct names. Unless it is dense, every column of a matrix
    takes up the room of a whole vector; the bytecode has no way to say so for columns of two, so
    such matrices are refused. -/
def struct (dense : Bool) (fields : List Field) : Build TypeRef := do
  if !ShaderModule.distinct (fields.map (·.name)) then failure
  let members ← fields.mapM fun f => do
    return { name := some f.name, type := ← type f.type, varying := none : Member }
  let types := (← get).types
  if !dense && members.any (fun x => holdsTwoRows types (types.length + 1) x.type) then failure
  intern (.struct members)

/-! ## Variables outside of functions -/

def mean (name : String) (m : Meaning) : Build Unit :=
  modify fun c => { c with meanings := (name, m) :: c.meanings }

/-- Count a variable; the answer is its number. -/
def counted : Build Nat := do
  let c ← get
  set { c with count := c.count + 1 }
  return c.count

/-- The set and binding in a layout. The set is zero when it is not given. -/
def binding? (q : Qualifiers) : Option ResourceBinding :=
  (q.value? "binding").map fun n => ⟨(q.value? "set").getD 0, n⟩

/-- Add a global and give back its place. -/
def addGlobal (g : Global) : Build Nat := do
  let n ← counted
  let c ← get
  set { c with
    globals := c.globals ++ [g]
    labels := c.labels ++ [g.name.getD ("global" ++ toString n)] }
  return c.globals.length

/-- The space of a uniform: handles have one of their own. -/
def uniformSpace (q : Qualifiers) (t : TypeRef) : Build Space := do
  if q.mentions "push_constant" then return .pushConstant
  if isHandle (← get).types t then return .handle
  return .uniform

/-- The stage variables of a variable that is passed between stages. An array or a structure takes
    one location for each of its parts. Fuel bounds the depth of the type. -/
def stageVarsOf (types : List ShaderType) (name : String) :
    Nat → TypeRef → Nat → List StageVar
  | 0, _, _ => []
  | fuel + 1, t, location =>
      match types[t]? with
      | some (.array element (some n)) =>
          (List.range n).flatMap fun i => stageVarsOf types name fuel element (location + i)
      | some (.struct members) =>
          members.zipIdx.flatMap fun m => stageVarsOf types name fuel m.1.type (location + m.2)
      | _ => [{ name := some name, type := t, varying := some (.location location) }]

def addStageVars (q : Qualifiers) (t : TypeRef) (name : String) : Build Unit := do
  let c ← get
  let stageVars := stageVarsOf c.types name (c.types.length + 1) t ((q.value? "location").getD 0)
  if q.has "in" then set { c with inputs := c.inputs ++ stageVars }
  else set { c with outputs := c.outputs ++ stageVars }

/-- A built-in variable becomes a stage variable when it is first mentioned. -/
def mentionBuiltIn (v : BuiltInVariable) : Build Unit := do
  let _ ← counted
  let t ← known v.type
  let stageVar : StageVar :=
    { name := some v.name, type := t, varying := some (.builtIn v.code) }
  modify fun c =>
    if v.written then { c with outputs := c.outputs ++ [stageVar] }
    else { c with inputs := c.inputs ++ [stageVar] }
  mean v.name .value

/-! ## Bodies of functions -/

/-- What is known inside of a body: the declared names, scope by scope, and what was mentioned so
    far. -/
structure Body where
  scopes : List (List String)
  uses : List Nat
  calls : List String

/-- The meaning of a name outside of functions. Built-in variables come into being here. -/
def meaning (name : String) : Build Meaning := do
  match (← get).meanings.lookup name with
  | some m => return m
  | none =>
      match builtInVariables.find? fun v => v.name == name with
      | some v => do
          mentionBuiltIn v
          return .value
      | none => failure

def useOf (b : Body) : Meaning → Body
  | .resource place _ => { b with uses := b.uses ++ [place] }
  | .value => b

def isLocal (b : Body) (name : String) : Bool := b.scopes.any fun s => s.contains name

/-- A call has to be of something declared, with as many arguments as it takes. -/
def called (b : Body) (name : String) (arity : Nat) : Build Body := do
  let c ← get
  if c.functions.any fun f => f.name == name && f.arity == arity then
    return { b with calls := b.calls ++ [name] }
  else if (callable name && !c.functions.any fun f => f.name == name)
      || (c.structs.lookup name).isSome then return b
  else failure

mutual

/-- The names in an expression, from the left to the right. -/
def expr (b : Body) : Expr → Build Body
  | .constant => return b
  | .name x => do
      if isLocal b x then return b
      return useOf b (← meaning x)
  | .select (.name x) field => do
      if isLocal b x then return b
      let m ← meaning x
      match m with
      | .resource _ (some fields) => if !fields.contains field then failure
      | _ => pure ()
      return useOf b m
  | .select base _ => expr b base
  | .call f arguments => do
      let b ← exprs b arguments
      called b f arguments.length
  | .operation operands => exprs b operands

def exprs (b : Body) : List Expr → Build Body
  | [] => return b
  | e :: rest => do exprs (← expr b e) rest

end

/-- Declare a local name; a scope has each name once. -/
def declareLocal (b : Body) (name : String) : Build Body :=
  match b.scopes with
  | inner :: outer =>
      if inner.contains name then failure
      else return { b with scopes := (name :: inner) :: outer }
  | [] => return { b with scopes := [[name]] }

mutual

def stmt (b : Body) : Stmt → Build Body
  | .declare t name value => do
      let _ ← type t
      let b ← match value with
        | some e => expr b e
        | none => pure b
      declareLocal b name
  | .evaluate e => expr b e
  | .scope inner => do
      let done ← stmts { b with scopes := [] :: b.scopes } inner
      return { done with scopes := b.scopes }

def stmts (b : Body) : List Stmt → Build Body
  | [] => return b
  | s :: rest => do stmts (← stmt b s) rest

end

/-! ## Declarations -/

/-- Whether a block is dense: it says so, or it is a buffer that does not say otherwise. -/
def isDense (q : Qualifiers) : Bool :=
  q.mentions "std430" || (q.has "buffer" && !q.mentions "std140")

/-- A block: its instance is one name, or each of its members is. -/
def block (q : Qualifiers) (fields : List Field)
    (instanceName : Option (String × List (Option Nat))) : Build Unit := do
  let t ← struct (isDense q) fields
  let lengths := match instanceName with
    | some i => i.2
    | none => []
  let t ← around t lengths
  let space ←
    if q.has "uniform" then uniformSpace q t
    else if q.has "buffer" then pure .storage
    else failure
  let place ← addGlobal
    { name := instanceName.map (·.1), space := space, binding := binding? q, type := t }
  match instanceName with
  | some (name, lengths) =>
      mean name (.resource place (if lengths.isEmpty then some (fields.map (·.name)) else none))
  | none => fields.forM fun f => mean f.name (.resource place none)

def global (q : Qualifiers) (t : TypeName) (name : String) (value : Option Expr) :
    Build Unit := do
  let t ← type t
  match value with
  | some e => let _ ← expr ⟨[], [], []⟩ e
  | none => pure ()
  if q.has "uniform" then
    let space ← uniformSpace q t
    let place ← addGlobal { name := some name, space := space, binding := binding? q, type := t }
    mean name (.resource place none)
  else if q.has "buffer" then
    let place ← addGlobal
      { name := some name, space := .storage, binding := binding? q, type := t }
    mean name (.resource place none)
  else
    if !q.has "const" then
      let _ ← counted
    if q.has "in" || q.has "out" then addStageVars q t name
    mean name .value

/-- Qualifiers alone say how large a work group is. -/
def settings (q : Qualifiers) : Build Unit :=
  modify fun c =>
    let (x, y, z) := c.groupSize
    { c with
      groupSize :=
        ((q.value? "local_size_x").getD x, (q.value? "local_size_y").getD y,
          (q.value? "local_size_z").getD z) }

def function (result : TypeName) (name : String) (parameters : List Field)
    (body : Option (List Stmt)) : Build Unit := do
  if result.name ≠ "void" then
    let _ ← type result
  parameters.forM fun p => do
    let _ ← type p.type
  let info : FunctionInfo := { name := name, arity := parameters.length, uses := [], calls := [] }
  match body with
  | none => modify fun c => { c with functions := info :: c.functions }
  | some inner => do
      let start : Body :=
        { scopes := [(parameters.map (·.name)).filter (· ≠ "")], uses := [], calls := [] }
      let b ← stmt start (.scope inner)
      modify fun c =>
        { c with
          functions := { info with uses := b.uses, calls := b.calls } :: c.functions
          hasMain := c.hasMain || (name == "main" && parameters.isEmpty) }

def declaration : Declaration → Build Unit
  | .block q fields instanceName => block q fields instanceName
  | .global q t name value => global q t name value
  | .settings q => settings q
  | .struct name fields => do
      let t ← struct false fields
      modify fun c => { c with structs := (name, t) :: c.structs }
  | .function result name parameters body => function result name parameters body

end Build

namespace Context

def start (stage : Stage) : Context :=
  { stage := stage, types := [], structs := [], globals := [], labels := [], count := 0
    meanings := [], inputs := [], outputs := [], functions := [], hasMain := false
    groupSize := (1, 1, 1) }

/-- What functions of some names mention, with everything they call. A longer chain of calls than
    there are functions would go in a circle. -/
def usesOf (c : Context) : Nat → List String → List Nat
  | 0, _ => []
  | fuel + 1, names =>
      names.flatMap fun name =>
        (c.functions.filter fun f => f.name == name).flatMap fun f =>
          f.uses ++ c.usesOf fuel f.calls

/-- The interface, if there is a `main`. -/
def interface? (c : Context) : Option Interface :=
  if c.hasMain then
    some
      { shader :=
          { types := c.types
            globals := c.globals
            entries :=
              [{ name := "main"
                 stage := c.stage
                 inputs := c.inputs
                 outputs := c.outputs
                 uses := (c.usesOf (c.functions.length + 1) ["main"]).eraseDups
                 groupSize := c.groupSize }] }
        labels := c.labels }
  else none

end Context

/-- The interface of a source text for a stage, unless the source has an error. -/
def Interface.ofSource? (stage : Stage) (defines : List (String × String)) (source : String) :
    Option Interface := do
  let ts ← readSource defines source
  let ds ← parse ts
  let (_, c) ← (ds.forM Build.declaration).run (Context.start stage)
  c.interface?

end RenderKit.Glsl
