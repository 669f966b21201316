import RenderKit.Shader.Stage

set_option autoImplicit false

/-! # Shader modules as interfaces

A module is kept as far as the outside can see it: its types, its global variables, and for each
entry point what flows in and out of it and which globals it uses. Types refer to each other by
their place in the table. -/

namespace RenderKit

/-! ## Types -/

inductive ScalarKind where
  | float
  | sint
  | uint
  | bool
deriving DecidableEq, Repr

/-- A scalar and its width in bytes. -/
structure Scalar where
  kind : ScalarKind
  width : Nat
deriving DecidableEq, Repr

inductive ImageDim where
  | d1
  | d2
  | d3
  | cube
deriving DecidableEq, Repr

inductive ImageClass where
  | sampled
  | depth
  | storage
deriving DecidableEq, Repr

/-- A place in the table of types. -/
abbrev TypeRef := Nat

/-- How a value is passed between stages. -/
inductive Varying where
  | location (n : Nat)
  | builtIn (code : Nat)
deriving DecidableEq, Repr

/-- The code of the built-in that holds the position of a vertex. -/
def Varying.position : Varying := .builtIn 0

structure Member where
  name : Option String
  type : TypeRef
  varying : Option Varying
deriving DecidableEq, Repr

inductive ShaderType where
  | scalar (s : Scalar)
  | vector (size : Nat) (s : Scalar)
  | matrix (columns rows : Nat) (s : Scalar)
  | image (dim : ImageDim) (kind : ImageClass) (arrayed : Bool)
  | sampler
  | array (element : TypeRef) (count : Option Nat)
  /-- Several images or samplers behind one binding. -/
  | handles (element : TypeRef)
  | struct (members : List Member)
  | pointer (target : TypeRef)
deriving DecidableEq, Repr

/-! ## Globals and entry points -/

/-- Where a global lives. -/
inductive Space where
  | uniform
  | pushConstant
  | storage
  /-- Images and samplers. -/
  | handle
  | workGroup
  | hidden
deriving DecidableEq, Repr

/-- The number of a resource: its descriptor set and its binding in the set. -/
structure ResourceBinding where
  set : Nat
  binding : Nat
deriving DecidableEq, Repr

structure Global where
  name : Option String
  space : Space
  binding : Option ResourceBinding
  type : TypeRef
deriving DecidableEq, Repr

/-- A value that flows into an entry point or out of it. -/
structure StageVar where
  name : Option String
  type : TypeRef
  /-- A structure without a way of its own is passed member by member. -/
  varying : Option Varying
deriving DecidableEq, Repr

/-- The location in the way a value is passed; built-ins have none. -/
def Varying.location? : Varying → Option Nat
  | .location n => some n
  | .builtIn _ => none

/-- The location of a stage variable. -/
def StageVar.location? (v : StageVar) : Option Nat := v.varying.bind Varying.location?

/-- The location of a member that is passed by itself. -/
def Member.location? (x : Member) : Option Nat := x.varying.bind Varying.location?

structure EntryPoint where
  name : String
  stage : Stage
  inputs : List StageVar
  outputs : List StageVar
  /-- The places of the globals it uses, itself or through the functions it calls. -/
  uses : List Nat
  /-- The size of a work group. -/
  groupSize : Nat × Nat × Nat
deriving DecidableEq, Repr

structure ShaderModule where
  types : List ShaderType
  globals : List Global
  entries : List EntryPoint
deriving DecidableEq, Repr

namespace ShaderModule

def type? (m : ShaderModule) (t : TypeRef) : Option ShaderType := m.types[t]?

/-- The first entry point of a stage. -/
def entryPoint? (m : ShaderModule) (stage : Stage) : Option EntryPoint :=
  m.entries.find? fun e => e.stage == stage

/-- The place of the first entry point of a stage and a name. -/
def entryPlace? (m : ShaderModule) (stage : Stage) (name : String) : Option Nat :=
  m.entries.findIdx? fun e => e.stage == stage && e.name == name

end ShaderModule

/-! ## Resources -/

/-- The kinds of resources that have numbers in a text for a driver; each of them has numbers of its
    own. A sampler of its own has none: it is a part of the images it is used with. -/
inductive ResourceKind where
  | uniformBlock
  | storageBlock
  | sampledImage
  | storageImage
deriving DecidableEq, Repr

def Global.kind? (m : ShaderModule) (g : Global) : Option ResourceKind :=
  match g.space with
  | .uniform => some .uniformBlock
  | .storage => some .storageBlock
  | .handle =>
      match m.type? g.type with
      | some (.image _ .storage _) => some .storageImage
      | some (.image _ _ _) => some .sampledImage
      | _ => none
  | _ => none

end RenderKit
