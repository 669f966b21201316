import RenderKit.Shader.Glsl.Interface
import RenderKit.Shader.Native
import RenderKit.Shader.Spirv.Reader
import RenderKit.Shader.Spirv.Writer
import RenderKit.Shader.Validity

set_option autoImplicit false

/-! # From source to bytecode by interfaces

The toolchain that reads a source as the interface it declares. Only the resources that an entry
point uses reach its bytecode, so there is nothing left to compact, and the source is not kept. The
text for a driver is a version line and the numbers of the resources in use. -/

namespace RenderKit

/-- A module with one entry point and the globals it uses. -/
def ShaderModule.reducedTo (m : ShaderModule) (e : EntryPoint) : ShaderModule :=
  let places := (List.range m.globals.length).filter fun n => e.uses.contains n
  { m with
    globals := places.filterMap fun n => m.globals[n]?
    entries := [{ e with uses := e.uses.map places.idxOf }] }

/-- A module, and the same module with the names that its globals go by. -/
structure ShownModule where
  shader : ShaderModule
  shown : ShaderModule
deriving Repr

namespace ShownModule

/-- The module of a source. Each of its globals goes by a text. -/
def ofInterface (i : Glsl.Interface) : ShownModule where
  shader := i.shader
  shown := { i.shader with
    globals := (i.shader.globals.zip i.labels).map fun g => { g.1 with name := g.2 } }

def versionLine (version : Nat) : String := "#version " ++ toString version ++ " core\n"

/-- The line that has the number of a resource. -/
def bindingLine (n : Nat) : String := "layout(binding = " ++ toString n ++ ")\n"

/-- The text of a version with some numbers of resources. -/
def text (version : Nat) (numbers : List Nat) : String :=
  versionLine version ++ String.join (numbers.map bindingLine)

/-- Whether one of some entry points uses a global. -/
def uses (entries : List EntryPoint) (place n : Nat) : Bool :=
  (entries[place]?.map EntryPoint.uses).any fun uses => uses.contains n

/-- The text that has the numbers of the resources in use. -/
def print (x : ShownModule) (entries : List EntryPoint) (o : PrintOptions) :
    Except String String :=
  match x.shown.entryPlace? o.stage o.entryPoint with
  | some place =>
      .ok (text o.version
        ((x.shown.globalsAt (uses entries place)).filterMap (Global.number? x.shown o.points)))
  | none => .error "no entry point"

end ShownModule

instance : Toolchain where
  Module := ShownModule
  Analysis := List EntryPoint
  parse stage defines source :=
    match Glsl.Interface.ofSource? stage defines source with
    | some i => .ok (.ofInterface i)
    | none => .error "malformed source"
  read words :=
    match Spirv.read words with
    | some m => .ok ⟨m, m⟩
    | none => .error "malformed words"
  view := ShownModule.shown
  validate x :=
    if x.shader.valid then .ok x.shader.entries else .error "the module breaks a rule"
  uses := ShownModule.uses
  compact x := x
  write x entries _ stage name :=
    match entries.find? fun e => e.stage == stage && e.name == name with
    | some e => .ok (Spirv.write (x.shader.reducedTo e))
    | none => .error "no entry point"
  print := ShownModule.print

end RenderKit
