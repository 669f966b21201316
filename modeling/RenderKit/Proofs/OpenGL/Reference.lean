import RenderKit.Proofs.OpenGL.Uniforms
import RenderKit.Shader.Glsl.Toolchain
import RenderKit.Shader.Program

set_option autoImplicit false

/-! # A driver that is its context

This driver draws nothing and finds nothing wrong. It keeps a context, answers from it, and names
its objects one after the other. All its programs have the same uniforms. -/

namespace RenderKit

structure GlReference where
  context : GlContext
  /-- The last name that was given out. -/
  lastName : GlName

namespace GlReference

/-- Nothing is bound, there are no objects, and everything can be written to. -/
def new : GlReference where
  context := { Trace.start with activeUnit := firstTextureUnit, clearColor := .zero, objects := [] }
  lastName := 0

/-- A new object, unless its name is taken. -/
def create (object : GlObject) (d : GlReference) : GlName × GlReference :=
  let name := d.lastName + 1
  if ⟨object.kind, name⟩ ∈ d.context.objects then (0, d)
  else (name, ⟨d.context.asked (.create object) name, name⟩)

theorem create_eq (object : GlObject) (d : GlReference) :
    d.create object = (0, d) ∨
      (⟨object.kind, d.lastName + 1⟩ : Native) ∉ d.context.objects ∧
        d.create object =
          (d.lastName + 1,
            ⟨d.context.asked (.create object) (d.lastName + 1), d.lastName + 1⟩) := by
  by_cases h : (⟨object.kind, d.lastName + 1⟩ : Native) ∈ d.context.objects
  · exact .inl (if_pos h)
  · exact .inr ⟨h, if_neg h⟩

/-- The uniforms of any program. Two stages have a tint, and one has an array. -/
def uniformNames : List String :=
  ["u", "_push_constant_binding_vs.tint", "_push_constant_binding_fs.tint",
    "_push_constant_binding_fs.weights[0]"]

/-- The location of a uniform, or of an array without its index. -/
def locationOf (name : String) : Int32 :=
  match uniformNames.findIdx? fun u => u == name || u == name ++ "[0]" with
  | some place => Int32.ofNat place
  | none => -1

def ask (q : GlQuery) (d : GlReference) : q.Reply × GlReference :=
  match q with
  | .create object => d.create object
  | .bufferContents _ _ length => (List.replicate length 0, d)
  | .boundTexture => (d.context.bindings.texture d.context.activeUnit, d)
  | .boundFramebuffer => (d.context.bindings.framebuffer, d)
  | .boundVertexArray => (d.context.bindings.vertexArray, d)
  | .framebufferStatus => (framebufferComplete, d)
  | .compileFailure _ => (none, d)
  | .linkFailure _ => (none, d)
  | .uniformLocation _ name => (locationOf name, d)
  | .attributeLocation .. => ((0 : Int32), d)
  | .activeUniformCount _ => (uniformNames.length, d)
  | .activeUniform _ index => (uniformNames[index]?, d)

instance : RecordingDriver GlReference where
  versionText _ := "4.6.0"
  renderer _ := "Reference"
  extensions _ := []
  limit _ _ := 16
  maxAnisotropy _ := .one
  run c d := { d with context := d.context.run c }
  ask := ask
  recorded _ := 0
  linesSince _ _ := []

instance : Conforming GlReference where
  context := context
  context_run _ _ := rfl
  context_ask q d := by
    cases q with
    | create object =>
        show (d.create object).2.context = d.context.asked (.create object) (d.create object).1
        rcases d.create_eq object with h | ⟨-, h⟩
        · rw [h]
          simp [GlContext.asked]
        · rw [h]
          rfl
    | _ => rfl
  agrees q d := by
    cases q with
    | create object =>
        show ∀ name : GlName, name = (d.create object).1 → name ≠ 0 → _
        rcases d.create_eq object with h | ⟨hnew, h⟩
        · rw [h]
          exact fun name hname hne => absurd hname hne
        · rw [h]
          rintro name rfl -
          exact hnew
    | boundTexture => exact rfl
    | boundFramebuffer => exact rfl
    | boundVertexArray => exact rfl
    | _ => trivial

/-- What the driver tells about any program. -/
def uniformTable : UniformTable where
  active := uniformNames.map some
  location := locationOf
  location_array name hname := by
    have harray : ∀ u ∈ uniformNames, "[0]".toList.isSuffixOf u.toList →
        u = "_push_constant_binding_fs.weights[0]" := by decide +kernel
    obtain ⟨u, hu, heq⟩ := List.mem_map.mp hname
    obtain rfl := Option.some_inj.mp heq
    have hweights := harray _ hu
      (List.isSuffixOf_iff_suffix.mpr (String.toList_append ▸ List.suffix_append _ _))
    obtain rfl : name = "_push_constant_binding_fs.weights" := by
      have htext := congrArg String.toList hweights
      rw [String.toList_append, show "_push_constant_binding_fs.weights[0]".toList =
        "_push_constant_binding_fs.weights".toList ++ "[0]".toList by decide] at htext
      exact String.toList_inj.mp (List.append_cancel_right htext)
    decide +kernel

instance : UniformDriver GlReference where
  uniforms _ _ := uniformTable
  uniforms_run _ _ := rfl
  uniforms_ask _ _ := rfl
  tells q d := by
    cases q with
    | uniformLocation program name => exact rfl
    | activeUniformCount program => exact (List.length_map some).symm
    | activeUniform program index =>
        show uniformNames[index]? = ((uniformNames.map some)[index]?).join
        rw [List.getElem?_map]
        cases uniformNames[index]? <;> rfl
    | _ => trivial

end GlReference

/-- A device on this driver. -/
def GlDevice.reference : GlDevice GlReference where
  driver := .new
  version := ⟨4, 6, false⟩
  capabilities := { Capabilities.unknown with maxTextureSize := 16, maxColorAttachments := 8 }
  debugOutput := false
  counts := .zero

/-- A fragment stage that does nothing. -/
def emptyStage : StageInput :=
  .bytecode .fragment
    [119734787, 65536, 0, 6, 0, 131089, 1, 196622, 0, 1, 327695, 4, 4, 1852399981, 0, 196624, 4, 7,
      131091, 1, 196641, 2, 1, 262165, 3, 32, 0, 327734, 1, 4, 0, 2, 131320, 5, 65789, 65592]

end RenderKit
