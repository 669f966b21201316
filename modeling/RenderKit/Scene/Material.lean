import RenderKit.Resource.Sampler
import RenderKit.Resource.Texture
import RenderKit.Scene.NamedUniforms
import RenderKit.Shader.Program

set_option autoImplicit false

/-! # Materials

A material is a program with values for it: uniforms by name, textures and samplers by slot. The
last value given under a name or for a slot counts. Uniforms keep the order in which their names
first came, slots are gone through in ascending order. -/

namespace RenderKit

/-! ## Values by slot -/

/-- Put a value into a slot of a list that is ordered by slots. -/
def putSlot {α : Type} (entries : List (UInt32 × α)) (slot : UInt32) (a : α) :
    List (UInt32 × α) :=
  match entries with
  | [] => [(slot, a)]
  | e :: rest =>
      if e.1 = slot then (slot, a) :: rest
      else if slot < e.1 then (slot, a) :: e :: rest
      else e :: putSlot rest slot a

/-- What is found in a slot is the last value put there. -/
theorem lookup_putSlot {α : Type} (entries : List (UInt32 × α)) (slot other : UInt32) (a : α) :
    (putSlot entries slot a).lookup other =
      if other = slot then some a else entries.lookup other := by
  induction entries with
  | nil =>
      by_cases h : other = slot
      · simp [putSlot, h]
      · simp [putSlot, List.lookup_cons, h, beq_eq_false_iff_ne.mpr h]
  | cons e rest ih =>
      obtain ⟨key, old⟩ := e
      by_cases hk : key = slot
      · subst hk
        by_cases h : other = key
        · simp [putSlot, h]
        · simp [putSlot, List.lookup_cons, h, beq_eq_false_iff_ne.mpr h]
      · by_cases hlt : slot < key
        · by_cases h : other = slot
          · subst h
            simp [putSlot, hk, hlt]
          · simp [putSlot, hk, hlt, List.lookup_cons, h, beq_eq_false_iff_ne.mpr h]
        · by_cases h : other = key
          · subst h
            simp [putSlot, hk, hlt]
          · simp [putSlot, hk, hlt, List.lookup_cons, ih, beq_eq_false_iff_ne.mpr h]

structure Material where
  program : Ref Program
  uniforms : NamedUniforms
  textures : List (UInt32 × Ref Texture)
  samplers : List (UInt32 × Ref Sampler)
deriving DecidableEq

inductive MaterialError where
  | noProgram
deriving DecidableEq, Repr

instance : Cause MaterialError where
  source _ := "cbox::material"
  kind _ := .nullValue
  message _ := "Shader is null"

/-- What a material is made of. -/
structure MaterialPlan where
  program : Option (Ref Program) := none
  /-- Values under names, of which the last counts. -/
  uniforms : List (String × UniformValue) := []
  textures : List (UInt32 × Ref Texture) := []
  samplers : List (UInt32 × Ref Sampler) := []
deriving DecidableEq

namespace Material

def uniform? (m : Material) (name : String) : Option UniformValue := m.uniforms.find? name

def texture? (m : Material) (slot : UInt32) : Option (Ref Texture) := m.textures.lookup slot

def sampler? (m : Material) (slot : UInt32) : Option (Ref Sampler) := m.samplers.lookup slot

def debugText (m : Material) (program : Program) : String :=
  let slots (ns : List UInt32) : String := listText (ns.map fun n => toString n.toNat)
  recordText "Material"
    [("program", program.handle.debugText), ("uniforms", toString m.uniforms.entries.length),
     ("texture_slots", slots (m.textures.map (·.1))),
     ("sampler_slots", slots (m.samplers.map (·.1)))]

/-- Give a uniform a value. -/
def setUniform (m : Material) (name : String) (value : UniformValue) : Material :=
  { m with uniforms := m.uniforms.put name value }

variable {σ : Type} [GraphicsDevice σ]

/-- Create a material, which becomes an owner of everything in it. -/
def create (plan : MaterialPlan) : Render σ Material := do
  match plan.program with
  | none => reject MaterialError.noProgram
  | some program => do
      hold program
      holdAll (plan.textures.map (·.2))
      holdAll (plan.samplers.map (·.2))
      return {
        program := program
        uniforms := plan.uniforms.foldl (fun us u => us.put u.1 u.2) .empty
        textures := plan.textures
        samplers := plan.samplers }

def discard (m : Material) : Render σ Unit := do
  release m.program
  releaseAll (m.textures.map (·.2))
  releaseAll (m.samplers.map (·.2))

/-! ## Applying -/

def applyUniforms (program : Ref Program) : List (String × UniformValue) → Render σ Unit
  | [] => return ()
  | (name, value) :: rest => do
      let _ ← Program.setUniform program name value
      applyUniforms program rest

def applyTextures : List (UInt32 × Ref Texture) → Render σ Unit
  | [] => return ()
  | (slot, r) :: rest => do
      Texture.bind r slot
      applyTextures rest

def applySamplers : List (UInt32 × Ref Sampler) → Render σ Unit
  | [] => return ()
  | (slot, r) :: rest => do
      Sampler.bind r slot
      applySamplers rest

/-- Use the program and give it everything. -/
def apply (m : Material) : Render σ Unit := do
  Program.bind m.program
  applyUniforms m.program m.uniforms.entries
  applyTextures m.textures
  applySamplers m.samplers

/-! ## Exchanging parts -/

def setProgram (m : Material) (r : Ref Program) : Render σ Material := do
  hold r
  release m.program
  return { m with program := r }

def setTexture (m : Material) (slot : UInt32) (r : Ref Texture) : Render σ Material := do
  hold r
  releaseOption (m.texture? slot)
  return { m with textures := putSlot m.textures slot r }

def setSampler (m : Material) (slot : UInt32) (r : Ref Sampler) : Render σ Material := do
  hold r
  releaseOption (m.sampler? slot)
  return { m with samplers := putSlot m.samplers slot r }

/-- Take the texture out of a slot. The caller becomes its owner. -/
def removeTexture (m : Material) (slot : UInt32) : Option (Ref Texture) × Material :=
  (m.texture? slot, { m with textures := m.textures.filter fun e => e.1 ≠ slot })

end Material

end RenderKit
