import RenderKit.Proofs.Keys
import RenderKit.Proofs.Ledger.Scene

set_option autoImplicit false

/-! # Parts of materials

A material is given parts, one after the other: those it is built from, and those that are exchanged
later. What it has in the end is told from the list of all parts. Its program is the last one, each
name of a uniform has its last value, and each slot what was put there last, if it was not taken
out. Names keep the order in which they came first. -/

namespace RenderKit

/-! ## The last of each kind -/

/-- Something a material is given, or that the texture is taken out of a slot. -/
inductive MaterialPart where
  | program (r : Ref Program)
  | uniform (key : String) (value : UniformValue)
  | texture (slot : UInt32) (r : Ref Texture)
  | sampler (slot : UInt32) (r : Ref Sampler)
  | noTexture (slot : UInt32)
deriving DecidableEq

namespace MaterialPart

def program? : MaterialPart → Option (Ref Program)
  | .program r => some r
  | _ => none

def uniform? : MaterialPart → Option (String × UniformValue)
  | .uniform key value => some (key, value)
  | _ => none

def value? (key : String) : MaterialPart → Option UniformValue
  | .uniform other value => if key = other then some value else none
  | _ => none

/-- What is in a slot after a part that is about it, which may be no texture. -/
def texture? (slot : UInt32) : MaterialPart → Option (Option (Ref Texture))
  | .texture other r => if slot = other then some (some r) else none
  | .noTexture other => if slot = other then some none else none
  | _ => none

def sampler? (slot : UInt32) : MaterialPart → Option (Ref Sampler)
  | .sampler other r => if slot = other then some r else none
  | _ => none

/-- What the last part says that says anything. -/
def last? {α : Type} (say : MaterialPart → Option α) (parts : List MaterialPart) : Option α :=
  (parts.filterMap say).getLast?

theorem last?_concat {α : Type} (say : MaterialPart → Option α) (parts : List MaterialPart)
    (part : MaterialPart) : last? say (parts ++ [part]) = (say part).or (last? say parts) := by
  cases h : say part <;> simp [last?, h]

/-- The names of uniforms, once each, in the order in which they came first. -/
def names (parts : List MaterialPart) : List String :=
  ((parts.filterMap uniform?).map Prod.fst).eraseDups

theorem names_concat (parts : List MaterialPart) (part : MaterialPart) :
    names (parts ++ [part]) =
      match part.uniform? with
      | none => names parts
      | some u => if u.1 ∈ names parts then names parts else names parts ++ [u.1] := by
  rw [names, List.filterMap_append, List.map_append]
  cases h : part.uniform? with
  | none => simp [h, names]
  | some u =>
      rw [List.filterMap_cons_some h, List.filterMap_nil, List.map_singleton,
        eraseDups_append_singleton]
      by_cases hmem : u.1 ∈ (parts.filterMap uniform?).map Prod.fst
      · rw [if_pos hmem]
        exact (if_pos (List.mem_eraseDups.mpr hmem)).symm
      · rw [if_neg hmem]
        exact (if_neg (mt List.mem_eraseDups.mp hmem)).symm

/-- The texture that was put into a slot last, if it was not taken out. -/
def textureIn (parts : List MaterialPart) (slot : UInt32) : Option (Ref Texture) :=
  (last? (texture? slot) parts).join

def samplerIn (parts : List MaterialPart) (slot : UInt32) : Option (Ref Sampler) :=
  last? (sampler? slot) parts

end MaterialPart

/-! ## Giving parts -/

namespace MaterialPart

/-- A plan for a material with one more part. -/
def add (plan : MaterialPlan) : MaterialPart → MaterialPlan
  | .program r => { plan with program := some r }
  | .uniform key value => { plan with uniforms := plan.uniforms ++ [(key, value)] }
  | .texture slot r => { plan with textures := putSlot plan.textures slot r }
  | .sampler slot r => { plan with samplers := putSlot plan.samplers slot r }
  | .noTexture slot => { plan with textures := plan.textures.filter fun e => e.1 ≠ slot }

/-- A material with one more part. -/
def change (m : Material) : MaterialPart → Material
  | .program r => { m with program := r }
  | .uniform key value => m.setUniform key value
  | .texture slot r => { m with textures := putSlot m.textures slot r }
  | .sampler slot r => { m with samplers := putSlot m.samplers slot r }
  | .noTexture slot => (m.removeTexture slot).2

section Change

variable (m : Material) (part : MaterialPart)

theorem program_change : (change m part).program = part.program?.getD m.program := by
  cases part <;> rfl

theorem uniform?_change (key : String) :
    (change m part).uniform? key = (part.value? key).or (m.uniform? key) := by
  cases part with
  | uniform other value =>
      rw [change, Material.setUniform, Material.uniform?, NamedUniforms.find?_put, value?]
      split <;> rfl
  | _ => rfl

theorem keys_change :
    (change m part).uniforms.entries.map Prod.fst =
      match part.uniform? with
      | none => m.uniforms.entries.map Prod.fst
      | some u =>
          if u.1 ∈ m.uniforms.entries.map Prod.fst then m.uniforms.entries.map Prod.fst
          else m.uniforms.entries.map Prod.fst ++ [u.1] := by
  cases part with
  | uniform key value => exact m.uniforms.names_put key value
  | _ => rfl

theorem texture?_change (slot : UInt32) :
    (change m part).texture? slot = (part.texture? slot).getD (m.texture? slot) := by
  cases part with
  | texture other r =>
      rw [change, Material.texture?, lookup_putSlot, texture?]
      split <;> rfl
  | noTexture other =>
      rw [change, Material.removeTexture, Material.texture?, texture?]
      by_cases h : slot = other
      · rw [if_pos h, h]
        exact lookup_filter_self
      · rw [if_neg h]
        exact lookup_filter_of_ne h
  | _ => rfl

theorem sampler?_change (slot : UInt32) :
    (change m part).sampler? slot = (part.sampler? slot).or (m.sampler? slot) := by
  cases part with
  | sampler other r =>
      rw [change, Material.sampler?, lookup_putSlot, sampler?]
      split <;> rfl
  | _ => rfl

theorem ordered_change (h : m.Ordered) : (change m part).Ordered := by
  cases part with
  | texture slot r => exact ⟨ascending_putSlot h.1 slot r, h.2⟩
  | sampler slot r => exact ⟨h.1, ascending_putSlot h.2 slot r⟩
  | noTexture slot => exact Material.ordered_removeTexture h slot
  | _ => exact h

end Change

end MaterialPart

open MaterialPart

/-- A material has what parts gave it. -/
structure Material.Holds (m : Material) (parts : List MaterialPart) : Prop where
  program : last? program? parts = some m.program
  names : m.uniforms.entries.map Prod.fst = names parts
  value : ∀ key, m.uniform? key = last? (value? key) parts
  texture : ∀ slot, m.texture? slot = textureIn parts slot
  sampler : ∀ slot, m.sampler? slot = samplerIn parts slot
  ordered : m.Ordered

namespace Material.Holds

variable {m : Material} {parts : List MaterialPart}

theorem count (h : m.Holds parts) :
    m.uniforms.entries.length = (MaterialPart.names parts).length := by
  rw [← h.names, List.length_map]

/-- One more part. -/
theorem change (h : m.Holds parts) (part : MaterialPart) :
    (part.change m).Holds (parts ++ [part]) := by
  refine ⟨?_, ?_, fun key => ?_, fun slot => ?_, fun slot => ?_, ordered_change m part h.ordered⟩
  · rw [last?_concat, h.program, program_change]
    cases part.program? <;> rfl
  · rw [keys_change, h.names, names_concat]
  · rw [last?_concat, uniform?_change, h.value]
  · rw [textureIn, last?_concat, texture?_change, h.texture, textureIn]
    cases part.texture? slot <;> rfl
  · rw [samplerIn, last?_concat, sampler?_change, h.sampler, samplerIn]

theorem changes (h : m.Holds parts) (more : List MaterialPart) :
    (more.foldl MaterialPart.change m).Holds (parts ++ more) := by
  induction more generalizing m parts with
  | nil => simpa using h
  | cons part rest ih => simpa using ih (h.change part)

end Material.Holds

/-! ## Building -/

section Building

variable {parts : List MaterialPart} {start r : Ref Program}

/-- The material that is made by a plan, with a program if there is none. -/
def MaterialPlan.made (plan : MaterialPlan) (start : Ref Program) : Material where
  program := plan.program.getD start
  uniforms := plan.uniforms.foldl (fun us u => us.put u.1 u.2) .empty
  textures := plan.textures
  samplers := plan.samplers

/-- To collect a part and then make the material is to make it and then give it the part. -/
theorem MaterialPart.made_add (plan : MaterialPlan) (start : Ref Program) (part : MaterialPart) :
    (part.add plan).made start = part.change (plan.made start) := by
  cases part with
  | uniform key value =>
      rw [add, MaterialPlan.made, List.foldl_append]
      rfl
  | _ => rfl

theorem MaterialPart.program_add (plan : MaterialPlan) (part : MaterialPart) :
    (part.add plan).program = part.program?.or plan.program := by
  cases part <;> rfl

theorem program_collected : (parts.foldl add {}).program = last? program? parts := by
  induction parts using List.reverseRecOn with
  | nil => rfl
  | append_singleton parts part ih =>
      rw [List.foldl_append, last?_concat, ← ih]
      exact program_add _ part

theorem holds_bare (start : Ref Program) :
    (({} : MaterialPlan).made start).Holds [.program start] :=
  ⟨rfl, rfl, fun _ => rfl, fun _ => rfl, fun _ => rfl, List.Pairwise.nil, List.Pairwise.nil⟩

/-- A program that came before the last one does not matter. -/
theorem Material.Holds.of_cons {m : Material} (h : m.Holds (.program start :: parts))
    (hlast : last? program? parts = some r) : m.Holds parts := by
  have hprogram : last? program? (.program start :: parts) = some r := by
    show (start :: parts.filterMap program?).getLast? = some r
    rw [List.getLast?_cons, show (parts.filterMap program?).getLast? = some r from hlast]
    rfl
  refine ⟨?_, h.names, h.value, h.texture, h.sampler, h.ordered⟩
  rw [hlast, ← hprogram, h.program]

/-- A material has what was collected. -/
theorem holds_made (hr : (parts.foldl add {}).program = some r) :
    ((parts.foldl add {}).made r).Holds parts := by
  have hmade : (parts.foldl add {}).made r = parts.foldl change (({} : MaterialPlan).made r) :=
    (List.foldl_hom (MaterialPlan.made · r) fun plan part => (made_add plan r part).symm).symm
  rw [hmade]
  exact ((holds_bare r).changes parts).of_cons (program_collected.symm.trans hr)

end Building

end RenderKit
