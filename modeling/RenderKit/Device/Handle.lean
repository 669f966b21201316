import RenderKit.Text.Quoted

set_option autoImplicit false

/-! # Native handles

A device names its objects by positive 32-bit numbers; zero stands for no object. Handles of
different kinds of objects do not mix. -/

namespace RenderKit

/-- The kinds of objects a device owns. -/
inductive ObjectKind where
  | buffer
  | texture
  | sampler
  | framebuffer
  | shader
  | program
  | vertexArray
deriving DecidableEq, Repr

def ObjectKind.title : ObjectKind → String
  | .buffer => "Buffer"
  | .texture => "Texture"
  | .sampler => "Sampler"
  | .framebuffer => "Framebuffer"
  | .shader => "Shader"
  | .program => "Program"
  | .vertexArray => "VertexArray"

/-- A native object of a kind. -/
structure Handle (kind : ObjectKind) where
  raw : UInt32
  raw_ne_zero : raw ≠ 0
deriving DecidableEq

namespace Handle

variable {kind : ObjectKind}

/-- The handle of a raw number, unless it is zero. -/
def ofRaw? (raw : UInt32) : Option (Handle kind) :=
  if h : raw ≠ 0 then some ⟨raw, h⟩ else none

@[simp] theorem ofRaw?_raw (h : Handle kind) : ofRaw? h.raw = some h := by
  simp [ofRaw?, h.raw_ne_zero]

theorem ofRaw?_eq_none_iff {raw : UInt32} :
    (ofRaw? raw : Option (Handle kind)) = none ↔ raw = 0 := by
  by_cases h : raw = 0 <;> simp [ofRaw?, h]

def text (h : Handle kind) : String := toString h.raw.toNat

def debugText (h : Handle kind) : String :=
  kind.title ++ "Handle(" ++ h.text ++ ")"

/-- The raw number of a handle that may be missing. -/
def rawOf : Option (Handle kind) → UInt32
  | none => 0
  | some h => h.raw

end Handle

end RenderKit
