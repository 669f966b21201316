import RenderKit.Journal
import RenderKit.Named

set_option autoImplicit false

/-! # Vertex layouts

A layout says where in a vertex each attribute stands and how far apart vertices are. Locations
are distinct, and a stride that is given holds every attribute. Without one, the stride ends with
the attribute that ends last. The end of an attribute is counted in 32 bits, and an attribute
that ends beyond them cuts the construction off. -/

namespace RenderKit

inductive VertexScalar where
  | float
  | int
  | uint
deriving DecidableEq, Repr

instance : Named VertexScalar where
  all := [.float, .int, .uint]
  name
    | .float => "Float"
    | .int => "Int"
    | .uint => "UInt"

/-- One to four components of a scalar type. -/
inductive VertexFormat where
  | float1
  | float2
  | float3
  | float4
  | int1
  | int2
  | int3
  | int4
  | uint1
  | uint2
  | uint3
  | uint4
deriving DecidableEq, Repr

instance : Named VertexFormat where
  all := [.float1, .float2, .float3, .float4, .int1, .int2, .int3, .int4, .uint1, .uint2, .uint3,
    .uint4]
  name
    | .float1 => "Float1"
    | .float2 => "Float2"
    | .float3 => "Float3"
    | .float4 => "Float4"
    | .int1 => "Int1"
    | .int2 => "Int2"
    | .int3 => "Int3"
    | .int4 => "Int4"
    | .uint1 => "UInt1"
    | .uint2 => "UInt2"
    | .uint3 => "UInt3"
    | .uint4 => "UInt4"

namespace VertexFormat

def components : VertexFormat → Nat
  | .float1 | .int1 | .uint1 => 1
  | .float2 | .int2 | .uint2 => 2
  | .float3 | .int3 | .uint3 => 3
  | .float4 | .int4 | .uint4 => 4

def scalar : VertexFormat → VertexScalar
  | .float1 | .float2 | .float3 | .float4 => .float
  | .int1 | .int2 | .int3 | .int4 => .int
  | .uint1 | .uint2 | .uint3 | .uint4 => .uint

/-- The bytes of one attribute; every component has four. -/
def size (f : VertexFormat) : Nat := f.components * 4

end VertexFormat

structure VertexAttribute where
  location : UInt32
  format : VertexFormat
  offset : UInt32
  /-- Integers are to be read as fractions of their range. -/
  normalized : Bool
deriving DecidableEq, Repr

namespace VertexAttribute

/-- The byte behind the attribute, as a number. -/
def fullEnd (a : VertexAttribute) : Nat := a.offset.toNat + a.format.size

/-- Whether 32 bits can hold the end of the attribute. -/
def endFits (a : VertexAttribute) : Bool := a.fullEnd < UInt32.size

end VertexAttribute

structure VertexLayout where
  attributes : List VertexAttribute
  stride : UInt32
deriving DecidableEq, Repr

namespace VertexLayout

def empty : VertexLayout := ⟨[], 0⟩

def isEmpty (l : VertexLayout) : Bool := l.attributes.isEmpty

/-- The layout on one line. -/
def text (l : VertexLayout) : String :=
  let member (a : VertexAttribute) : String :=
    toString a.location.toNat ++ ":" ++ nameOf a.format ++ ":" ++ toString a.offset.toNat ++ ":"
      ++ (if a.normalized then "true" else "false")
  "stride=" ++ toString l.stride.toNat ++ " attrs=["
    ++ ",".intercalate (l.attributes.map member) ++ "]"

/-! ## Construction -/

inductive Problem where
  | locationTwice (location : UInt32)
  | strideTooSmall (stride : UInt32) (least : Nat)
deriving DecidableEq, Repr

instance : Cause Problem where
  source _ := "cbox::pipeline"
  kind
    | .locationTwice _ => .invalidFormat
    | .strideTooSmall _ _ => .invalidState
  message
    | .locationTwice location =>
        "Vertex attribute location " ++ toString location.toNat ++ " declared twice"
    | .strideTooSmall stride least =>
        "Vertex stride " ++ toString stride.toNat ++ " is smaller than attribute end "
          ++ toString least

/-- The first location that an earlier attribute has too. `seen` holds the earlier ones. -/
def repeatedLocation? (seen : List UInt32) : List VertexAttribute → Option UInt32
  | [] => none
  | a :: rest =>
      if seen.contains a.location then some a.location
      else repeatedLocation? (a.location :: seen) rest

/-- The end of the attribute that ends last. -/
def packed (attributes : List VertexAttribute) : Nat :=
  attributes.foldl (fun top a => Nat.max top a.fullEnd) 0

/-- The layout of some attributes. The locations are looked at first, then every end, then the
    stride. -/
def make {S : Type} [HasJournal S] (attributes : List VertexAttribute) (stride? : Option UInt32) :
    TaskOn S VertexLayout :=
  match repeatedLocation? [] attributes with
  | some location => reject (Problem.locationTwice location)
  | none =>
      if attributes.all VertexAttribute.endFits then
        let least := packed attributes
        match stride? with
        | none => return ⟨attributes, least.toUInt32⟩
        | some stride =>
            if stride.toNat < least then reject (Problem.strideTooSmall stride least)
            else return ⟨attributes, stride⟩
      else abort

end VertexLayout

end RenderKit
