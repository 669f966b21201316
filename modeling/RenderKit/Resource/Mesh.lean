import RenderKit.Pipeline.Pipeline

set_option autoImplicit false

/-! # Meshes

A mesh says how much of its buffers there is to draw. Counts that are not given are as large as
the buffers allow, and no count is larger. -/

namespace RenderKit

structure Mesh where
  vertexBuffer : Ref Buffer
  indexBuffer : Option (Ref Buffer)
  layout : VertexLayout
  topology : Topology
  vertexCount : UInt32
  indexCount : UInt32
deriving DecidableEq

/-- The elements of a mesh that are counted. -/
inductive ElementKind where
  | vertex
  | index
deriving DecidableEq, Repr

def ElementKind.word : ElementKind → String
  | .vertex => "vertex"
  | .index => "index"

inductive MeshError where
  | noVertexBuffer
  | notVertexBuffer (kind : BufferKind)
  | notIndexBuffer (kind : BufferKind)
  | noLayout
  | tooMany (what : ElementKind) (count capacity : Nat)
  | uncountable (what : ElementKind)
  | otherLayout
deriving DecidableEq, Repr

instance : Cause MeshError where
  source _ := "cbox::mesh"
  kind
    | .noVertexBuffer => .nullValue
    | _ => .invalidState
  message
    | .noVertexBuffer => "Vertex buffer is null"
    | .notVertexBuffer kind => "Expected a vertex buffer, got " ++ nameOf kind
    | .notIndexBuffer kind => "Expected an index buffer, got " ++ nameOf kind
    | .noLayout => "Mesh vertex layout is empty"
    | .tooMany what count capacity =>
        what.word ++ " count " ++ toString count ++ " exceeds the " ++ toString capacity
          ++ " the buffer holds"
    | .uncountable what => what.word ++ " buffer holds more than 4294967295 elements"
    | .otherLayout => "Pipeline vertex layout does not match the mesh layout"

/-- What a mesh is made of. -/
structure MeshPlan where
  vertexBuffer : Option (Ref Buffer) := none
  indexBuffer : Option (Ref Buffer) := none
  layout : VertexLayout := .empty
  topology : Topology := .triangleList
  vertexCount : Option UInt32 := none
  indexCount : Option UInt32 := none
deriving DecidableEq

namespace Mesh

/-- The bytes of an index. -/
def indexSize : Nat := 4

/-- The number of elements to draw, of those a buffer has room for. -/
def count (what : ElementKind) (requested : Option UInt32) (capacity : Nat) :
    Except MeshError UInt32 :=
  match requested with
  | some n => if n.toNat > capacity then .error (.tooMany what n.toNat capacity) else .ok n
  | none => if capacity < UInt32.size then .ok capacity.toUInt32 else .error (.uncountable what)

def isIndexed (m : Mesh) : Bool := m.indexBuffer.isSome

/-- A pipeline that draws the mesh, up to its program and its state. -/
def pipelinePlan (m : Mesh) : PipelinePlan :=
  { layout := m.layout
    topology := m.topology
    vertexBuffer := some m.vertexBuffer
    indexBuffer := m.indexBuffer }

variable {σ : Type} [GraphicsDevice σ]

/-- Create a mesh, which becomes an owner of its buffers. -/
def create (plan : MeshPlan) : Render σ Mesh := do
  match plan.vertexBuffer with
  | none => reject MeshError.noVertexBuffer
  | some vertexBuffer => do
      let vertices ← view vertexBuffer
      if vertices.kind ≠ .vertex then reject (MeshError.notVertexBuffer vertices.kind)
      if plan.layout.isEmpty || plan.layout.stride = 0 then reject MeshError.noLayout
      let vertexCount ← accept
        (count .vertex plan.vertexCount (vertices.size.toNat / plan.layout.stride.toNat))
      let indexCount ← match plan.indexBuffer with
        | none => pure 0
        | some indexBuffer => do
            let indices ← view indexBuffer
            if indices.kind ≠ .index then reject (MeshError.notIndexBuffer indices.kind)
            accept (count .index plan.indexCount (indices.size.toNat / indexSize))
      note .debug "cbox::mesh"
        ("Created mesh (" ++ toString vertexCount.toNat ++ " vertices, "
          ++ toString indexCount.toNat ++ " indices, " ++ nameOf plan.topology ++ ")")
      hold vertexBuffer
      holdAll plan.indexBuffer.toList
      return {
        vertexBuffer := vertexBuffer
        indexBuffer := plan.indexBuffer
        layout := plan.layout
        topology := plan.topology
        vertexCount := vertexCount
        indexCount := indexCount }

/-- Attach the buffers to a pipeline of the same layout. -/
def attach (m : Mesh) (pipeline : Ref Pipeline) : Render σ Unit := do
  let p ← view pipeline
  if p.layout ≠ m.layout then reject MeshError.otherLayout
  Pipeline.setVertexBuffer pipeline m.vertexBuffer
  match m.indexBuffer with
  | some b => Pipeline.setIndexBuffer pipeline b
  | none => pure ()

def discard (m : Mesh) : Render σ Unit := do
  release m.vertexBuffer
  releaseOption m.indexBuffer

end Mesh

end RenderKit
