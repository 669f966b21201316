import Mathlib.Logic.Function.Basic
import RenderKit.Proofs.OpenGL.Numbers

set_option autoImplicit false

/-! # Vertex attributes

A vertex array keeps, for each location, where its attribute comes from and whether it is read at
all. Commands describe attributes to the array that is bound, and take the buffer that is bound for
attributes at that time. What an array keeps only follows from the commands that were told while it
was bound. -/

namespace RenderKit

/-- Where the attribute of a location comes from. -/
structure AttributeSource where
  buffer : GlName
  components : Nat
  scalar : VertexScalar
  /-- Read as integers. -/
  integer : Bool
  normalized : Bool
  stride : Int32
  offset : Int32
deriving DecidableEq

/-! ## Vertex arrays -/

/-- What a vertex array keeps of attributes. -/
structure ArrayAttributes where
  enabled : UInt32 → Bool
  source : UInt32 → Option AttributeSource

namespace ArrayAttributes

variable (v : ArrayAttributes)

/-- An array that was told nothing. -/
def blank : ArrayAttributes := ⟨fun _ => false, fun _ => none⟩

/-- What is read at a location. -/
def at? (location : UInt32) : Option AttributeSource :=
  if v.enabled location then v.source location else none

/-- A location that is read from a source. -/
def withSource (location : UInt32) (s : AttributeSource) : ArrayAttributes where
  enabled := Function.update v.enabled location true
  source := Function.update v.source location (some s)

/-- The array after a buffer is gone. -/
def without (buffer : GlName) : ArrayAttributes :=
  { v with
    source := fun location =>
      (v.source location).map fun s => if s.buffer = buffer then { s with buffer := 0 } else s }

@[simp] theorem at?_blank (location : UInt32) : blank.at? location = none := rfl

theorem at?_withSource (location other : UInt32) (s : AttributeSource) :
    (v.withSource location s).at? other = if other = location then some s else v.at? other := by
  by_cases h : other = location
  · simp [at?, withSource, h]
  · simp [at?, withSource, h]

@[simp] theorem isSome_at?_without (buffer : GlName) (location : UInt32) :
    ((v.without buffer).at? location).isSome = (v.at? location).isSome := by
  unfold at? without
  split
  · exact Option.isSome_map
  · rfl

end ArrayAttributes

/-! ## Commands -/

/-- What is bound for attributes, and what each array keeps. -/
structure VertexState where
  array : GlName
  buffer : GlName
  arrays : GlName → ArrayAttributes

namespace VertexState

def initial : VertexState := ⟨0, 0, fun _ => .blank⟩

/-- Change the array that is bound. -/
def onArray (f : ArrayAttributes → ArrayAttributes) (s : VertexState) : VertexState :=
  { s with arrays := Function.update s.arrays s.array (f (s.arrays s.array)) }

theorem onArray_onArray (f g : ArrayAttributes → ArrayAttributes) (s : VertexState) :
    (s.onArray f).onArray g = s.onArray fun v => g (f v) := by
  simp [onArray]

/-- What a command changes about attributes. -/
def run (c : GlCommand) (s : VertexState) : VertexState :=
  match c with
  | .bindVertexArray name => { s with array := name }
  | .bindBuffer .array name => { s with buffer := name }
  | .enableAttribute location =>
      s.onArray fun v => { v with enabled := Function.update v.enabled location true }
  | .attributePointer location components scalar normalized stride offset =>
      s.onArray fun v =>
        { v with
          source := Function.update v.source location
            (some ⟨s.buffer, components, scalar, false, normalized, stride, offset⟩) }
  | .attributeIntegerPointer location components scalar stride offset =>
      s.onArray fun v =>
        { v with
          source := Function.update v.source location
            (some ⟨s.buffer, components, scalar, true, false, stride, offset⟩) }
  | .delete .vertexArray name =>
      { s with
        array := if s.array = name then 0 else s.array
        arrays := Function.update s.arrays name .blank }
  | .delete .buffer name =>
      { s.onArray (·.without name) with buffer := if s.buffer = name then 0 else s.buffer }
  | _ => s

def runAll (s : VertexState) (cs : List GlCommand) : VertexState := cs.foldl (fun s c => s.run c) s

@[simp] theorem runAll_append (s : VertexState) (cs ds : List GlCommand) :
    s.runAll (cs ++ ds) = (s.runAll cs).runAll ds :=
  List.foldl_append

/-- Nothing is read in addition unless a command describes it. -/
theorem isSome_of_run {s : VertexState} {c : GlCommand} (hc : c.describes = false) {name : GlName}
    {location : UInt32} (h : (((s.run c).arrays name).at? location).isSome) :
    ((s.arrays name).at? location).isSome := by
  cases c with
  | delete kind other =>
      cases kind with
      | vertexArray =>
          by_cases hname : name = other
          · simp [run, hname] at h
          · simpa [run, hname] using h
      | buffer =>
          by_cases hname : name = s.array
          · simpa [run, onArray, hname] using h
          · simpa [run, onArray, hname] using h
      | _ => exact h
  | bindBuffer target buffer => cases target <;> exact h
  | enableAttribute | attributePointer | attributeIntegerPointer => cases hc
  | _ => exact h

theorem isSome_of_runAll {s : VertexState} {cs : List GlCommand}
    (hcs : ∀ c ∈ cs, c.describes = false) {name : GlName} {location : UInt32}
    (h : (((s.runAll cs).arrays name).at? location).isSome) :
    ((s.arrays name).at? location).isSome := by
  induction cs generalizing s with
  | nil => exact h
  | cons c rest ih =>
      rw [List.forall_mem_cons] at hcs
      exact isSome_of_run hcs.1 (ih hcs.2 h)

end VertexState

/-! ## Layouts -/

/-- The source that a device makes of an attribute. -/
def AttributeSource.of (buffer : GlName) (stride : UInt32) (a : VertexAttribute) :
    AttributeSource where
  buffer := buffer
  components := a.format.components
  scalar := a.format.scalar
  integer := a.format.scalar ≠ .float
  normalized := a.normalized && a.format.scalar = .float
  stride := stride.toInt32
  offset := a.offset.toInt32

namespace ArrayAttributes

/-- An array to which attributes were described one after the other. -/
def described (v : ArrayAttributes) (buffer : GlName) (stride : UInt32)
    (as : List VertexAttribute) : ArrayAttributes :=
  as.foldl (fun v a => v.withSource a.location (.of buffer stride a)) v

/-- At different locations each attribute is read from its own source, and nothing else is read
    that was not read before. -/
theorem at?_described {as : List VertexAttribute} (hnodup : (as.map (·.location)).Nodup)
    (v : ArrayAttributes) (buffer : GlName) (stride location : UInt32) :
    (v.described buffer stride as).at? location =
      match as.find? (·.location = location) with
      | some a => some (.of buffer stride a)
      | none => v.at? location := by
  induction as generalizing v with
  | nil => rfl
  | cons a rest ih =>
      rw [List.map_cons, List.nodup_cons] at hnodup
      have hrest := ih hnodup.2 (v.withSource a.location (.of buffer stride a))
      rw [described, List.foldl_cons, ← described, hrest, at?_withSource]
      by_cases h : a.location = location
      · -- no later attribute takes the location over
        have hnone : rest.find? (·.location = location) = none := by
          refine List.find?_eq_none.mpr fun b hb heq => hnodup.1 ?_
          rw [h, ← of_decide_eq_true heq]
          exact List.mem_map_of_mem hb
        simp [h, hnone]
      · simp [h, Ne.symm h]

/-- However attributes are described, what is read was read before or is one of them. -/
theorem mem_of_isSome_described {as : List VertexAttribute} {v : ArrayAttributes}
    {buffer : GlName} {stride location : UInt32}
    (h : ((v.described buffer stride as).at? location).isSome) :
    (v.at? location).isSome ∨ location ∈ as.map (·.location) := by
  induction as generalizing v with
  | nil => exact .inl h
  | cons a rest ih =>
      rcases ih h with h | h
      · rw [at?_withSource] at h
        split at h
        · exact .inr (by simp [*])
        · exact .inl h
      · exact .inr (List.mem_cons_of_mem _ h)

end ArrayAttributes

namespace VertexState

theorem runAll_attributeCommands (s : VertexState) (stride : UInt32) (a : VertexAttribute) :
    s.runAll (GlDevice.attributeCommands stride.toInt32 a) =
      s.onArray fun v => v.withSource a.location (.of s.buffer stride a) := by
  cases hscalar : a.format.scalar
  all_goals
    simp [GlDevice.attributeCommands, runAll, run, onArray, ArrayAttributes.withSource,
      AttributeSource.of, hscalar]

theorem runAll_layout (s : VertexState) (stride : UInt32) (as : List VertexAttribute) :
    s.runAll (as.flatMap (GlDevice.attributeCommands stride.toInt32)) =
      s.onArray fun v => v.described s.buffer stride as := by
  induction as generalizing s with
  | nil => simp [runAll, onArray, ArrayAttributes.described]
  | cons a rest ih =>
      rw [List.flatMap_cons, runAll_append, runAll_attributeCommands, ih, onArray_onArray]
      rfl

end VertexState

namespace GlDevice

variable {δ : Type} [GlDriver δ] [Transcribing δ] {d : GlDevice δ}

/-! ## Requests -/

/-- What the vertex arrays of a device keep. -/
def vertexArrays (d : GlDevice δ) : GlName → ArrayAttributes :=
  (VertexState.initial.runAll d.told).arrays

/-- A vertex buffer describes its layout to one array. -/
theorem vertexArrays_attach (array : VertexArrayHandle) (buffer : BufferHandle)
    (layout : VertexLayout) :
    (GlDevice.perform (.attachVertexBuffer array buffer layout) d).state.vertexArrays =
      Function.update d.vertexArrays array.raw
        ((d.vertexArrays array.raw).described buffer.raw layout.stride layout.attributes) := by
  have htold := of_perform (d := d) (r := .attachVertexBuffer array buffer layout)
    (Q := fun _ driver => ∃ previous, Transcribing.told driver = d.told ++
      ([GlCommand.bindVertexArray array.raw, .bindBuffer .array buffer.raw] ++
        layout.attributes.flatMap (attributeCommands layout.stride.toInt32) ++
        [GlCommand.bindVertexArray previous, .bindBuffer .array 0]))
    (E := fun _ => True) told_attachVertexBuffer (reply_attachVertexBuffer array buffer layout)
  obtain ⟨previous, htold⟩ := htold
  rw [vertexArrays, told, htold, VertexState.runAll_append, VertexState.runAll_append,
    VertexState.runAll_append, VertexState.runAll_layout]
  rfl

theorem vertexArrays_delete {array : VertexArrayHandle} :
    (GlDevice.perform (.deleteVertexArray array) d).state.vertexArrays =
      Function.update d.vertexArrays array.raw .blank := by
  have htold : (GlDevice.perform (.deleteVertexArray array) d).state.told =
      d.told ++ [.delete .vertexArray array.raw] :=
    Transcribing.told_run _ _
  rw [vertexArrays, htold, VertexState.runAll_append]
  rfl

/-- Any other request describes nothing. -/
theorem isSome_of_perform {r : Request} (hr : ∀ c, r.mayTell c → c.describes = false)
    (hreply : (GlDevice.perform r d).reply.isSome) {name : GlName} {location : UInt32}
    (h : (((GlDevice.perform r d).state.vertexArrays name).at? location).isSome) :
    ((d.vertexArrays name).at? location).isSome := by
  obtain ⟨reply, hreply⟩ := Option.isSome_iff_exists.mp hreply
  have htold := of_perform (d := d) (r := r)
    (Q := fun _ driver => ∃ cs, Transcribing.told driver = d.told ++ cs ∧ ∀ c ∈ cs, r.mayTell c)
    ((says_serve r).told ⟨d.driver, #[]⟩) hreply
  obtain ⟨cs, htold, hmay⟩ := htold
  rw [vertexArrays, told, htold, VertexState.runAll_append] at h
  exact VertexState.isSome_of_runAll (fun c hc => hr c (hmay c hc)) h

end GlDevice

end RenderKit
