import Mathlib.Data.List.Nodup
import RenderKit.Proofs.OpenGL.Attributes

set_option autoImplicit false

/-! # Layouts in vertex arrays

A layout says what a vertex is made of, and a vertex array that is attached with it should say the
same. It does for every attribute that is read as it is. Integers that are to be read as fractions
of their range are read as integers, so that two layouts that differ in nothing else cannot be told
apart afterwards. -/

namespace RenderKit

/-! ## What attributes mean -/

/-- How the values of an attribute reach the vertex stage. -/
inductive Delivery where
  /-- Floats as they are. -/
  | floats
  /-- Integers as they are. -/
  | integers
  /-- Integers as fractions of their range, from zero or minus one to one. -/
  | fractions
  /-- Integers as floats of the same value. -/
  | converted
deriving DecidableEq

structure AttributeMeaning where
  components : Nat
  scalar : VertexScalar
  delivery : Delivery
  stride : Int
  offset : Int
deriving DecidableEq

namespace VertexAttribute

variable (a : VertexAttribute)

def delivery : Delivery :=
  match a.format.scalar with
  | .float => .floats
  | .int | .uint => if a.normalized then .fractions else .integers

/-- What an attribute of a layout is documented to mean. -/
def meaning (stride : UInt32) : AttributeMeaning :=
  ⟨a.format.components, a.format.scalar, a.delivery, stride.toNat, a.offset.toNat⟩

/-- Whether integers are to be read as fractions. -/
def isFraction : Bool := a.normalized && a.format.scalar ≠ .float

/-- The attribute with integers as they are. -/
def whole : VertexAttribute := { a with normalized := a.normalized && a.format.scalar = .float }

theorem meaning_whole_eq_iff (stride : UInt32) :
    a.whole.meaning stride = a.meaning stride ↔ a.isFraction = false := by
  rcases a with ⟨location, format, offset, normalized⟩
  cases hscalar : format.scalar <;> cases normalized <;>
    simp [whole, meaning, delivery, isFraction, hscalar]

end VertexAttribute

namespace AttributeSource

def delivery (s : AttributeSource) : Delivery :=
  if s.integer then .integers
  else
    match s.scalar with
    | .float => .floats
    | .int | .uint => if s.normalized then .fractions else .converted

/-- What a vertex array has read from a source. -/
def meaning (s : AttributeSource) : AttributeMeaning :=
  ⟨s.components, s.scalar, s.delivery, s.stride.toInt, s.offset.toInt⟩

@[simp] theorem of_whole (buffer : GlName) (stride : UInt32) (a : VertexAttribute) :
    of buffer stride a.whole = of buffer stride a := by
  cases hscalar : a.format.scalar <;> simp [of, VertexAttribute.whole, hscalar]

/-- With room for its place, an attribute is read with integers as they are. -/
theorem meaning_of {stride : UInt32} {a : VertexAttribute} (hstride : stride.toNat < 2 ^ 31)
    (hoffset : a.offset.toNat < 2 ^ 31) (buffer : GlName) :
    (of buffer stride a).meaning = a.whole.meaning stride := by
  have hstride : stride.toInt32.toInt = stride.toNat := (signed_eq_toNat_iff stride).mpr hstride
  have hoffset : a.offset.toInt32.toInt = a.offset.toNat :=
    (signed_eq_toNat_iff a.offset).mpr hoffset
  cases hscalar : a.format.scalar <;>
    simp [of, meaning, delivery, VertexAttribute.whole, VertexAttribute.meaning,
      VertexAttribute.delivery, hstride, hoffset, hscalar]

end AttributeSource

/-! ## Layouts -/

namespace VertexLayout

variable (l : VertexLayout)

/-- The meaning of a layout at each location. -/
def meaning (location : UInt32) : Option AttributeMeaning :=
  (l.attributes.find? (·.location = location)).map (·.meaning l.stride)

/-- The layout with all integers as they are. -/
def whole : VertexLayout := { l with attributes := l.attributes.map .whole }

/-- A layout that can be constructed. -/
def Constructed : Prop :=
  ∃ (attributes : List VertexAttribute) (stride? : Option UInt32) (journal journal' : Journal),
    (make attributes stride?).run.run journal = (.ok l, journal')

theorem nodup_of_repeatedLocation? {seen : List UInt32} {as : List VertexAttribute}
    (h : repeatedLocation? seen as = none) :
    (∀ a ∈ as, a.location ∉ seen) ∧ (as.map (·.location)).Nodup := by
  induction as generalizing seen with
  | nil => simp
  | cons a rest ih =>
      rw [repeatedLocation?] at h
      split at h
      · cases h
      · rename_i hnew
        obtain ⟨hseen, hnodup⟩ := ih h
        refine ⟨?_, ?_⟩
        · rw [List.forall_mem_cons]
          refine ⟨by simpa using hnew, fun b hb hmem => ?_⟩
          exact hseen b hb (List.mem_cons_of_mem _ hmem)
        · rw [List.map_cons, List.nodup_cons]
          refine ⟨fun hmem => ?_, hnodup⟩
          obtain ⟨b, hb, hlocation⟩ := List.mem_map.mp hmem
          exact hseen b hb (hlocation ▸ List.mem_cons_self)

variable {l}

/-- Attributes of a layout that can be constructed have different locations. -/
theorem Constructed.nodup (h : l.Constructed) : (l.attributes.map (·.location)).Nodup := by
  obtain ⟨attributes, stride?, journal, journal', h⟩ := h
  unfold make at h
  split at h
  · cases h
  · rename_i hlocations
    have hnodup := (nodup_of_repeatedLocation? hlocations).2
    split at h
    · dsimp only at h
      split at h
      · cases h
        exact hnodup
      · split at h
        · cases h
        · cases h
          exact hnodup
    · cases h

/-- At its location, an attribute is the one that is found. -/
theorem find?_location (hnodup : (l.attributes.map (·.location)).Nodup) {a : VertexAttribute}
    (ha : a ∈ l.attributes) : l.attributes.find? (·.location = a.location) = some a := by
  cases hfind : l.attributes.find? (·.location = a.location) with
  | none => exact absurd (decide_eq_true rfl) (List.find?_eq_none.mp hfind a ha)
  | some b =>
      have hlocation : b.location = a.location := by simpa using List.find?_some hfind
      rw [List.inj_on_of_nodup_map hnodup (List.mem_of_find?_eq_some hfind) ha hlocation]

theorem meaning_whole (location : UInt32) :
    l.whole.meaning location =
      (l.attributes.find? (·.location = location)).map (·.whole.meaning l.stride) := by
  simp [meaning, whole, List.find?_map, Function.comp_def]
  rfl

/-- Reading integers as they are makes a difference exactly for fractions. -/
theorem meaning_whole_eq_iff (hnodup : (l.attributes.map (·.location)).Nodup) :
    l.whole.meaning = l.meaning ↔ ∀ a ∈ l.attributes, a.isFraction = false := by
  refine ⟨fun h a ha => ?_, fun h => funext fun location => ?_⟩
  · have hlocation := congrFun h a.location
    rw [meaning_whole, meaning, find?_location hnodup ha] at hlocation
    exact (a.meaning_whole_eq_iff l.stride).mp (Option.some.inj hlocation)
  · rw [meaning_whole, meaning]
    cases hfind : l.attributes.find? (·.location = location) with
    | none => rfl
    | some a =>
        have ha := h a (List.mem_of_find?_eq_some hfind)
        exact congrArg some ((a.meaning_whole_eq_iff l.stride).mpr ha)

end VertexLayout

/-! ## Requests -/

namespace Request

theorem describes_of_mayTell {r : Request} {c : GlCommand}
    (hr : ∀ array buffer layout, r ≠ .attachVertexBuffer array buffer layout) (h : r.mayTell c) :
    c.describes = false := by
  cases c with
  | enableAttribute | attributePointer | attributeIntegerPointer =>
      cases r with
      | attachVertexBuffer array buffer layout => exact absurd rfl (hr array buffer layout)
      | _ => cases h
  | _ => rfl

/-- The layouts that a vertex array was attached with after another request. -/
def layoutsAfter (array : VertexArrayHandle) (layouts : List VertexLayout) :
    Request → List VertexLayout
  | .attachVertexBuffer other _ layout => if other = array then layouts ++ [layout] else layouts
  | .deleteVertexArray other => if other = array then [] else layouts
  | _ => layouts

/-- The layouts that a vertex array was attached with since there was last none of its name. -/
def layouts (array : VertexArrayHandle) (rs : List Request) : List VertexLayout :=
  rs.foldl (layoutsAfter array) []

theorem layouts_concat (array : VertexArrayHandle) (rs : List Request) (r : Request) :
    layouts array (rs ++ [r]) = layoutsAfter array (layouts array rs) r :=
  List.foldl_concat ..

end Request

namespace GlDevice

variable {δ : Type} [GlDriver δ] {d₀ d : GlDevice δ} {rs : List Request}
  {array : VertexArrayHandle} {buffer : BufferHandle} {layout : VertexLayout}

/-- A device answered some requests, one after the other. -/
inductive Answered (d₀ : GlDevice δ) : List Request → GlDevice δ → Prop where
  | nil : Answered d₀ [] d₀
  | concat {rs : List Request} {d : GlDevice δ} {r : Request} (h : Answered d₀ rs d)
      (hreply : (GlDevice.perform r d).reply.isSome) :
      Answered d₀ (rs ++ [r]) (GlDevice.perform r d).state

variable [Transcribing δ]

theorem raw_ne_of_ne {kind : ObjectKind} {a b : Handle kind} (h : a ≠ b) : a.raw ≠ b.raw := by
  rcases a with ⟨a, ha⟩
  rcases b with ⟨b, hb⟩
  simpa using h

/-- What an array reads is from one of the layouts that it was attached with. -/
theorem Answered.mem_layouts (h : Answered d₀ rs d) (hblank : d₀.vertexArrays array.raw = .blank)
    {location : UInt32} (hread : ((d.vertexArrays array.raw).at? location).isSome) :
    ∃ l ∈ Request.layouts array rs, location ∈ l.attributes.map (·.location) := by
  -- an array only comes to read more when it is attached, and it reads nothing once it is deleted
  induction h with
  | nil => simp [hblank] at hread
  | @concat rs d r h hreply ih =>
      rw [Request.layouts_concat]
      cases r with
      | attachVertexBuffer other buffer layout =>
          rw [vertexArrays_attach] at hread
          by_cases hother : other = array
          · subst hother
            rw [Function.update_self] at hread
            rw [Request.layoutsAfter, if_pos rfl]
            rcases ArrayAttributes.mem_of_isSome_described hread with hread | hmem
            · obtain ⟨l, hl, hmem⟩ := ih hread
              exact ⟨l, List.mem_append_left _ hl, hmem⟩
            · exact ⟨layout, by simp, hmem⟩
          · rw [Function.update_of_ne (raw_ne_of_ne (Ne.symm hother))] at hread
            rw [Request.layoutsAfter, if_neg hother]
            exact ih hread
      | deleteVertexArray other =>
          rw [vertexArrays_delete] at hread
          by_cases hother : other = array
          · subst hother
            simp at hread
          · rw [Function.update_of_ne (raw_ne_of_ne (Ne.symm hother))] at hread
            rw [Request.layoutsAfter, if_neg hother]
            exact ih hread
      | _ =>
          refine ih (isSome_of_perform (fun c hc => ?_) hreply hread)
          exact Request.describes_of_mayTell (by simp) hc

/-- A vertex array was never attached with another layout than this one, with which it was attached
    last, and the layout is one that can be constructed and whose places the interface has room
    for. -/
structure AttachedAlone (array : VertexArrayHandle) (buffer : BufferHandle)
    (layout : VertexLayout) (d : GlDevice δ) : Prop where
  constructed : layout.Constructed
  stride_lt : layout.stride.toNat < 2 ^ 31
  offset_lt : ∀ a ∈ layout.attributes, a.offset.toNat < 2 ^ 31
  attached : ∃ (d₀ d₁ : GlDevice δ) (rs : List Request),
    d₀.vertexArrays array.raw = .blank ∧ Answered d₀ rs d₁ ∧
    (∀ l ∈ Request.layouts array rs, l = layout) ∧
    d = (GlDevice.perform (.attachVertexBuffer array buffer layout) d₁).state

/-- Exactly the locations of the layout are read, each from its own source. -/
theorem AttachedAlone.at?_eq (h : AttachedAlone array buffer layout d) (location : UInt32) :
    (d.vertexArrays array.raw).at? location =
      (layout.attributes.find? (·.location = location)).map (.of buffer.raw layout.stride) := by
  obtain ⟨d₀, d₁, rs, hblank, hanswered, halone, rfl⟩ := h.attached
  rw [vertexArrays_attach, Function.update_self,
    ArrayAttributes.at?_described h.constructed.nodup]
  cases hfind : layout.attributes.find? (·.location = location) with
  | some a => rfl
  | none =>
      -- what was read before is at a location of the layout
      refine Option.eq_none_iff_forall_ne_some.mpr fun s hs => ?_
      obtain ⟨l, hl, hmem⟩ := hanswered.mem_layouts hblank (Option.isSome_of_eq_some hs)
      obtain ⟨a, ha, hlocation⟩ := List.mem_map.mp (halone l hl ▸ hmem)
      exact List.find?_eq_none.mp hfind a ha (decide_eq_true hlocation)

end GlDevice

/-- The meaning of what a vertex array reads. -/
def ArrayAttributes.meaning (v : ArrayAttributes) (location : UInt32) : Option AttributeMeaning :=
  (v.at? location).map AttributeSource.meaning

namespace GlDevice

variable {δ : Type} [GlDriver δ] [Transcribing δ] {d d' : GlDevice δ}
  {array array' : VertexArrayHandle} {buffer buffer' : BufferHandle}
  {layout layout' : VertexLayout}

/-- What an array reads means what the layout does with integers as they are. -/
theorem AttachedAlone.meaning_eq (h : AttachedAlone array buffer layout d) :
    (d.vertexArrays array.raw).meaning = layout.whole.meaning := by
  funext location
  rw [ArrayAttributes.meaning, h.at?_eq, VertexLayout.meaning_whole, Option.map_map]
  cases hfind : layout.attributes.find? (·.location = location) with
  | none => rfl
  | some a =>
      have hoffset := h.offset_lt a (List.mem_of_find?_eq_some hfind)
      exact congrArg some (AttributeSource.meaning_of h.stride_lt hoffset buffer.raw)

/-- Layouts that differ in fractions alone leave the same in a vertex array. -/
theorem AttachedAlone.at?_congr (h : AttachedAlone array buffer layout d)
    (h' : AttachedAlone array' buffer layout' d') (hwhole : layout.whole = layout'.whole) :
    (d.vertexArrays array.raw).at? = (d'.vertexArrays array'.raw).at? := by
  have hsource : ∀ (l : VertexLayout) (location : UInt32),
      (l.attributes.find? (·.location = location)).map (AttributeSource.of buffer.raw l.stride) =
        (l.whole.attributes.find? (·.location = location)).map
          (AttributeSource.of buffer.raw l.whole.stride) := by
    intro l location
    simp [VertexLayout.whole, List.find?_map, Function.comp_def]
    rfl
  funext location
  rw [h.at?_eq, h'.at?_eq, hsource layout, hsource layout', hwhole]

/-- A vertex array that was attached with one layout says what the layout says, apart from
    fractions: exactly the locations of the layout are read, from the buffer, with its stride and
    their own offset, components and scalars, and floats and integers as they are. It says all that
    the layout says exactly if the layout has no fractions. So two layouts with different meanings
    leave different attributes unless fractions are all that they differ in, and then they leave
    the same. -/
theorem attributes_of_layout (h : AttachedAlone array buffer layout d) :
    (d.vertexArrays array.raw).meaning = layout.whole.meaning ∧
    (∀ location s, (d.vertexArrays array.raw).at? location = some s → s.buffer = buffer.raw) ∧
    ((d.vertexArrays array.raw).meaning = layout.meaning ↔
      ∀ a ∈ layout.attributes, a.isFraction = false) ∧
    ∀ (array' : VertexArrayHandle) (buffer' : BufferHandle) (layout' : VertexLayout)
      (d' : GlDevice δ), AttachedAlone array' buffer' layout' d' →
      ((d.vertexArrays array.raw).at? = (d'.vertexArrays array'.raw).at? →
        layout.whole.meaning = layout'.whole.meaning) ∧
      (buffer = buffer' → layout.whole = layout'.whole →
        (d.vertexArrays array.raw).at? = (d'.vertexArrays array'.raw).at?) := by
  refine ⟨h.meaning_eq, fun location s hs => ?_, ?_, ?_⟩
  · rw [h.at?_eq] at hs
    obtain ⟨a, -, rfl⟩ := Option.map_eq_some_iff.mp hs
    rfl
  · rw [h.meaning_eq]
    exact VertexLayout.meaning_whole_eq_iff h.constructed.nodup
  · intro array' buffer' layout' d' h'
    refine ⟨fun hsame => ?_, ?_⟩
    · rw [← h.meaning_eq, ← h'.meaning_eq]
      funext location
      rw [ArrayAttributes.meaning, ArrayAttributes.meaning, hsame]
    · rintro rfl hwhole
      exact h.at?_congr h' hwhole

/-! ## Two layouts -/

/-- The device after a vertex buffer was attached. -/
def attached (array : VertexArrayHandle) (buffer : BufferHandle) (layout : VertexLayout)
    (d : GlDevice δ) : GlDevice δ :=
  (GlDevice.perform (.attachVertexBuffer array buffer layout) d).state

/-- Places and weights of a bone. -/
def boneLayout : VertexLayout := ⟨[⟨0, .float3, 0, false⟩, ⟨4, .uint2, 12, false⟩], 20⟩

/-- An array that is attached with two buffers, while another one is attached with no layout. -/
theorem attributes_of_layout_recording :
    AttachedAlone ⟨1, by decide⟩ ⟨4, by decide⟩ boneLayout
        (attached ⟨1, by decide⟩ ⟨4, by decide⟩ boneLayout
          (attached ⟨2, by decide⟩ ⟨3, by decide⟩ .empty
            (attached ⟨1, by decide⟩ ⟨3, by decide⟩ boneLayout .recording))) ∧
      ((attached ⟨1, by decide⟩ ⟨4, by decide⟩ boneLayout
        (attached ⟨2, by decide⟩ ⟨3, by decide⟩ .empty
          (attached ⟨1, by decide⟩ ⟨3, by decide⟩ boneLayout .recording))).vertexArrays 1).meaning =
        boneLayout.meaning := by
  have halone : AttachedAlone ⟨1, by decide⟩ ⟨4, by decide⟩ boneLayout
      (attached ⟨1, by decide⟩ ⟨4, by decide⟩ boneLayout
        (attached ⟨2, by decide⟩ ⟨3, by decide⟩ .empty
          (attached ⟨1, by decide⟩ ⟨3, by decide⟩ boneLayout .recording))) := by
    refine ⟨⟨boneLayout.attributes, none, #[], #[], rfl⟩, by decide, by decide, ?_⟩
    refine ⟨.recording, _, _, rfl, (Answered.nil.concat (r := .attachVertexBuffer ⟨1, by decide⟩
      ⟨3, by decide⟩ boneLayout) ?_).concat (r := .attachVertexBuffer ⟨2, by decide⟩
        ⟨3, by decide⟩ .empty) ?_, by decide, rfl⟩
    · rw [reply_attachVertexBuffer]
      rfl
    · rw [reply_attachVertexBuffer]
      rfl
  exact ⟨halone, (attributes_of_layout halone).2.2.1.mpr (by decide)⟩

/-- Two numbers of a color, as fractions or as they are. -/
def colorLayout (normalized : Bool) : VertexLayout := ⟨[⟨0, .uint2, 0, normalized⟩], 8⟩

theorem attachedAlone_colorLayout (normalized : Bool) :
    AttachedAlone ⟨1, by decide⟩ ⟨2, by decide⟩ (colorLayout normalized)
      (attached ⟨1, by decide⟩ ⟨2, by decide⟩ (colorLayout normalized) .recording) :=
  ⟨⟨(colorLayout normalized).attributes, none, #[], #[], rfl⟩, by cases normalized <;> decide,
    by cases normalized <;> decide, .recording, _, [], rfl, .nil, by simp [Request.layouts], rfl⟩

/-- The two layouts mean different things, but leave the same in a vertex array. -/
theorem fractions_lost :
    (colorLayout true).meaning ≠ (colorLayout false).meaning ∧
      ∃ d d' : GlDevice GlRecorder,
        AttachedAlone ⟨1, by decide⟩ ⟨2, by decide⟩ (colorLayout true) d ∧
        AttachedAlone ⟨1, by decide⟩ ⟨2, by decide⟩ (colorLayout false) d' ∧
        (d.vertexArrays 1).at? = (d'.vertexArrays 1).at? ∧
        (d.vertexArrays 1).meaning ≠ (colorLayout true).meaning := by
  have hdiffer : (colorLayout true).meaning ≠ (colorLayout false).meaning := fun h =>
    absurd (congrFun h 0) (by decide)
  have hfractions := attachedAlone_colorLayout true
  refine ⟨hdiffer, _, _, hfractions, attachedAlone_colorLayout false,
    hfractions.at?_congr (attachedAlone_colorLayout false) rfl, fun h => hdiffer ?_⟩
  rw [← h]
  exact hfractions.meaning_eq

end GlDevice

end RenderKit
