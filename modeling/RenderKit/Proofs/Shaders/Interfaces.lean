import Mathlib.Data.List.Basic
import Mathlib.Data.List.Forall2
import Mathlib.Data.List.Permutation
import RenderKit.Proofs.Shaders.Bindings

set_option autoImplicit false

/-! # What a reflection lists

A reflection is compared with what the module says, item by item. Each input of the entry point and
each global gives a few entries, by rules that are written down here case by case. A list of the
reflection has the entries of all items, one item after the other, or these in the order of a
number, with entries of the same number as they were. So no entry is missing, none is made up,
and every one stands in its place. -/

namespace RenderKit

/-! ## Lists -/

/-- `ys` are the `xs` in the order of a key. What has the same key keeps its order. -/
structure InOrder {α : Type} (key : α → Nat) (xs ys : List α) : Prop where
  perm : ys.Perm xs
  sorted : ys.Pairwise fun a b => key a ≤ key b
  stable : ∀ k, (ys.filter fun a => key a = k) = xs.filter fun a => key a = k

/-- `ys` are what the `xs` give, one after the other. -/
def Gathered {α β : Type} (gives : α → List β → Prop) (xs : List α) (ys : List β) : Prop :=
  ∃ parts, List.Forall₂ gives xs parts ∧ ys = parts.flatten

theorem inOrder_sortedBy {α : Type} (key : α → Nat) (xs : List α) :
    InOrder key xs (Reflection.sortedBy key xs) := by
  have htrans : ∀ a b c : α, decide (key a ≤ key b) = true → decide (key b ≤ key c) = true →
      decide (key a ≤ key c) = true := by
    simp only [decide_eq_true_eq]
    exact fun a b c => Nat.le_trans
  have htotal : ∀ a b : α, (decide (key a ≤ key b) || decide (key b ≤ key a)) = true := by
    simp only [Bool.or_eq_true, decide_eq_true_eq]
    exact fun a b => Nat.le_total _ _
  have hperm : (Reflection.sortedBy key xs).Perm xs := List.mergeSort_perm _ _
  refine ⟨hperm, ?_, fun k => ?_⟩
  · exact (List.pairwise_mergeSort htrans htotal xs).imp fun h => of_decide_eq_true h
  · -- the entries of one key are in order already, so they are found again as they were
    have hkey : (xs.filter fun a => key a = k).Pairwise
        fun a b => decide (key a ≤ key b) = true := by
      refine List.Pairwise.imp_of_mem ?_ (List.pairwise_of_forall fun _ _ => trivial)
      intro a b ha hb _
      have hak : key a = k := by simpa using (List.mem_filter.mp ha).2
      have hbk : key b = k := by simpa using (List.mem_filter.mp hb).2
      rw [hak, hbk]
      exact decide_eq_true (Nat.le_refl k)
    have hfound : (xs.filter fun a => key a = k).Sublist (Reflection.sortedBy key xs) :=
      List.sublist_mergeSort htrans htotal hkey List.filter_sublist
    have hsub := hfound.filter fun a => key a = k
    rw [List.filter_filter] at hsub
    simp only [Bool.and_self] at hsub
    exact (hsub.eq_of_length (hperm.filter _).length_eq.symm).symm

theorem gathered_flatMap {α β : Type} {gives : α → List β → Prop} {f : α → List β}
    {xs : List α} (h : ∀ x ∈ xs, gives x (f x)) : Gathered gives xs (xs.flatMap f) :=
  ⟨xs.map f, List.forall₂_map_right_iff.mpr (List.forall₂_same.mpr h), List.flatMap_def⟩

theorem gathered_filterMap {α β : Type} {gives : α → List β → Prop} {f : α → Option β}
    {xs : List α} (h : ∀ x ∈ xs, gives x (f x).toList) : Gathered gives xs (xs.filterMap f) := by
  rw [List.filterMap_eq_flatMap_toList]
  exact gathered_flatMap h

/-! ## Types and their sizes -/

/-- The numbers of both signs have the same words. -/
def Scalar.IsInt (s : Scalar) : Prop := s.kind = .sint ∨ s.kind = .uint

namespace Reflection

/-- The host has a word for the type. A value that is packed tightly has four bytes for each number
    in it, and an image has none. -/
inductive HasWord : ShaderType → UniformType → Nat → Prop
  | float {s : Scalar} (h : s.kind = .float) : HasWord (.scalar s) .float 4
  | int {s : Scalar} (h : s.IsInt) : HasWord (.scalar s) .int 4
  | bool {s : Scalar} (h : s.kind = .bool) : HasWord (.scalar s) .bool 4
  | vec2 {s : Scalar} (h : s.kind = .float) : HasWord (.vector 2 s) .vec2 (2 * 4)
  | vec3 {s : Scalar} (h : s.kind = .float) : HasWord (.vector 3 s) .vec3 (3 * 4)
  | vec4 {s : Scalar} (h : s.kind = .float) : HasWord (.vector 4 s) .vec4 (4 * 4)
  | ivec2 {s : Scalar} (h : s.IsInt) : HasWord (.vector 2 s) .ivec2 (2 * 4)
  | ivec3 {s : Scalar} (h : s.IsInt) : HasWord (.vector 3 s) .ivec3 (3 * 4)
  | ivec4 {s : Scalar} (h : s.IsInt) : HasWord (.vector 4 s) .ivec4 (4 * 4)
  | mat3 (s : Scalar) : HasWord (.matrix 3 3 s) .mat3 (3 * 3 * 4)
  | mat4 (s : Scalar) : HasWord (.matrix 4 4 s) .mat4 (4 * 4 * 4)
  | sampler2D (kind : ImageClass) : HasWord (.image .d2 kind false) .sampler2D 0
  | samplerCube (kind : ImageClass) : HasWord (.image .cube kind false) .samplerCube 0
  | sampler3D (kind : ImageClass) : HasWord (.image .d3 kind false) .sampler3D 0

/-- What the host is told about a type of a module: the word for it, or that there is none. -/
inductive ToldAs (m : ShaderModule) (t : TypeRef) : UniformType → Nat → Prop
  | word {s : ShaderType} {type : UniformType} {size : Nat} (ht : m.type? t = some s)
      (h : HasWord s type size) : ToldAs m t type size
  | wordless (h : ∀ s type size, m.type? t = some s → ¬HasWord s type size) : ToldAs m t .none 0

/-! ## What each item gives -/

/-- A member of a structure that is passed member by member. -/
inductive MemberGives (m : ShaderModule) (x : Member) : List AttributeInfo → Prop
  | location (n : Nat) (h : x.varying = some (.location n)) {type : UniformType} {size : Nat}
      (ht : ToldAs m x.type type size) :
      MemberGives m x [⟨n, x.name.getD ("input" ++ toString n), type, 0⟩]
  | builtIn (code : Nat) (h : x.varying = some (.builtIn code)) : MemberGives m x []
  | unplaced (h : x.varying = none) : MemberGives m x []

/-- An input of an entry point, with its place among the inputs. -/
inductive InputGives (m : ShaderModule) (v : StageVar × Nat) : List AttributeInfo → Prop
  | location (n : Nat) (h : v.1.varying = some (.location n)) {type : UniformType} {size : Nat}
      (ht : ToldAs m v.1.type type size) :
      InputGives m v [⟨n, v.1.name.getD ("input" ++ toString v.2), type, 0⟩]
  | builtIn (code : Nat) (h : v.1.varying = some (.builtIn code)) : InputGives m v []
  | members (h : v.1.varying = none) {members : List Member}
      (ht : m.type? v.1.type = some (.struct members)) {found : List AttributeInfo}
      (hfound : Gathered (MemberGives m) members found) : InputGives m v found
  | unplaced (h : v.1.varying = none)
      (ht : ∀ members, m.type? v.1.type ≠ some (.struct members)) : InputGives m v []

/-- The global is a block that is reported, with this binding. -/
inductive BlockAt (g : Global) : Option Nat → Prop
  | uniform (h : g.space = .uniform) : BlockAt g (g.binding.map ResourceBinding.binding)
  | pushConstant (h : g.space = .pushConstant) : BlockAt g none

/-- What is inside of a type: a wrapper, which is a structure with one member and no name for it,
    is taken off once. -/
inductive Inside (m : ShaderModule) (t : TypeRef) : TypeRef → Prop
  | wrapper (x : Member) (h : m.type? t = some (.struct [x])) (hname : x.name = none) :
      Inside m t x.type
  | plain (h : ∀ x, m.type? t = some (.struct [x]) → x.name ≠ none) : Inside m t t

/-- A block has its members in their order, or is one value. -/
inductive BlockGives (m : ShaderModule) (g : Global) : List UniformInfo → Prop
  | members {binding : Option Nat} (hg : BlockAt g binding) {t : TypeRef}
      (ht : Inside m g.type t) {members : List Member} (h : m.type? t = some (.struct members))
      {found : List UniformInfo} (hlength : found.length = members.length)
      (hfound : ∀ (i : Nat) (x : Member), members[i]? = some x →
        ∃ type size, ToldAs m x.type type size ∧
          found[i]? = some ⟨binding, i, x.name.getD ("member" ++ toString i), type, size⟩) :
      BlockGives m g found
  | value {binding : Option Nat} (hg : BlockAt g binding) {t : TypeRef}
      (ht : Inside m g.type t) (h : ∀ members, m.type? t ≠ some (.struct members))
      {type : UniformType} {size : Nat} (htype : ToldAs m t type size) :
      BlockGives m g [⟨binding, 0, g.name.getD "", type, size⟩]
  | other (hg : ∀ binding, ¬BlockAt g binding) : BlockGives m g []

/-- The global is a sampled image or a depth image with a binding. -/
def IsBoundImage (m : ShaderModule) (g : Global) (b : ResourceBinding) : Prop :=
  g.space = .handle ∧ g.binding = some b ∧
    ∃ dim kind arrayed, m.type? g.type = some (.image dim kind arrayed) ∧ kind ≠ .storage

inductive ImageGives (m : ShaderModule) (g : Global) : List SamplerInfo → Prop
  | image (b : ResourceBinding) (h : IsBoundImage m g b) {type : UniformType} {size : Nat}
      (ht : ToldAs m g.type type size) :
      ImageGives m g [⟨b.binding, g.name.getD ("binding" ++ toString b.binding), type⟩]
  | other (h : ∀ b, ¬IsBoundImage m g b) : ImageGives m g []

/-- A reflection of an entry point. Only a vertex stage has attributes, in the order of their
    locations; uniforms are in the order of the module, and samplers in that of their bindings. -/
structure Reflects (m : ShaderModule) (e : EntryPoint) (stage : Stage) (r : Reflection) :
    Prop where
  attributes : stage = .vertex →
    ∃ found, Gathered (InputGives m) e.inputs.zipIdx found ∧
      InOrder AttributeInfo.location found r.attributes
  noAttributes : stage ≠ .vertex → r.attributes = []
  offsets : ∀ a ∈ r.attributes, a.offset = 0
  uniforms : Gathered (BlockGives m) m.globals r.uniforms
  samplers : ∃ found, Gathered (ImageGives m) m.globals found ∧
    InOrder SamplerInfo.binding found r.samplers

/-! ## What is listed -/

theorem HasWord.ne_none {s : ShaderType} {type : UniformType} {size : Nat}
    (h : HasWord s type size) : type ≠ .none := by
  cases h <;> decide

theorem HasWord.ofShaderType_eq {s : ShaderType} {type : UniformType} {size : Nat}
    (h : HasWord s type size) : UniformType.ofShaderType s = type := by
  cases h with
  | int h | ivec2 h | ivec3 h | ivec4 h =>
      rcases h with h | h <;> simp [UniformType.ofShaderType, h]
  | _ => simp [UniformType.ofShaderType, *]

theorem hasWord_ofShaderType {s : ShaderType} (h : UniformType.ofShaderType s ≠ .none) :
    HasWord s (.ofShaderType s) (UniformType.ofShaderType s).size := by
  revert h
  fun_cases UniformType.ofShaderType s with
  | case1 s hkind => exact fun _ => .float hkind
  | case2 s hkind => exact fun _ => .int (.inl hkind)
  | case3 s hkind => exact fun _ => .int (.inr hkind)
  | case4 s hkind => exact fun _ => .bool hkind
  | case5 s hkind => exact fun _ => .vec2 hkind
  | case6 s hkind => exact fun _ => .vec3 hkind
  | case7 s hkind => exact fun _ => .vec4 hkind
  | case8 s hkind => exact fun _ => .ivec2 (.inl hkind)
  | case9 s hkind => exact fun _ => .ivec2 (.inr hkind)
  | case10 s hkind => exact fun _ => .ivec3 (.inl hkind)
  | case11 s hkind => exact fun _ => .ivec3 (.inr hkind)
  | case12 s hkind => exact fun _ => .ivec4 (.inl hkind)
  | case13 s hkind => exact fun _ => .ivec4 (.inr hkind)
  | case15 s => exact fun _ => .mat3 s
  | case16 s => exact fun _ => .mat4 s
  | case17 kind => exact fun _ => .sampler2D kind
  | case18 kind => exact fun _ => .samplerCube kind
  | case19 kind => exact fun _ => .sampler3D kind
  | case14 | case20 => exact fun h => absurd rfl h

theorem toldAs_typeOf (m : ShaderModule) (t : TypeRef) :
    ToldAs m t (typeOf m t) (typeOf m t).size := by
  rw [typeOf]
  rcases ht : m.type? t with _ | s
  · exact .wordless fun s type size hs => by simp [ht] at hs
  · by_cases hnone : UniformType.ofShaderType s = .none
    · dsimp only
      rw [hnone]
      refine .wordless fun s' type size hs' hword => hword.ne_none ?_
      obtain rfl : s = s' := Option.some_inj.mp (ht.symm.trans hs')
      rw [← hword.ofShaderType_eq, hnone]
    · exact .word ht (hasWord_ofShaderType hnone)

theorem memberGives (m : ShaderModule) (x : Member) :
    MemberGives m x (x.location?.map fun n : Nat =>
      AttributeInfo.mk n (x.name.getD ("input" ++ toString n)) (typeOf m x.type) 0).toList := by
  rcases hx : x.varying with _ | n | code
  · simpa [Member.location?, hx] using MemberGives.unplaced (m := m) hx
  · simpa [Member.location?, Varying.location?, hx] using
      MemberGives.location n hx (toldAs_typeOf m x.type)
  · simpa [Member.location?, Varying.location?, hx] using MemberGives.builtIn (m := m) code hx

theorem inputGives (m : ShaderModule) (v : StageVar) (place : Nat) :
    InputGives m (v, place) (inputAttributes m v place) := by
  rw [inputAttributes]
  split
  · next n hv => exact .location n hv (toldAs_typeOf m v.type)
  · next code hv => exact .builtIn code hv
  · next hv =>
    split
    · next members ht => exact .members hv ht (gathered_filterMap fun x _ => memberGives m x)
    · next ht => exact .unplaced hv ht

theorem inside_insideOf (m : ShaderModule) (t : TypeRef) : Inside m t (insideOf m t) := by
  rw [insideOf]
  split
  · next x ht =>
    split
    · next hname => exact .wrapper x ht (Option.isNone_iff_eq_none.mp hname)
    · next hname =>
      refine .plain fun y hy => ?_
      obtain rfl : x = y := by simpa [ht] using hy
      exact mt Option.isNone_iff_eq_none.mpr hname
  · next ht => exact .plain fun x hx => absurd hx (ht x)

theorem blockGives_uniformsOf {m : ShaderModule} {g : Global} {binding : Option Nat}
    (hg : BlockAt g binding) : BlockGives m g (uniformsOf m g binding) := by
  rw [uniformsOf]
  split
  · next members ht =>
    refine .members hg (inside_insideOf m g.type) ht (by simp) fun i x hx => ?_
    exact ⟨_, _, toldAs_typeOf m x.type, by simp [hx, uniformOf]⟩
  · next ht => exact .value hg (inside_insideOf m g.type) ht (toldAs_typeOf m _)

theorem blockGives (m : ShaderModule) (g : Global) : BlockGives m g (blockUniforms m g) := by
  rw [blockUniforms]
  split
  · next hspace => exact blockGives_uniformsOf (.uniform hspace)
  · next hspace => exact blockGives_uniformsOf (.pushConstant hspace)
  · next huniform hpush =>
    refine .other fun binding hg => ?_
    cases hg with
    | uniform hspace => exact huniform hspace
    | pushConstant hspace => exact hpush hspace

theorem imageGives (m : ShaderModule) (g : Global) : ImageGives m g (imageSampler? m g).toList := by
  rw [imageSampler?]
  split
  · next b dim arrayed hspace hb ht =>
    exact .image b ⟨hspace, hb, dim, .sampled, arrayed, ht, by decide⟩ (toldAs_typeOf m g.type)
  · next b dim arrayed hspace hb ht =>
    exact .image b ⟨hspace, hb, dim, .depth, arrayed, ht, by decide⟩ (toldAs_typeOf m g.type)
  · next hsampled hdepth =>
    refine .other ?_
    rintro b ⟨hspace, hb, dim, kind, arrayed, ht, hkind⟩
    cases kind with
    | sampled => exact hsampled b dim arrayed hspace hb ht
    | depth => exact hdepth b dim arrayed hspace hb ht
    | storage => exact hkind rfl

theorem offset_of_mem_inputAttributes {m : ShaderModule} {v : StageVar} {place : Nat}
    {a : AttributeInfo} (ha : a ∈ inputAttributes m v place) : a.offset = 0 := by
  rw [inputAttributes] at ha
  split at ha
  · rw [List.mem_singleton.mp ha]
  · cases ha
  · split at ha
    · obtain ⟨x, -, hx⟩ := List.mem_filterMap.mp ha
      obtain ⟨n, -, rfl⟩ := Option.map_eq_some_iff.mp hx
      rfl
    · cases ha

theorem offset_of_mem_attributesOf {m : ShaderModule} {e : EntryPoint} {a : AttributeInfo}
    (ha : a ∈ attributesOf m e) : a.offset = 0 := by
  obtain ⟨v, -, ha⟩ := List.mem_flatMap.mp ((inOrder_sortedBy _ _).perm.mem_iff.mp ha)
  exact offset_of_mem_inputAttributes ha

/-- Of every module and every entry point. -/
theorem reflects_ofModule (m : ShaderModule) (e : EntryPoint) (stage : Stage) :
    Reflects m e stage (ofModule m e stage) where
  attributes hvertex := by
    refine ⟨_, gathered_flatMap fun v _ => inputGives m v.1 v.2, ?_⟩
    rw [ofModule, if_pos hvertex]
    exact inOrder_sortedBy _ _
  noAttributes hother := if_neg hother
  offsets a ha := by
    by_cases hvertex : stage = .vertex
    · rw [ofModule, if_pos hvertex] at ha
      exact offset_of_mem_attributesOf ha
    · rw [ofModule, if_neg hvertex] at ha
      cases ha
  uniforms := gathered_flatMap fun g _ => blockGives m g
  samplers := ⟨_, gathered_filterMap fun g _ => imageGives m g, inOrder_sortedBy _ _⟩

/-- A look into bytecode lists what its module says, and so does one into any module. -/
theorem inspectBytecode_reflects [Toolchain] (stage : Stage) :
    (∀ m e, Reflects m e stage (ofModule m e stage)) ∧
    ∀ words r, inspectBytecode words stage = .ok r →
      ∃ shader e, Toolchain.read words = .ok shader ∧
        (Toolchain.view shader).entryPoint? stage = some e ∧
        Reflects (Toolchain.view shader) e stage r := by
  refine ⟨fun m e => reflects_ofModule m e stage, fun words r hr => ?_⟩
  obtain ⟨shader, e, hread, hentry, rfl⟩ := of_inspectBytecode hr
  exact ⟨shader, e, hread, hentry, reflects_ofModule (Toolchain.view shader) e stage⟩

/-- What a vertex shader gives, in the order of its module. -/
def listed [Toolchain] (words : List UInt32) :
    Option (List AttributeInfo × List UniformInfo × List SamplerInfo) := do
  let m := Toolchain.view (← (Toolchain.read words).toOption)
  let e ← m.entryPoint? .vertex
  return (e.inputs.zipIdx.flatMap fun v => inputAttributes m v.1 v.2,
    m.globals.flatMap (blockUniforms m), m.globals.filterMap (imageSampler? m))

theorem eq_of_listed [Toolchain] {words : List UInt32} {r : Reflection}
    {attributes : List AttributeInfo} {uniforms : List UniformInfo} {samplers : List SamplerInfo}
    (hr : inspectBytecode words .vertex = .ok r)
    (h : listed words = some (attributes, uniforms, samplers)) :
    r = ⟨sortedBy AttributeInfo.location attributes, uniforms,
      sortedBy SamplerInfo.binding samplers⟩ := by
  obtain ⟨shader, e, hread, hentry, rfl⟩ := of_inspectBytecode hr
  simp only [listed, hread, hentry, Except.toOption, Option.bind_eq_bind, Option.bind_some, pure,
    Option.some_inj, Prod.mk.injEq] at h
  obtain ⟨rfl, rfl, rfl⟩ := h
  rw [ofModule, if_pos rfl, attributesOf]

/-- A vertex shader with a built-in between its inputs, two inputs at one location, a block with a
    nameless member, push constants, and images of two sets with one binding. -/
def mixed : ShaderModule where
  types := [.scalar ⟨.float, 4⟩, .vector 4 ⟨.float, 4⟩, .scalar ⟨.uint, 4⟩,
    .struct [⟨some "density", 0, none⟩, ⟨none, 1, none⟩], .struct [⟨some "time", 0, none⟩],
    .image .d2 .sampled false, .image .cube .depth false]
  globals := [⟨none, .handle, some ⟨0, 7⟩, 5⟩, ⟨some "fog", .uniform, some ⟨1, 4⟩, 3⟩,
    ⟨some "clock", .pushConstant, none, 4⟩, ⟨some "sky", .handle, some ⟨1, 2⟩, 6⟩,
    ⟨some "map", .handle, some ⟨0, 2⟩, 5⟩]
  entries := [⟨"main", .vertex,
    [⟨some "a_normal", 1, some (.location 2)⟩, ⟨none, 2, some (.builtIn 42)⟩,
      ⟨none, 1, some (.location 0)⟩, ⟨some "a_other", 1, some (.location 2)⟩],
    [], [0, 1, 2, 3, 4], (1, 1, 1)⟩]

/-- What the host is told about it. -/
def mixedReflection : Reflection where
  attributes := [⟨0, "input2", .vec4, 0⟩, ⟨2, "a_normal", .vec4, 0⟩, ⟨2, "a_other", .vec4, 0⟩]
  uniforms := [⟨some 4, 0, "density", .float, 4⟩, ⟨some 4, 1, "member1", .vec4, 16⟩,
    ⟨none, 0, "time", .float, 4⟩]
  samplers := [⟨2, "sky", .samplerCube⟩, ⟨2, "map", .sampler2D⟩, ⟨7, "binding7", .sampler2D⟩]

theorem inspectBytecode_reflects_mixed :
    inspectBytecode (Spirv.write mixed) .vertex = .ok mixedReflection ∧
      ∃ shader e, Toolchain.read (Spirv.write mixed) = .ok shader ∧
        (Toolchain.view shader).entryPoint? .vertex = some e ∧
        Reflects (Toolchain.view shader) e .vertex mixedReflection := by
  obtain ⟨r, hr⟩ := exists_ok_of_isSome_toOption
    (by decide +kernel : (inspectBytecode (Spirv.write mixed) .vertex).toOption.isSome)
  obtain ⟨shader, e, hread, hentry, hreflects⟩ := (inspectBytecode_reflects .vertex).2 _ _ hr
  have hlisted : listed (Spirv.write mixed) = some
      ([⟨2, "a_normal", .vec4, 0⟩, ⟨0, "input2", .vec4, 0⟩, ⟨2, "a_other", .vec4, 0⟩],
        mixedReflection.uniforms,
        [⟨7, "binding7", .sampler2D⟩, ⟨2, "sky", .samplerCube⟩, ⟨2, "map", .sampler2D⟩]) := by
    decide +kernel
  have heq : r = mixedReflection := (eq_of_listed hr hlisted).trans (by cbv)
  exact ⟨heq ▸ hr, shader, e, hread, hentry, heq ▸ hreflects⟩

end Reflection

end RenderKit
