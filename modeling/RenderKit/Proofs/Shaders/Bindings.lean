import RenderKit.Proofs.Foretold
import RenderKit.Shader.Glsl.Toolchain

set_option autoImplicit false

/-! # The numbers of resources in native shaders

A module is walked through twice, once to tell the host what it has to provide, and once to say which
numbers the text for the driver is to have. Both give numbers to blocks and images, but those of the
text are without sets, and a byte has to hold them. The numbers agree as far as the text has them,
and resources meet at a number exactly if nothing but their sets keeps them apart. -/

namespace RenderKit

/-- The host is told about a uniform block or a sampled image, with a number. -/
inductive Global.ReportedAt (m : ShaderModule) (g : Global) (b : Nat) : Prop where
  | block (u : UniformInfo) (hu : u ∈ Reflection.blockUniforms m g) (hb : u.binding = some b)
  | image (s : SamplerInfo) (hs : Reflection.imageSampler? m g = some s) (hb : s.binding = b)

/-! ## Numbers -/

section Numbers

variable {m : ShaderModule} {g h : Global} {b : Nat} {x y : ResourceBinding}
  {kind : ResourceKind}

/-- What is found for a resource of a module is its number, if a byte has room for it. -/
theorem ShaderModule.lookup_points (hg : g ∈ m.globals) (hx : g.binding = some x) :
    m.points.lookup x = x.point? := by
  have hlookup : ∀ xs : List ResourceBinding,
      (xs.filterMap fun x => x.point?.map fun point => (x, point)).lookup x =
        if x ∈ xs then x.point? else none := by
    intro xs
    induction xs with
    | nil => rfl
    | cons first rest ih =>
        by_cases hfirst : x = first
        · subst hfirst
          cases hpoint : x.point? with
          | some point => simp [hpoint]
          | none => simp [hpoint, ih]
        · cases hpoint : first.point? with
          | some point => simp [hpoint, ih, hfirst, List.lookup_cons, beq_false_of_ne hfirst]
          | none => simp [hpoint, ih, hfirst]
  exact (hlookup _).trans (if_pos (List.mem_filterMap.mpr ⟨g, hg, hx⟩))

/-- The number of a resource in the text is its number in the module, if there is room for it. -/
theorem Global.number?_points (hg : g ∈ m.globals) (hkind : g.kind? m = some kind)
    (hx : g.binding = some x) :
    g.number? m m.points = if x.binding < UInt8.size then some x.binding else none := by
  have hnumber : g.number? m m.points = x.point?.map UInt8.toNat := by
    unfold number?
    rw [hkind, hx]
    show (m.points.lookup x).bind (fun point => some point.toNat) = _
    rw [ShaderModule.lookup_points hg hx, Option.map_eq_bind]
    rfl
  rw [hnumber, ResourceBinding.point?]
  split
  · rename_i hroom
    exact congrArg some (UInt8.toNat_ofNat_of_lt hroom)
  · rfl

/-- Two resources meet at a number exactly if only their sets are different. -/
theorem Global.meet_iff (hg : g ∈ m.globals) (hh : h ∈ m.globals) (hgkind : g.kind? m = some kind)
    (hhkind : h.kind? m = some kind) (hx : g.binding = some x) (hy : h.binding = some y)
    (hne : x ≠ y) :
    (∃ point, g.number? m m.points = some point ∧ h.number? m m.points = some point) ↔
      x.set ≠ y.set ∧ x.binding = y.binding ∧ x.binding < UInt8.size := by
  rw [number?_points hg hgkind hx, number?_points hh hhkind hy]
  constructor
  · rintro ⟨point, hpoint, hpoint'⟩
    obtain ⟨hroom, hpoint⟩ := Option.ite_none_right_eq_some.mp hpoint
    obtain ⟨-, hpoint'⟩ := Option.ite_none_right_eq_some.mp hpoint'
    have hsame : x.binding = y.binding := Option.some_inj.mp (hpoint.trans hpoint'.symm)
    refine ⟨fun hset => hne ?_, hsame, hroom⟩
    rcases x with ⟨set, n⟩
    rcases y with ⟨set', n'⟩
    obtain rfl : set = set' := hset
    obtain rfl : n = n' := hsame
    rfl
  · rintro ⟨-, hsame, hroom⟩
    exact ⟨x.binding, if_pos hroom, by rw [← hsame, if_pos hroom]⟩

end Numbers

namespace Global.ReportedAt

variable {m : ShaderModule} {g : Global} {b : Nat}

theorem binding_of_uniform {u : UniformInfo} {place : Option Nat}
    (hu : u ∈ Reflection.uniformsOf m g place) : u.binding = place := by
  unfold Reflection.uniformsOf at hu
  dsimp only at hu
  split at hu
  · obtain ⟨x, -, rfl⟩ := List.mem_map.mp hu
    rfl
  · rw [List.mem_singleton.mp hu]
    rfl

/-- What the host is told is the number in the module. -/
theorem resource (hg : g.ReportedAt m b) :
    ∃ kind x, g.kind? m = some kind ∧ g.binding = some x ∧ x.binding = b := by
  cases hg with
  | block u hu hb =>
      unfold Reflection.blockUniforms at hu
      split at hu
      · rename_i hspace
        rw [binding_of_uniform hu] at hb
        obtain ⟨x, hx, hxb⟩ := Option.map_eq_some_iff.mp hb
        exact ⟨.uniformBlock, x, by simp [kind?, hspace], hx, hxb⟩
      · rw [binding_of_uniform hu] at hb
        cases hb
      · cases hu
  | image s hs hb =>
      unfold Reflection.imageSampler? at hs
      split at hs
      · rename_i x dim arrayed hspace hx htype
        cases hs
        exact ⟨.sampledImage, x, by simp [kind?, hspace, htype], hx, hb⟩
      · rename_i x dim arrayed hspace hx htype
        cases hs
        exact ⟨.sampledImage, x, by simp [kind?, hspace, htype], hx, hb⟩
      · cases hs

end Global.ReportedAt

/-- Every number that the host is told is that of a global. -/
theorem Reflection.exists_reportedAt {m : ShaderModule} {e : EntryPoint} {stage : Stage} {b : Nat}
    (h : (∃ u ∈ (ofModule m e stage).uniforms, u.binding = some b) ∨
      ∃ s ∈ (ofModule m e stage).samplers, s.binding = b) :
    ∃ g ∈ m.globals, g.ReportedAt m b := by
  rcases h with ⟨u, hu, hb⟩ | ⟨s, hs, hb⟩
  · obtain ⟨g, hg, hu⟩ := List.mem_flatMap.mp hu
    exact ⟨g, hg, .block u hu hb⟩
  · obtain ⟨g, hg, hs⟩ := List.mem_filterMap.mp (List.mem_mergeSort.mp hs)
    exact ⟨g, hg, .image s hs hb⟩

/-! ## One module, walked through twice -/

theorem ShaderModule.exists_entryPlace {m : ShaderModule} {stage : Stage} {e : EntryPoint}
    (h : m.entryPoint? stage = some e) :
    ∃ place, m.entries[place]? = some e ∧ m.entryPlace? stage e.name = some place := by
  obtain ⟨hstage, place, hplace, he, hbefore⟩ := List.find?_eq_some_iff_getElem.mp h
  refine ⟨place, he ▸ List.getElem?_eq_getElem hplace, ?_⟩
  refine List.findIdx?_eq_some_iff_getElem.mpr ⟨hplace, ?_, fun j hj => ?_⟩
  · rw [he, hstage]
    exact beq_self_eq_true _
  · have hother := hbefore j hj
    simp only [Bool.not_eq_eq_eq_not, Bool.not_true] at hother
    rw [hother]
    exact Bool.false_ne_true

section Steps

variable {ε ε' α β : Type} {x : Except ε α}

theorem bind_eq_ok_iff {f : α → Except ε β} {b : β} :
    (x >>= f) = .ok b ↔ ∃ a, x = .ok a ∧ f a = .ok b := by
  rcases x with e | a
  · constructor
    · rintro ⟨⟩
    · rintro ⟨a, ⟨⟩, -⟩
  · constructor
    · exact fun h => ⟨a, rfl, h⟩
    · rintro ⟨_, ⟨⟩, h⟩
      exact h

theorem mapError_eq_ok_iff {f : ε → ε'} {a : α} : x.mapError f = .ok a ↔ x = .ok a := by
  rcases x with e | b
  · constructor <;> rintro ⟨⟩
  · exact ⟨fun h => congrArg _ (Except.ok.inj h), fun h => congrArg _ (Except.ok.inj h)⟩

end Steps

section Bytecode

variable [Toolchain] {words : List UInt32} {stage : Stage}

theorem read_of_readBytecode {use : BytecodeUse} {shader : Toolchain.Module}
    (h : readBytecode words stage use = .ok shader) : Toolchain.read words = .ok shader := by
  unfold readBytecode at h
  split at h
  · cases h
  · split at h
    · cases h
    · exact mapError_eq_ok_iff.mp h

theorem of_inspectBytecode {r : Reflection} (h : inspectBytecode words stage = .ok r) :
    ∃ shader e, Toolchain.read words = .ok shader ∧
      (Toolchain.view shader).entryPoint? stage = some e ∧
      r = Reflection.ofModule (Toolchain.view shader) e stage := by
  obtain ⟨shader, hread, h⟩ := bind_eq_ok_iff.mp h
  dsimp only at h
  rcases hentry : (Toolchain.view shader).entryPoint? stage with _ | e
  · rw [hentry] at h
    cases h
  rw [hentry] at h
  cases h
  exact ⟨shader, e, read_of_readBytecode hread, hentry, rfl⟩

theorem of_nativeShader {n : NativeShader} (h : nativeShader words stage = .ok n) :
    ∃ shader analysis e, Toolchain.read words = .ok shader ∧
      Toolchain.validate shader = .ok analysis ∧
      (Toolchain.view shader).entryPoint? stage = some e ∧
      Toolchain.print shader analysis
        ⟨NativeShader.version stage, (Toolchain.view shader).points, stage, e.name⟩ =
          .ok n.text := by
  obtain ⟨shader, hread, h⟩ := bind_eq_ok_iff.mp h
  obtain ⟨analysis, hvalid, h⟩ := bind_eq_ok_iff.mp h
  rcases hentry : (Toolchain.view shader).entryPoint? stage with _ | e
  · rw [hentry] at h
    cases h
  rw [hentry] at h
  obtain ⟨text, hprint, h⟩ := bind_eq_ok_iff.mp h
  cases h
  exact ⟨shader, analysis, e, read_of_readBytecode hread, mapError_eq_ok_iff.mp hvalid, hentry,
    mapError_eq_ok_iff.mp hprint⟩

/-- How texts are known to be written: each resource that the entry point uses has the number that
    the text is to have for it, if there is one, and nothing else has a number. -/
def Toolchain.NumbersResources : Prop :=
  ∀ {shader : Module} {analysis : Analysis} {o : PrintOptions} {text : String} {place : Nat},
    print shader analysis o = .ok text →
    (view shader).entryPlace? o.stage o.entryPoint = some place →
    (NativeShader.numbersIn text.toList).Perm
      (((view shader).globalsAt (uses analysis place)).filterMap
        (Global.number? (view shader) o.points))

/-- A resource that the host is told about keeps the number the host was told, as far as the text has
    room for it, and two resources of a kind meet exactly if they have the same number in different
    sets, and the text has room for it. So it is with all resources of all modules, and the text that
    comes of bytecode has exactly the numbers of the resources in use. -/
theorem bindings_kept_iff (hprints : Toolchain.NumbersResources) :
    (∀ (m : ShaderModule), ∀ g ∈ m.globals,
      (∀ b, g.ReportedAt m b →
        g.number? m m.points = if b < UInt8.size then some b else none) ∧
      ∀ h ∈ m.globals, ∀ kind x y, g.kind? m = some kind → h.kind? m = some kind →
        g.binding = some x → h.binding = some y → x ≠ y →
        ((∃ point, g.number? m m.points = some point ∧ h.number? m m.points = some point) ↔
          x.set ≠ y.set ∧ x.binding = y.binding ∧ x.binding < UInt8.size)) ∧
    ∀ (words : List UInt32) (stage : Stage) (r : Reflection) (n : NativeShader),
      inspectBytecode words stage = .ok r → nativeShader words stage = .ok n →
      ∃ shader analysis place e, Toolchain.read words = .ok shader ∧
        Toolchain.validate shader = .ok analysis ∧
        (Toolchain.view shader).entryPoint? stage = some e ∧
        (Toolchain.view shader).entries[place]? = some e ∧
        r = Reflection.ofModule (Toolchain.view shader) e stage ∧
        (∀ b, ((∃ u ∈ r.uniforms, u.binding = some b) ∨ ∃ s ∈ r.samplers, s.binding = b) →
          ∃ g ∈ (Toolchain.view shader).globals, g.ReportedAt (Toolchain.view shader) b) ∧
        n.bindings.Perm
          (((Toolchain.view shader).globalsAt (Toolchain.uses analysis place)).filterMap
            (Global.number? (Toolchain.view shader) (Toolchain.view shader).points)) := by
  refine ⟨fun m g hg => ⟨fun b hb => ?_, ?_⟩, fun words stage r n hr hn => ?_⟩
  · obtain ⟨kind, x, hkind, hx, rfl⟩ := hb.resource
    exact Global.number?_points hg hkind hx
  · exact fun h hh kind x y hgkind hhkind hx hy hne => Global.meet_iff hg hh hgkind hhkind hx hy hne
  obtain ⟨shader, e, hread, hentry, rfl⟩ := of_inspectBytecode hr
  obtain ⟨shader', analysis, e', hread', hvalid, hentry', hprint⟩ := of_nativeShader hn
  obtain rfl : shader = shader' := Except.ok.inj (hread.symm.trans hread')
  obtain rfl : e = e' := Option.some_inj.mp (hentry.symm.trans hentry')
  obtain ⟨place, hplace, hfound⟩ := ShaderModule.exists_entryPlace hentry
  exact ⟨shader, analysis, place, e, hread, hvalid, hentry, hplace, rfl,
    fun b => Reflection.exists_reportedAt,
    (List.mergeSort_perm _ _).trans (hprints hprint hfound)⟩

end Bytecode

/-! ## The texts of one toolchain -/

namespace NativeShader

/-- A part of a text without the first letter of the word has no numbers. -/
theorem numbersIn_append {front rest : List Char} (h : 'b' ∉ front) :
    numbersIn (front ++ rest) = numbersIn rest := by
  induction front with
  | nil => rfl
  | cons c front ih =>
      rw [List.mem_cons, not_or] at h
      rw [List.cons_append, numbersIn, if_neg, ih h.2]
      rw [show bindingWord = 'b' :: "inding = ".toList by decide, List.isPrefixOf,
        beq_false_of_ne h.1]
      exact Bool.false_ne_true

theorem not_mem_digits (n : Nat) : 'b' ∉ Nat.toDigits 10 n := fun h =>
  absurd (Nat.isDigit_of_mem_toDigits (by decide) (by decide) h) (by decide)

/-- Behind the word stands a number, and the text goes on after it. -/
theorem numbersIn_word {rest : List Char} (n : Nat) (hrest : ∀ c ∈ rest.head?, ¬c.isDigit) :
    numbersIn (bindingWord ++ (Nat.toDigits 10 n ++ rest)) = n :: numbersIn rest := by
  have hword : bindingWord = 'b' :: "inding = ".toList := by decide
  have hnumber : leadingNumber (Nat.toDigits 10 n ++ rest) = n := by
    have htake : (Nat.toDigits 10 n ++ rest).takeWhile Char.isDigit = Nat.toDigits 10 n := by
      rw [List.takeWhile_append_of_pos fun c hc =>
        Nat.isDigit_of_mem_toDigits (by decide) (by decide) hc]
      cases rest with
      | nil => simp
      | cons c rest => simp [hrest c rfl]
    rw [leadingNumber, htake, Nat.ofDigitChars_ten_toDigits]
  have hhead : numbersIn (bindingWord ++ (Nat.toDigits 10 n ++ rest)) =
      leadingNumber (Nat.toDigits 10 n ++ rest) ::
        numbersIn ("inding = ".toList ++ (Nat.toDigits 10 n ++ rest)) := by
    rw [hword, List.cons_append, numbersIn, if_pos]
    · rfl
    · exact List.isPrefixOf_iff_prefix.mpr (hword ▸ List.prefix_append _ _)
  rw [hhead, hnumber, numbersIn_append (by decide), numbersIn_append (not_mem_digits n)]

end NativeShader

namespace ShownModule

theorem numbersIn_bindingLines (numbers : List Nat) :
    NativeShader.numbersIn (String.join (numbers.map bindingLine)).toList = numbers := by
  rw [String.toList_join]
  induction numbers with
  | nil => rfl
  | cons n rest ih =>
      have hfront : "layout(binding = ".toList = "layout(".toList ++ NativeShader.bindingWord := by
        decide
      have hend : ")\n".toList = [')', '\n'] := by decide
      have hline : (bindingLine n).toList = "layout(".toList ++
          (NativeShader.bindingWord ++ (Nat.toDigits 10 n ++ [')', '\n'])) := by
        unfold bindingLine
        rw [String.toList_append, String.toList_append, hfront, hend, Nat.toString_eq_repr,
          Nat.toList_repr, List.append_assoc, List.append_assoc]
      have hbehind : ∀ more : List Char, ∀ c ∈ ([')', '\n'] ++ more).head?, ¬c.isDigit := by
        rintro more c ⟨⟩
        decide
      rw [List.map_cons, List.flatMap_cons, hline, List.append_assoc, List.append_assoc,
        List.append_assoc, NativeShader.numbersIn_append (by decide),
        NativeShader.numbersIn_word n (hbehind _), NativeShader.numbersIn_append (by decide), ih]

/-- The numbers of a text are those it was written with. -/
theorem numbersIn_text (version : Nat) (numbers : List Nat) :
    NativeShader.numbersIn (text version numbers).toList = numbers := by
  have hversion : 'b' ∉ (versionLine version).toList := by
    unfold versionLine
    rw [String.toList_append, String.toList_append, Nat.toString_eq_repr,
      Nat.toList_repr (n := version), List.mem_append, List.mem_append, not_or, not_or]
    exact ⟨⟨by decide, NativeShader.not_mem_digits version⟩, by decide⟩
  rw [text, String.toList_append, NativeShader.numbersIn_append hversion, numbersIn_bindingLines]

end ShownModule

theorem numbersResources : Toolchain.NumbersResources := by
  intro shader analysis o text place hprint hplace
  have hprint : ShownModule.print shader analysis o = .ok text := hprint
  have hplace : shader.shown.entryPlace? o.stage o.entryPoint = some place := hplace
  unfold ShownModule.print at hprint
  rw [hplace] at hprint
  rw [← Except.ok.inj hprint, ShownModule.numbersIn_text]
  rfl

/-! ## Blocks that get lost or meet -/

/-- A fragment shader that uses one uniform block for each of some resource numbers. -/
def tints (places : List ResourceBinding) : ShaderModule where
  types := [.scalar ⟨.float, 4⟩, .vector 4 ⟨.float, 4⟩, .struct [⟨some "color", 1, none⟩]]
  globals := places.map fun x => ⟨some "tint", .uniform, some x, 2⟩
  entries := [⟨"main", .fragment, [], [], List.range places.length, (1, 1, 1)⟩]

/-- The resources that are in use in some bytecode, with their kinds and their numbers in the text. -/
def usedResources (words : List UInt32) (stage : Stage) :
    Option (List (Option ResourceBinding × Option ResourceKind × Option Nat)) := do
  let shader ← (Toolchain.read words).toOption
  let analysis ← (Toolchain.validate shader).toOption
  let m := Toolchain.view shader
  let place ← m.entryPlace? stage (← m.entryPoint? stage).name
  return (m.globalsAt (Toolchain.uses analysis place)).map fun g =>
    (g.binding, g.kind? m, g.number? m m.points)

theorem bindings_perm_of_usedResources {words : List UInt32} {stage : Stage} {n : NativeShader}
    {resources : List (Option ResourceBinding × Option ResourceKind × Option Nat)}
    (hn : nativeShader words stage = .ok n) (h : usedResources words stage = some resources) :
    n.bindings.Perm (resources.filterMap fun x => x.2.2) := by
  obtain ⟨shader, analysis, e, hread, hvalid, hentry, hprint⟩ := of_nativeShader hn
  obtain ⟨place, -, hplace⟩ := ShaderModule.exists_entryPlace hentry
  have hresources : resources =
      ((Toolchain.view shader).globalsAt (Toolchain.uses analysis place)).map fun g =>
        (g.binding, g.kind? (Toolchain.view shader),
          g.number? (Toolchain.view shader) (Toolchain.view shader).points) := by
    simp only [usedResources, hread, hvalid, hentry, hplace, Except.toOption, Option.bind_eq_bind,
      Option.bind_some, pure, Option.some.injEq] at h
    exact h.symm
  rw [hresources, List.filterMap_map]
  exact (List.mergeSort_perm _ _).trans (numbersResources hprint hplace)

/-- Two blocks of different sets meet. -/
theorem bindings_kept_tints :
    Toolchain.NumbersResources ∧
    (∃ g ∈ (tints [⟨0, 3⟩, ⟨1, 3⟩]).globals, ∃ h ∈ (tints [⟨0, 3⟩, ⟨1, 3⟩]).globals,
      g.ReportedAt (tints [⟨0, 3⟩, ⟨1, 3⟩]) 3 ∧ g.binding = some ⟨0, 3⟩ ∧ h.binding = some ⟨1, 3⟩ ∧
      g.number? (tints [⟨0, 3⟩, ⟨1, 3⟩]) (tints [⟨0, 3⟩, ⟨1, 3⟩]).points = some 3 ∧
      ∃ point, g.number? (tints [⟨0, 3⟩, ⟨1, 3⟩]) (tints [⟨0, 3⟩, ⟨1, 3⟩]).points = some point ∧
        h.number? (tints [⟨0, 3⟩, ⟨1, 3⟩]) (tints [⟨0, 3⟩, ⟨1, 3⟩]).points = some point) ∧
    ∃ r n, inspectBytecode (Spirv.write (tints [⟨0, 3⟩, ⟨1, 3⟩])) .fragment = .ok r ∧
      nativeShader (Spirv.write (tints [⟨0, 3⟩, ⟨1, 3⟩])) .fragment = .ok n ∧
      r.uniforms.map UniformInfo.binding = [some 3, some 3] ∧ n.bindings = [3, 3] ∧
      ∃ shader analysis place,
        Toolchain.read (Spirv.write (tints [⟨0, 3⟩, ⟨1, 3⟩])) = .ok shader ∧
        Toolchain.validate shader = .ok analysis ∧
        n.bindings.Perm
          (((Toolchain.view shader).globalsAt (Toolchain.uses analysis place)).filterMap
            (Global.number? (Toolchain.view shader) (Toolchain.view shader).points)) := by
  obtain ⟨hmodules, hwords⟩ := bindings_kept_iff numbersResources
  refine ⟨numbersResources, ?_, ?_⟩
  · have hfirst : (⟨some "tint", .uniform, some ⟨0, 3⟩, 2⟩ : Global) ∈
        (tints [⟨0, 3⟩, ⟨1, 3⟩]).globals := by decide
    have hsecond : (⟨some "tint", .uniform, some ⟨1, 3⟩, 2⟩ : Global) ∈
        (tints [⟨0, 3⟩, ⟨1, 3⟩]).globals := by decide
    obtain ⟨hkept, hmeet⟩ := hmodules (tints [⟨0, 3⟩, ⟨1, 3⟩]) _ hfirst
    have hreported : Global.ReportedAt (tints [⟨0, 3⟩, ⟨1, 3⟩])
        ⟨some "tint", .uniform, some ⟨0, 3⟩, 2⟩ 3 :=
      .block ⟨some 3, 0, "color", .vec4, 16⟩ (by decide) rfl
    exact ⟨_, hfirst, _, hsecond, hreported, rfl, rfl, hkept 3 hreported,
      (hmeet _ hsecond .uniformBlock ⟨0, 3⟩ ⟨1, 3⟩ (by decide) (by decide) rfl rfl
        (by decide)).mpr (by decide)⟩
  · obtain ⟨r, hr, hreported⟩ := exists_ok_of_map_toOption
      (by decide +kernel : (inspectBytecode (Spirv.write (tints [⟨0, 3⟩, ⟨1, 3⟩]))
        .fragment).toOption.map (fun r => r.uniforms.map UniformInfo.binding) =
          some [some 3, some 3])
    obtain ⟨n, hn⟩ := exists_ok_of_isSome_toOption
      (by decide +kernel : (nativeShader (Spirv.write (tints [⟨0, 3⟩, ⟨1, 3⟩]))
        .fragment).toOption.isSome)
    have hused : usedResources (Spirv.write (tints [⟨0, 3⟩, ⟨1, 3⟩])) .fragment =
        some [(some ⟨0, 3⟩, some .uniformBlock, some 3),
          (some ⟨1, 3⟩, some .uniformBlock, some 3)] := by decide +kernel
    obtain ⟨shader, analysis, place, -, hread, hvalid, -, -, -, -, hperm⟩ :=
      hwords _ .fragment r n hr hn
    exact ⟨r, n, hr, hn, hreported,
      (List.perm_replicate (n := 2)).mp (bindings_perm_of_usedResources hn hused),
      shader, analysis, place, hread, hvalid, hperm⟩

/-- The host is told of a block at 256, and the text has no number for it.
    Two blocks of different sets meet at 0. -/
theorem block_lost_blocks_meet :
    (usedResources (Spirv.write (tints [⟨0, 256⟩])) .fragment =
        some [(some ⟨0, 256⟩, some .uniformBlock, none)] ∧
      ∃ r n, inspectBytecode (Spirv.write (tints [⟨0, 256⟩])) .fragment = .ok r ∧
        nativeShader (Spirv.write (tints [⟨0, 256⟩])) .fragment = .ok n ∧
        r.uniforms.map UniformInfo.binding = [some 256] ∧ n.bindings = []) ∧
    (usedResources (Spirv.write (tints [⟨0, 0⟩, ⟨1, 0⟩])) .fragment =
        some [(some ⟨0, 0⟩, some .uniformBlock, some 0),
          (some ⟨1, 0⟩, some .uniformBlock, some 0)] ∧
      ∃ r n, inspectBytecode (Spirv.write (tints [⟨0, 0⟩, ⟨1, 0⟩])) .fragment = .ok r ∧
        nativeShader (Spirv.write (tints [⟨0, 0⟩, ⟨1, 0⟩])) .fragment = .ok n ∧
        r.uniforms.map UniformInfo.binding = [some 0, some 0] ∧ n.bindings = [0, 0]) := by
  have hlost : usedResources (Spirv.write (tints [⟨0, 256⟩])) .fragment =
      some [(some ⟨0, 256⟩, some .uniformBlock, none)] := by decide +kernel
  have hmeet : usedResources (Spirv.write (tints [⟨0, 0⟩, ⟨1, 0⟩])) .fragment =
      some [(some ⟨0, 0⟩, some .uniformBlock, some 0),
        (some ⟨1, 0⟩, some .uniformBlock, some 0)] := by decide +kernel
  obtain ⟨n, hn⟩ := exists_ok_of_isSome_toOption
    (by decide +kernel :
      (nativeShader (Spirv.write (tints [⟨0, 256⟩])) .fragment).toOption.isSome)
  obtain ⟨n', hn'⟩ := exists_ok_of_isSome_toOption
    (by decide +kernel :
      (nativeShader (Spirv.write (tints [⟨0, 0⟩, ⟨1, 0⟩])) .fragment).toOption.isSome)
  obtain ⟨r, hr, hreported⟩ := exists_ok_of_map_toOption
    (by decide +kernel : (inspectBytecode (Spirv.write (tints [⟨0, 256⟩]))
      .fragment).toOption.map (fun r => r.uniforms.map UniformInfo.binding) = some [some 256])
  obtain ⟨r', hr', hreported'⟩ := exists_ok_of_map_toOption
    (by decide +kernel : (inspectBytecode (Spirv.write (tints [⟨0, 0⟩, ⟨1, 0⟩]))
      .fragment).toOption.map (fun r => r.uniforms.map UniformInfo.binding) =
        some [some 0, some 0])
  exact ⟨⟨hlost, r, n, hr, hn, hreported,
      List.perm_nil.mp (bindings_perm_of_usedResources hn hlost)⟩,
    ⟨hmeet, r', n', hr', hn', hreported',
      (List.perm_replicate (n := 2)).mp (bindings_perm_of_usedResources hn' hmeet)⟩⟩

end RenderKit
