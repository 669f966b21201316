import RenderKit.Proofs.OpenGL.Context
import RenderKit.Proofs.Quiet

set_option autoImplicit false

/-! # What the tasks of the device do to the context

Whatever is made on the way of a request that fails is gone again, and whatever was bound on the way
is put back. So a request that makes an object changes nothing but the list of objects, and one that
fails changes nothing at all. -/

namespace RenderKit.GlDevice

variable {δ : Type} [GlDriver δ] [Conforming δ] {w : Work δ} {E : Work δ → Prop}

def Work.context (w : Work δ) : GlContext := Conforming.context w.driver

/-- Quiet tasks leave the context alone. -/
theorem runs_quiet {α : Type} {t : Task δ α} (ht : Quiet t) {g : GlContext} (hg : w.context = g) :
    Runs t w (fun _ w' => w'.context = g) (fun w' => w'.context = g) :=
  ht (fun w' => w'.context = g) (fun _ _ h => h) w hg

theorem runs_tell {c : GlCommand} :
    Runs (tell c) w (fun _ w' => w'.context = w.context.run c) E :=
  Runs.modify (Conforming.context_run c w.driver)

theorem runs_tellAll {cs : List GlCommand} :
    Runs (tellAll cs) w (fun _ w' => w'.context = w.context.runAll cs) E := by
  induction cs generalizing w with
  | nil => exact Runs.pure rfl
  | cons c rest ih =>
      refine Runs.bind runs_tell fun _ w₁ h₁ => ?_
      exact ih.imp fun _ _ h => h.trans (congrArg _ h₁)

/-- Commands that have nothing to do with the context. -/
theorem runs_tellAll_of_neutral {cs : List GlCommand} (hcs : ∀ c ∈ cs, ∀ g : GlContext, g.run c = g)
    {g : GlContext} (hg : w.context = g) : Runs (tellAll cs) w (fun _ w' => w'.context = g) E :=
  runs_tellAll.imp fun _ _ h => h.trans (hg ▸ GlContext.runAll_eq_self hcs _)

theorem runs_query {q : GlQuery} :
    Runs (query q) w
      (fun reply w' => w.context.Agrees q reply ∧ w'.context = w.context.asked q reply) E :=
  Runs.bind_get (Runs.bind_set
    (Runs.pure ⟨Conforming.agrees q w.driver, Conforming.context_ask q w.driver⟩))

/-- The context with one more object. -/
def withObject (x : Native) (g : GlContext) : GlContext := { g with objects := x :: g.objects }

/-- There is a new object, and nothing else is new. -/
def Makes {kind : ObjectKind} (g : GlContext) (h : Handle kind) (w' : Work δ) : Prop :=
  h.native ∉ g.objects ∧ w'.context = withObject h.native g

omit [GlDriver δ] [Conforming δ] in
theorem raw_of_ofRaw? {kind : ObjectKind} {name : GlName} {h : Handle kind}
    (hname : Handle.ofRaw? name = some h) : h.raw = name := by
  unfold Handle.ofRaw? at hname
  split at hname
  · cases hname
    rfl
  · cases hname

theorem runs_create {kind : ObjectKind} {object : GlObject} {what : String} {g : GlContext}
    (hkind : object.kind = kind) (hg : w.context = g) :
    Runs (create kind object what) w (fun h => Makes g h) (fun w' => w'.context = g) := by
  subst hg
  refine Runs.bind runs_query ?_
  rintro name w₁ ⟨hagrees, h₁⟩
  split
  · rename_i h hname
    have hraw : h.raw = name := raw_of_ofRaw? hname
    have hne : (name : GlName) ≠ 0 := hraw ▸ h.raw_ne_zero
    have hnative : h.native = ⟨object.kind, name⟩ := by rw [Handle.native, hraw, hkind]
    refine Runs.pure ⟨?_, ?_⟩
    · rw [hnative]
      exact hagrees name rfl hne
    · rw [h₁, hnative]
      exact if_neg hne
  · rename_i hname
    have hzero : (name : GlName) = 0 := Handle.ofRaw?_eq_none_iff.mp hname
    refine runs_reject ?_
    exact h₁.trans (if_pos hzero)

/-- Whoever is made and deleted again was never there, whatever it was to draw into. -/
theorem run_delete_withObject {kind : ObjectKind} {h : Handle kind} {g : GlContext}
    {drawBuffers : GlName → DrawBuffers} (hkind : kind ≠ .vertexArray ∧ kind ≠ .buffer)
    (hregular : g.Regular) (hnew : h.native ∉ g.objects)
    (hothers : ∀ name, ⟨.framebuffer, name⟩ ≠ h.native → drawBuffers name = g.drawBuffers name) :
    ({ withObject h.native g with drawBuffers := drawBuffers }).run (.delete kind h.raw) = g := by
  have hbindings : g.bindings.without [h.native] = g.bindings :=
    hregular.within.without_eq fun x hx => (List.mem_singleton.mp hx) ▸ hnew
  have helements : g.elementsWithout [h.native] = g.elements :=
    Trace.elementsWithout_of_kind hkind.1 hkind.2
  have hobjects : (h.native :: g.objects).filter (· ≠ h.native) = g.objects := by
    rw [List.filter_cons_of_neg (by simp), List.filter_eq_self]
    intro x hx
    have hne : x ≠ h.native := fun heq => hnew (heq ▸ hx)
    simpa using hne
  have hdraw : ({ g.trace with drawBuffers := drawBuffers }).drawBuffersWithout [h.native] =
      g.drawBuffers := by
    funext name
    rw [Trace.drawBuffersWithout]
    split
    · rename_i hmem
      exact (hregular.drawBuffers name (List.mem_singleton.mp hmem ▸ hnew)).symm
    · rename_i hmem
      exact hothers name fun heq => hmem (List.mem_singleton.mpr heq)
  show { g with
      bindings := g.bindings.without [h.native]
      elements := g.elementsWithout [h.native]
      drawBuffers := ({ g.trace with drawBuffers := drawBuffers }).drawBuffersWithout [h.native]
      objects := (h.native :: g.objects).filter (· ≠ h.native) } = g
  rw [hbindings, helements, hdraw, hobjects]

/-! ## Buffers -/

omit [GlDriver δ] [Conforming δ] in
theorem quiet_bytes (count : UInt64) (what : String) : Quiet (bytes count what : Task δ Int32) := by
  unfold bytes
  dsimp only
  split
  · exact (quiet_reject _).bind fun _ => quiet_pure _
  · exact quiet_pure _

theorem upload_neutral (size : Int32) (usage : BufferUsage) (data : Option (List UInt8)) :
    ∀ c ∈ upload size usage data, ∀ g : GlContext, g.run c = g := by
  unfold upload
  intro c hc g
  split at hc
  · rw [List.mem_singleton.mp hc]
    rfl
  · split at hc
    · rw [List.mem_singleton.mp hc]
      rfl
    · rcases List.mem_cons.mp hc with rfl | hc
      · rfl
      · rw [List.mem_singleton.mp hc]
        rfl

theorem runs_createBuffer {kind : BufferKind} {usage : BufferUsage} {size : UInt64}
    {data : Option (List UInt8)} {g : GlContext} (hg : w.context = g) :
    Runs (createBuffer kind usage size data) w (fun h => Makes g h) (fun w' => w'.context = g) := by
  refine Runs.bind (runs_quiet (quiet_bytes _ _) hg) fun room w₁ h₁ => ?_
  refine Runs.bind (runs_create rfl h₁) ?_
  rintro h w₂ ⟨hnew, h₂⟩
  refine Runs.bind runs_tell fun _ w₃ h₃ => ?_
  refine Runs.bind (runs_tellAll_of_neutral (upload_neutral _ _ _) (h₃.trans h₂)) fun _ w₄ h₄ => ?_
  refine Runs.bind runs_tell fun _ w₅ h₅ => Runs.bind_note (Runs.pure ⟨hnew, ?_⟩)
  exact h₅.trans h₄

theorem runs_writeBuffer {buffer : BufferHandle} {offset : UInt64} {data : List UInt8}
    {g : GlContext} (hg : w.context = g) :
    Runs (writeBuffer buffer offset data) w (fun _ w' => w'.context = g)
      (fun w' => w'.context = g) := by
  refine Runs.bind (runs_quiet (quiet_bytes _ _) hg) fun place w₁ h₁ => ?_
  exact runs_tellAll.imp fun _ _ h => h.trans h₁

theorem runs_readBuffer {buffer : BufferHandle} {offset length : UInt64} {g : GlContext}
    (hg : w.context = g) :
    Runs (readBuffer buffer offset length) w (fun _ w' => w'.context = g)
      (fun w' => w'.context = g) := by
  refine Runs.bind (runs_quiet (quiet_bytes _ _) hg) fun place w₁ h₁ => ?_
  refine Runs.bind (runs_quiet (quiet_bytes _ _) h₁) fun count w₂ h₂ => ?_
  refine Runs.bind runs_tell fun _ w₃ h₃ => ?_
  refine Runs.bind runs_query ?_
  rintro data w₄ ⟨-, h₄⟩
  refine Runs.bind runs_tell fun _ w₅ h₅ => Runs.pure ?_
  exact h₅.trans (h₄.trans (h₃.trans h₂))

/-! ## Textures and samplers -/

omit [GlDriver δ] [Conforming δ] in
theorem quiet_side (length limit : UInt32) : Quiet (side length limit : Task δ Int32) := by
  unfold side
  dsimp only
  split
  · exact (quiet_reject _).bind fun _ => quiet_pure _
  · exact quiet_pure _

theorem textureCommands_neutral (desc : TextureDesc) (width height : Int32)
    (data : Option (List UInt8)) :
    ∀ c ∈ textureCommands desc width height data, ∀ g : GlContext, g.run c = g := by
  intro c hc g
  simp only [textureCommands, List.mem_cons, List.not_mem_nil, or_false] at hc
  rcases hc with rfl | rfl | rfl | rfl | rfl
  · rfl
  · rfl
  · rfl
  · rfl
  · split <;> rfl

/-- The texture that was bound in the active unit is bound there again. -/
theorem runs_createTexture {limit : UInt32} {desc : TextureDesc} {data : Option (List UInt8)}
    {g : GlContext} (hg : w.context = g) :
    Runs (createTexture limit desc data) w (fun h => Makes g h) (fun w' => w'.context = g) := by
  refine Runs.bind (runs_quiet (quiet_side _ _) hg) fun width w₁ h₁ => ?_
  refine Runs.bind (runs_quiet (quiet_side _ _) h₁) fun height w₂ h₂ => ?_
  refine Runs.bind (runs_create rfl h₂) ?_
  rintro h w₃ ⟨hnew, h₃⟩
  refine Runs.bind runs_query ?_
  rintro previous w₄ ⟨hprevious, h₄⟩
  refine Runs.bind runs_tell fun _ w₅ h₅ => ?_
  refine Runs.bind (runs_tellAll_of_neutral (textureCommands_neutral _ _ _ _) h₅) fun _ w₆ h₆ => ?_
  refine Runs.bind runs_tell fun _ w₇ h₇ => Runs.bind_note (Runs.pure ⟨hnew, ?_⟩)
  have hsame : (previous : GlName) = g.bindings.texture g.activeUnit := by
    rw [h₃] at hprevious
    exact hprevious
  have h₄ : w₄.context = withObject h.native g := h₄.trans h₃
  show w₇.context = _
  rw [h₇, h₆, h₄, hsame]
  simp [GlContext.run, withObject]

theorem samplerCommands_neutral (desc : SamplerDesc) (name : GlName) :
    ∀ c ∈ samplerCommands desc name, ∀ g : GlContext, g.run c = g := by
  intro c hc g
  simp only [samplerCommands, List.mem_cons, List.not_mem_nil, or_false] at hc
  rcases hc with rfl | rfl | rfl | rfl | rfl | rfl <;> rfl

theorem runs_setAnisotropy {limit : Binary32} {desc : SamplerDesc} {name : GlName} {g : GlContext}
    (hg : w.context = g) :
    Runs (setAnisotropy limit desc name) w (fun _ w' => w'.context = g) E := by
  unfold setAnisotropy
  split
  · exact Runs.pure hg
  · split
    · exact runs_tell.imp fun _ _ h => h.trans hg
    · exact runs_note hg

theorem runs_createSampler {limit : Binary32} {desc : SamplerDesc} {g : GlContext}
    (hg : w.context = g) :
    Runs (createSampler limit desc) w (fun h => Makes g h) (fun w' => w'.context = g) := by
  refine Runs.bind (runs_create rfl hg) ?_
  rintro h w₁ ⟨hnew, h₁⟩
  refine Runs.bind (runs_tellAll_of_neutral (samplerCommands_neutral _ _) h₁) fun _ w₂ h₂ => ?_
  refine Runs.bind (runs_setAnisotropy h₂) fun _ w₃ h₃ => ?_
  exact Runs.bind_note (Runs.pure ⟨hnew, h₃⟩)

/-! ## Framebuffers -/

/-- The slots that a framebuffer with some colors draws into. -/
def drawSlots (count : Nat) : DrawBuffers :=
  if count = 0 then [none] else (colorSlots count).map some

/-- The context with one more framebuffer. -/
def withFramebuffer (h : FramebufferHandle) (count : Nat) (g : GlContext) : GlContext :=
  { withObject h.native g with
    drawBuffers := Function.update g.drawBuffers h.raw (drawSlots count) }

/-- What fills a framebuffer says what is drawn into, and nothing else. -/
theorem runAll_framebufferCommands (colors : List TextureHandle)
    (depth : Option (TextureHandle × AttachmentSlot)) (g : GlContext) :
    g.runAll (framebufferCommands colors depth) =
      { g with
        drawBuffers :=
          Function.update g.drawBuffers g.bindings.framebuffer (drawSlots colors.length) } := by
  have hcolors : ∀ c ∈ (colors.zip (colorSlots colors.length)).map
      (fun c => GlCommand.framebufferTexture c.2 c.1.raw), ∀ g : GlContext, g.run c = g := by
    intro c hc g
    obtain ⟨a, -, rfl⟩ := List.mem_map.mp hc
    rfl
  have hdepth : ∀ c ∈ depth.toList.map (fun d => GlCommand.framebufferTexture d.2 d.1.raw),
      ∀ g : GlContext, g.run c = g := by
    intro c hc g
    obtain ⟨a, -, rfl⟩ := List.mem_map.mp hc
    rfl
  unfold framebufferCommands
  rw [GlContext.runAll_append, GlContext.runAll_append, GlContext.runAll_eq_self hcolors,
    GlContext.runAll_eq_self hdepth]
  rcases colors with _ | ⟨first, rest⟩
  · rfl
  · rw [if_neg (by simp [colorSlots]), drawSlots, if_neg (by simp)]
    rfl

/-- The framebuffer that was bound is bound again, also if the new one is not complete. -/
theorem runs_createFramebuffer {limit : UInt32} {colors : List TextureHandle}
    {depth : Option (TextureHandle × AttachmentPoint)} {g : GlContext} (hg : w.context = g)
    (hregular : g.Regular) :
    Runs (createFramebuffer limit colors depth) w
      (fun h w' => h.native ∉ g.objects ∧ w'.context = withFramebuffer h colors.length g)
      (fun w' => w'.context = g) := by
  unfold createFramebuffer
  extract_lets make check
  have hmake : ∀ depthSlot w', w'.context = g →
      Runs (make depthSlot) w'
        (fun h w' => h.native ∉ g.objects ∧ w'.context = withFramebuffer h colors.length g)
        (fun w' => w'.context = g) := by
    intro depthSlot w₁ h₁
    refine Runs.bind (runs_create rfl h₁) ?_
    rintro h w₂ ⟨hnew, h₂⟩
    refine Runs.bind runs_query ?_
    rintro previous w₃ ⟨hprevious, h₃⟩
    refine Runs.bind runs_tell fun _ w₄ h₄ => ?_
    refine Runs.bind runs_tellAll fun _ w₅ h₅ => ?_
    refine Runs.bind runs_query ?_
    rintro status w₆ ⟨-, h₆⟩
    refine Runs.bind runs_tell fun _ w₇ h₇ => ?_
    have hsame : (previous : GlName) = g.bindings.framebuffer := by
      rw [h₂] at hprevious
      exact hprevious
    have hback : w₇.context = withFramebuffer h colors.length g := by
      have h₃ : w₃.context = withObject h.native g := h₃.trans h₂
      have h₆ : w₆.context = w₅.context := h₆
      rw [h₇, h₆, h₅, runAll_framebufferCommands, h₄, h₃, hsame]
      rfl
    split
    · refine Runs.bind runs_tell fun _ w₈ h₈ => Runs.bind_reject ?_
      have h₈ : w₈.context = g := by
        rw [h₈, hback]
        refine run_delete_withObject ⟨by decide, by decide⟩ hregular hnew fun name hname => ?_
        exact Function.update_of_ne (fun heq => hname (by rw [heq]; rfl)) _ _
      exact h₈
    · exact Runs.bind_note (Runs.pure ⟨hnew, hback⟩)
  refine Runs.reject_if hg fun _ => ?_
  unfold check
  split
  · exact hmake _ _ hg
  · split
    · exact hmake _ _ hg
    · exact Runs.bind_reject hg

/-! ## Shaders and programs -/

theorem runs_compileShader {stage : Stage} {source : String} {g : GlContext} (hg : w.context = g)
    (hregular : g.Regular) :
    Runs (compileShader stage source) w (fun h => Makes g h) (fun w' => w'.context = g) := by
  refine Runs.bind (runs_create rfl hg) ?_
  rintro h w₁ ⟨hnew, h₁⟩
  refine Runs.bind runs_tellAll fun _ w₂ h₂ => ?_
  refine Runs.bind runs_query ?_
  rintro failure w₃ ⟨-, h₃⟩
  have hmade : w₃.context = withObject h.native g := by
    have h₃ : w₃.context = w₂.context := h₃
    rw [h₃, h₂, h₁]
    rfl
  rcases (failure : Option String) with _ | info
  · exact Runs.bind_note (Runs.pure ⟨hnew, hmade⟩)
  · refine Runs.bind runs_tell fun _ w₄ h₄ => Runs.bind_reject ?_
    have h₄ : w₄.context = g := by
      rw [h₄, hmade]
      exact run_delete_withObject ⟨by decide, by decide⟩ hregular hnew fun _ _ => rfl
    exact h₄

theorem runs_linkProgram {shaders : List ShaderHandle} {g : GlContext} (hg : w.context = g)
    (hregular : g.Regular) :
    Runs (linkProgram shaders) w (fun h => Makes g h) (fun w' => w'.context = g) := by
  refine Runs.bind (runs_create rfl hg) ?_
  rintro h w₁ ⟨hnew, h₁⟩
  have hattach : ∀ c ∈ shaders.map (fun s => GlCommand.attachShader h.raw s.raw),
      ∀ g : GlContext, g.run c = g := by
    intro c hc g
    obtain ⟨s, -, rfl⟩ := List.mem_map.mp hc
    rfl
  have hdetach : ∀ c ∈ shaders.map (fun s => GlCommand.detachShader h.raw s.raw),
      ∀ g : GlContext, g.run c = g := by
    intro c hc g
    obtain ⟨s, -, rfl⟩ := List.mem_map.mp hc
    rfl
  refine Runs.bind (runs_tellAll_of_neutral hattach h₁) fun _ w₂ h₂ => ?_
  refine Runs.bind runs_tell fun _ w₃ h₃ => ?_
  refine Runs.bind (runs_tellAll_of_neutral hdetach (h₃.trans h₂)) fun _ w₄ h₄ => ?_
  refine Runs.bind runs_query ?_
  rintro failure w₅ ⟨-, h₅⟩
  have hmade : w₅.context = withObject h.native g := h₅.trans h₄
  rcases (failure : Option String) with _ | info
  · exact Runs.bind_note (Runs.pure ⟨hnew, hmade⟩)
  · refine Runs.bind runs_tell fun _ w₆ h₆ => Runs.bind_reject ?_
    have h₆ : w₆.context = g := by
      rw [h₆, hmade]
      exact run_delete_withObject ⟨by decide, by decide⟩ hregular hnew fun _ _ => rfl
    exact h₆

theorem runs_lookUp? {name : String} {q : GlQuery} {location : q.Reply → Int32} {g : GlContext}
    (hq : ∀ reply, g.asked q reply = g) (hg : w.context = g) :
    Runs (lookUp? name q location) w (fun _ w' => w'.context = g) E := by
  unfold lookUp?
  dsimp only
  split
  · exact Runs.bind (P := fun _ _ => False) runs_abort fun _ _ h => h.elim
  · refine Runs.bind runs_query ?_
    rintro found w₁ ⟨-, h₁⟩
    exact Runs.pure (h₁.trans (by rw [hg, hq]))

theorem runs_memberLocation? {program : ProgramHandle} {name : String} {index left : Nat}
    {g : GlContext} (hg : w.context = g) :
    Runs (memberLocation? program name index left) w (fun _ w' => w'.context = g) E := by
  induction left generalizing index w with
  | zero => exact Runs.pure hg
  | succ left ih =>
      refine Runs.bind runs_query ?_
      rintro active w₁ ⟨-, h₁⟩
      have h₁ : w₁.context = g := h₁.trans hg
      extract_lets path next
      clear_value path
      have hnext : ∀ found w', w'.context = g →
          Runs (next found) w' (fun _ w' => w'.context = g) E := by
        intro found w' hg'
        rcases found with _ | location
        · exact ih hg'
        · exact Runs.pure hg'
      split
      · exact Runs.bind (runs_lookUp? (fun _ => rfl) h₁) hnext
      · exact hnext none w₁ h₁

theorem runs_uniformLocation {program : ProgramHandle} {name : String} {g : GlContext}
    (hg : w.context = g) :
    Runs (uniformLocation program name) w (fun _ w' => w'.context = g) E := by
  refine Runs.bind (runs_lookUp? (fun _ => rfl) hg) ?_
  rintro (_ | location) w₁ h₁
  · refine Runs.bind runs_query ?_
    rintro count w₂ ⟨-, h₂⟩
    exact Runs.bind (runs_memberLocation? (h₂.trans h₁)) fun _ _ h => Runs.pure h
  · exact Runs.pure h₁

theorem runs_attributeLocation {program : ProgramHandle} {name : String} {g : GlContext}
    (hg : w.context = g) :
    Runs (attributeLocation program name) w (fun _ w' => w'.context = g) E :=
  Runs.bind (runs_lookUp? (fun _ => rfl) hg) fun _ _ h => Runs.pure h

/-! ## Vertex arrays -/

theorem attributeCommands_neutral (stride : Int32) (a : VertexAttribute) :
    ∀ c ∈ attributeCommands stride a, ∀ g : GlContext, g.run c = g := by
  intro c hc g
  rcases List.mem_cons.mp hc with rfl | hc
  · rfl
  · rw [List.mem_singleton.mp hc]
    split <;> rfl

/-- The vertex array that was bound is bound again. -/
theorem runs_withVertexArray {array : VertexArrayHandle} {inside : List GlCommand} {g : GlContext}
    (hg : w.context = g) :
    Runs (withVertexArray array inside) w
      (fun _ w' => w'.context =
        ((g.run (.bindVertexArray array.raw)).runAll inside).run
          (.bindVertexArray g.bindings.vertexArray)) E := by
  refine Runs.bind runs_query ?_
  rintro previous w₁ ⟨hprevious, h₁⟩
  refine Runs.bind runs_tell fun _ w₂ h₂ => ?_
  refine Runs.bind runs_tellAll fun _ w₃ h₃ => ?_
  refine runs_tell.imp fun _ w₄ h₄ => ?_
  have hsame : (previous : GlName) = g.bindings.vertexArray := by
    rw [hg] at hprevious
    exact hprevious
  have h₁ : w₁.context = g := h₁.trans hg
  rw [h₄, h₃, h₂, h₁, hsame]

theorem runs_attachVertexBuffer {array : VertexArrayHandle} {buffer : BufferHandle}
    {layout : VertexLayout} {g : GlContext} (hg : w.context = g) :
    Runs (attachVertexBuffer array buffer layout) w (fun _ w' => w'.context = g) E := by
  have hinside : ∀ c ∈ GlCommand.bindBuffer .array buffer.raw
      :: layout.attributes.flatMap (attributeCommands layout.stride.toInt32),
      ∀ g : GlContext, g.run c = g := by
    intro c hc
    rcases List.mem_cons.mp hc with rfl | hc
    · exact fun g => rfl
    · obtain ⟨a, -, hc⟩ := List.mem_flatMap.mp hc
      exact attributeCommands_neutral _ a c hc
  refine Runs.bind (runs_withVertexArray hg) fun _ w₁ h₁ => ?_
  refine runs_tell.imp fun _ w₂ h₂ => ?_
  rw [h₂, h₁, GlContext.runAll_eq_self hinside]
  rfl

/-- The vertex array has its elements from the buffer now. -/
theorem runs_attachIndexBuffer {array : VertexArrayHandle} {buffer : BufferHandle} {g : GlContext}
    (hg : w.context = g) :
    Runs (attachIndexBuffer array buffer) w
      (fun _ w' => w'.context =
        { g with elements := Function.update g.elements array.raw buffer.raw }) E := by
  refine (runs_withVertexArray hg).imp ?_
  rintro _ w' h
  exact h

end RenderKit.GlDevice
