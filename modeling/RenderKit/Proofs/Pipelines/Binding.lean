import RenderKit.Proofs.Called
import RenderKit.Proofs.Modes.Blind
import RenderKit.Proofs.OpenGL.Reference
import RenderKit.Proofs.OpenGL.Transcript
import RenderKit.Proofs.Pipelines.Described

set_option autoImplicit false

/-! # Binding pipelines

A pipeline that is bound sets the fixed functions by commands, some of which it leaves out. What it
leaves out does not count, so that nothing of the pipelines that were bound earlier is left. -/

namespace RenderKit

/-! ## What is set -/

def BlendAttachment.effective (a : BlendAttachment) : Option Mixing × WriteMask :=
  (if a.enabled then some a.mixing else none, a.mask)

theorem BlendAttachment.describes_effective (a : BlendAttachment) : a.Describes a.effective where
  mixes h := if_pos h
  covers h := if_neg (by simp [h])
  mask := rfl

@[simp] theorem DrawBufferSettings.effective_withAttachment (a : BlendAttachment)
    (b : DrawBufferSettings) : (b.withAttachment a).effective = a.effective := by
  cases henabled : a.enabled
  all_goals simp [effective, withAttachment, BlendAttachment.effective, henabled]

@[simp] theorem DrawBufferSettings.withAttachment_withAttachment (a : BlendAttachment)
    (b : DrawBufferSettings) : (b.withAttachment a).withAttachment a = b.withAttachment a := by
  cases henabled : a.enabled
  all_goals simp [withAttachment, henabled]

namespace Pipeline

/-- What counts once a pipeline is bound with the handle of its program. -/
def settled (p : Pipeline) (program : ProgramHandle) : EffectiveState where
  program := program.raw
  vertexArray := p.array.raw
  culled := p.rasterizer.cull.face?
  front := p.rasterizer.front
  polygon := p.rasterizer.polygon
  offset mode :=
    if p.rasterizer.offsetEnabled ∧ mode = p.rasterizer.polygon then
      some (p.rasterizer.slope, p.rasterizer.bias)
    else none
  depthClamp := p.rasterizer.depthClamp
  scissorTest := p.rasterizer.scissorTest
  depthTest := p.depthStencil.depthTest
  depthWrite := p.depthStencil.depthWrite
  depthCompare := p.depthStencil.depthCompare
  stencilTest := p.depthStencil.stencilTest
  frontStencil := p.depthStencil.front.side
  backStencil := p.depthStencil.back.side
  constants := p.blend.constants
  drawBuffers := (p.blend.attachments.take p.blended).map BlendAttachment.effective

theorem length_take_blended (p : Pipeline) :
    (p.blend.attachments.take p.blended).length = p.blended := by
  rw [List.length_take, p.blend.length_attachments, blended, maxBlendAttachments]
  omega

/-- It is what the pipeline describes. -/
theorem describes_settled (p : Pipeline) (program : ProgramHandle) :
    p.Describes program (p.settled program) where
  program := rfl
  vertexArray := rfl
  culled _ := CullMode.leavesOut_iff.symm
  front := rfl
  polygon := rfl
  offset mode offset := by
    rw [Rasterizer.offsets_iff, ← and_assoc, settled, Option.ite_none_right_eq_some,
      Option.some_inj, eq_comm (a := offset)]
  depthClamp := rfl
  scissorTest := rfl
  depthTest := rfl
  depthWrite := rfl
  depthCompare := rfl
  stencilTest := rfl
  frontStencil := ⟨rfl, rfl, rfl, rfl, rfl, rfl⟩
  backStencil := ⟨rfl, rfl, rfl, rfl, rfl, rfl⟩
  constants := rfl
  length_drawBuffers := (List.length_map _).trans p.length_take_blended
  drawBuffers index hindex := by
    have hplace : index < p.blend.attachments.length := by
      rw [p.blend.length_attachments, maxBlendAttachments]
      rw [blended] at hindex
      omega
    refine ⟨_, _, List.getElem?_eq_getElem hplace, ?_, BlendAttachment.describes_effective _⟩
    rw [settled, List.getElem?_map, List.getElem?_take_of_lt hindex,
      List.getElem?_eq_getElem hplace]
    rfl

/-- The references are told as they are if there is room for them among the numbers with a sign. -/
theorem comparesWith_settled_iff (p : Pipeline) (program : ProgramHandle) {bits : Nat}
    (hbits : 0 < bits) :
    p.ComparesWith bits (p.settled program) ↔ p.depthStencil.front.reference.toNat < 2 ^ 31 ∧
      p.depthStencil.back.reference.toNat < 2 ^ 31 := by
  rw [← clampedReference_toInt32_iff hbits, ← clampedReference_toInt32_iff hbits]
  exact ⟨fun h => ⟨h.front, h.back⟩, fun h => ⟨h.1, h.2⟩⟩

/-- What the driver is told when a pipeline is bound. -/
def bindCommands (p : Pipeline) (program : ProgramHandle) : List GlCommand :=
  [.useProgram program.raw] ++ ([.bindVertexArray p.array.raw] ++
    (GlDevice.rasterizerCommands p.rasterizer ++ (GlDevice.depthStencilCommands p.depthStencil ++
      GlDevice.blendCommands p.blend (min p.attachments maxBlendAttachments.toUInt32))))

theorem toNat_min_attachments (p : Pipeline) :
    (min p.attachments maxBlendAttachments.toUInt32).toNat = p.blended := by
  rw [blended, UInt32.toNat_min]
  rfl

end Pipeline

namespace FixedState

variable (p : Pipeline) (program : ProgramHandle) (s : FixedState)

/-- The settings with those of a pipeline. -/
def withPipeline : FixedState :=
  ((({ s with program := program.raw, vertexArray := p.array.raw }.withRasterizer
    p.rasterizer).withDepthStencil p.depthStencil).withBlend p.blend
      (min p.attachments maxBlendAttachments.toUInt32))

theorem runAll_bindCommands :
    s.runAll (p.bindCommands program) = s.withPipeline p program := by
  rw [Pipeline.bindCommands, runAll_append, runAll_append, runAll_append, runAll_append,
    runAll_rasterizerCommands, runAll_depthStencilCommands, runAll_blendCommands]
  rfl

theorem effective_drawBuffers_withAttachments (as : List BlendAttachment)
    (has : as.length ≤ maxBlendAttachments) :
    (List.range as.length).map
        (fun index => ((s.withAttachments as 0).drawBuffers index.toUInt32).effective) =
      as.map BlendAttachment.effective := by
  refine List.ext_getElem (by simp) fun index hindex _ => ?_
  rw [List.length_map, List.length_range] at hindex
  have hnumber : index.toUInt32.toNat = index :=
    UInt32.toNat_ofNat_of_lt' (by rw [maxBlendAttachments] at has; rw [UInt32.size]; omega)
  simp only [List.getElem_map, List.getElem_range, withAttachments, hnumber, Nat.zero_le, if_true,
    Nat.sub_zero, List.getElem?_eq_getElem hindex, DrawBufferSettings.effective_withAttachment]

/-- What counts comes from the pipeline alone, whatever was set before. -/
theorem effective_withPipeline :
    (s.withPipeline p program).effective p.blended = p.settled program := by
  -- a face and an offset are only left as they were where they are switched off
  have hculled : (if p.rasterizer.cull.face?.isSome then
      some (p.rasterizer.cull.face?.getD s.culled) else none) = p.rasterizer.cull.face? := by
    cases p.rasterizer.cull.face? <;> rfl
  have hoffset : ∀ mode : PolygonMode,
      (if p.rasterizer.offsetEnabled && decide (mode = p.rasterizer.polygon) then
        some (if p.rasterizer.offsetEnabled then p.rasterizer.slope else s.factor,
          if p.rasterizer.offsetEnabled then p.rasterizer.bias else s.units) else none) =
      if p.rasterizer.offsetEnabled ∧ mode = p.rasterizer.polygon then
        some (p.rasterizer.slope, p.rasterizer.bias) else none := by
    intro mode
    cases p.rasterizer.offsetEnabled <;> simp
  have hbuffers := effective_drawBuffers_withAttachments
    (({ s with program := program.raw, vertexArray := p.array.raw }.withRasterizer
      p.rasterizer).withDepthStencil p.depthStencil) (p.blend.attachments.take p.blended)
    (by rw [p.length_take_blended, Pipeline.blended]; exact min_le_right _ _)
  rw [p.length_take_blended] at hbuffers
  unfold effective withPipeline withBlend Pipeline.settled
  rw [p.toNat_min_attachments]
  simp only [EffectiveState.mk.injEq, true_and]
  exact ⟨rfl, rfl, hculled, rfl, rfl, funext hoffset, rfl, rfl, rfl, rfl, rfl, rfl, rfl, rfl,
    hbuffers⟩

/-- A pipeline that is bound already sets nothing anew. -/
theorem withPipeline_withPipeline :
    (s.withPipeline p program).withPipeline p program = s.withPipeline p program := by
  -- what the first time left as it was is left again
  have hculled : ∀ face : Option Face, face.getD (face.getD s.culled) = face.getD s.culled := by
    rintro (_ | face) <;> rfl
  have hkept : ∀ x y : Binary32, (if p.rasterizer.offsetEnabled then x else
      if p.rasterizer.offsetEnabled then x else y) =
        if p.rasterizer.offsetEnabled then x else y := by
    intro x y
    cases p.rasterizer.offsetEnabled <;> rfl
  simp only [withPipeline, withRasterizer, withDepthStencil, withBlend, withAttachments, hculled,
    hkept, FixedState.mk.injEq, true_and]
  funext index
  split
  · exact DrawBufferSettings.withAttachment_withAttachment _ _
  · rfl

end FixedState

/-! ## Tasks that tell the driver something -/

section Tells

variable {δ α β : Type} [GlDriver δ] [Transcribing δ] {w w' w'' : World (GlDevice δ)}
  {cs ds : List GlCommand} {a : α} {b : β}

/-- A task comes to a value in a world, does nothing but calls, and by these the driver is told some
    commands. -/
structure Tells (t : Render (GlDevice δ) α) (w : World (GlDevice δ)) (a : α)
    (cs : List GlCommand) (w' : World (GlDevice δ)) : Prop where
  run : t.run.run w = (.ok a, w')
  called : ∃ calls, w.Called calls w'
  told : w'.told = w.told ++ cs

theorem tells_pure : Tells (pure a) w a [] w :=
  ⟨rfl, ⟨[], .refl w⟩, (List.append_nil _).symm⟩

theorem Tells.bind {t : Render (GlDevice δ) α} {f : α → Render (GlDevice δ) β}
    (ht : Tells t w a cs w') (hf : Tells (f a) w' b ds w'') :
    Tells (t >>= f) w b (cs ++ ds) w'' := by
  obtain ⟨calls, hcalls⟩ := ht.called
  obtain ⟨more, hmore⟩ := hf.called
  refine ⟨?_, ⟨_, hcalls.trans hmore⟩, ?_⟩
  · rw [run_bind, ht.run]
    exact hf.run
  · rw [hf.told, ht.told, List.append_assoc]

theorem Tells.view [Pooled α] {r : Ref α} {f : α → Render (GlDevice δ) β}
    (hget : (Pooled.pool w).get? r = some a) (hf : Tells (f a) w b cs w') :
    Tells (RenderKit.view r >>= f) w b cs w' := by
  refine ⟨?_, hf.called, hf.told⟩
  rw [run_bind, run_view, hget]
  exact hf.run

/-- A request that always comes to the same and tells the driver the same. -/
theorem tells_ask (r : Request) (reply : r.Reply)
    (hserve : ∀ v : GlDevice.Work δ, ∃ v',
      (GlDevice.serve w.device.capabilities r).run.run v = (.ok reply, v') ∧
        v'.told = v.told ++ cs) :
    ∃ w', Tells (ask r) w reply cs w' := by
  obtain ⟨v, hrun, htold⟩ := hserve ⟨w.device.driver, #[]⟩
  have hperform : GraphicsDevice.perform r w.device =
      ⟨some reply, v.notes.toList, { w.device with driver := v.driver }⟩ := by
    show GlDevice.perform r w.device = _
    rw [GlDevice.perform, hrun]
    rfl
  have hreply : (GraphicsDevice.perform r w.device).reply = some reply := by rw [hperform]
  refine ⟨w.asked r, ?_, ⟨_, .asked hreply⟩, ?_⟩
  · rw [run_ask, hreply]
  · show GlDevice.told (GraphicsDevice.perform r w.device).state = _
    rw [hperform]
    exact htold

end Tells

/-! ## Binding -/

/-- A reference to a pipeline whose program is there. -/
structure World.Bindable {σ : Type} (w : World σ) (r : Ref Pipeline) (p : Pipeline)
    (program : ProgramHandle) : Prop where
  pipeline : w.pipelines.get? r = some p
  program : (w.programs.get? p.program).map Program.handle = some program

theorem World.Bindable.called {σ : Type} {w w' : World σ} {calls : List Call} {r : Ref Pipeline}
    {p : Pipeline} {program : ProgramHandle} (h : w.Bindable r p program)
    (hcalled : w.Called calls w') : w'.Bindable r p program :=
  ⟨hcalled.pipelines ▸ h.pipeline, hcalled.programs ▸ h.program⟩

/-- The settings of a driver that began with some. -/
def World.fixedFrom {δ : Type} [GlDriver δ] [Transcribing δ] (s : FixedState)
    (w : World (GlDevice δ)) : FixedState :=
  s.runAll w.told

namespace Pipeline

section Binding

variable {δ : Type} [GlDriver δ] [Transcribing δ] {w w' : World (GlDevice δ)} {r : Ref Pipeline}
  {p : Pipeline} {program : ProgramHandle}

theorem tells_bind (h : w.Bindable r p program) :
    ∃ w', Tells (bind r) w () (p.bindCommands program) w' := by
  obtain ⟨q, hq, rfl⟩ := Option.map_eq_some_iff.mp h.program
  -- each of the five requests comes down to commands alone
  obtain ⟨w₁, h₁⟩ := tells_ask (w := w) (.useProgram (some q.handle)) ()
    fun v => GlDevice.run_tellAll [.useProgram q.handle.raw] v
  obtain ⟨w₂, h₂⟩ := tells_ask (w := w₁) (.bindVertexArray (some p.array)) ()
    fun v => GlDevice.run_tellAll [.bindVertexArray p.array.raw] v
  obtain ⟨w₃, h₃⟩ := tells_ask (w := w₂) (.applyRasterizer p.rasterizer) ()
    fun v => GlDevice.run_tellAll _ v
  obtain ⟨w₄, h₄⟩ := tells_ask (w := w₃) (.applyDepthStencil p.depthStencil) ()
    fun v => GlDevice.run_tellAll _ v
  obtain ⟨w₅, h₅⟩ := tells_ask (w := w₄)
    (.applyBlend p.blend (min p.attachments maxBlendAttachments.toUInt32)) ()
    fun v => GlDevice.run_tellAll _ v
  exact ⟨w₅, .view h.pipeline ((Tells.view hq h₁).bind (h₂.bind (h₃.bind (h₄.bind h₅))))⟩

/-- Bind pipelines one after the other. -/
def bindAll {σ : Type} [GraphicsDevice σ] : List (Ref Pipeline) → Render σ Unit
  | [] => return ()
  | r :: rest => do
      bind r
      bindAll rest

theorem tells_bindAll {rs : List (Ref Pipeline)}
    (h : ∀ r ∈ rs, ∃ p program, w.Bindable r p program) :
    ∃ cs w', Tells (bindAll rs) w () cs w' := by
  induction rs generalizing w with
  | nil => exact ⟨[], w, tells_pure⟩
  | cons r rest ih =>
      obtain ⟨p, program, hr⟩ := h r List.mem_cons_self
      obtain ⟨w₁, h₁⟩ := tells_bind hr
      obtain ⟨calls, hcalls⟩ := h₁.called
      obtain ⟨cs, w₂, h₂⟩ := ih (w := w₁) fun r' hr' => by
        obtain ⟨p', program', h'⟩ := h r' (List.mem_cons_of_mem r hr')
        exact ⟨p', program', h'.called hcalls⟩
      exact ⟨_, w₂, h₁.bind h₂⟩

theorem fixedFrom_bind {s : FixedState} (h : Tells (bind r) w () (p.bindCommands program) w') :
    w'.fixedFrom s = (w.fixedFrom s).withPipeline p program := by
  rw [World.fixedFrom, h.told, FixedState.runAll_append, FixedState.runAll_bindCommands]
  rfl

/-- The last pipeline wins: whatever a driver began with and whatever was bound before, what counts
    afterwards is the same, and to bind it once more changes nothing. It is what the pipeline
    describes, but for references of stencil tests that are too large for a number with a sign. -/
theorem last_bind_wins (s t : FixedState) {v : World (GlDevice δ)} {rs rs' : List (Ref Pipeline)}
    {r' : Ref Pipeline} (hrs : ∀ x ∈ rs, ∃ p program, w.Bindable x p program)
    (hrs' : ∀ x ∈ rs', ∃ p program, v.Bindable x p program) (hr : w.Bindable r p program)
    (hr' : v.Bindable r' p program) :
    ∃ w₁ w₂ v₁,
      (do bindAll rs; bind r : Render (GlDevice δ) Unit).run.run w = (.ok (), w₁) ∧
      (bind r).run.run w₁ = (.ok (), w₂) ∧
      (do bindAll rs'; bind r' : Render (GlDevice δ) Unit).run.run v = (.ok (), v₁) ∧
      (w₁.fixedFrom s).effective p.blended = (v₁.fixedFrom t).effective p.blended ∧
      p.Describes program ((w₁.fixedFrom s).effective p.blended) ∧
      (∀ bits > 0, p.ComparesWith bits ((w₁.fixedFrom s).effective p.blended) ↔
        p.depthStencil.front.reference.toNat < 2 ^ 31 ∧
          p.depthStencil.back.reference.toNat < 2 ^ 31) ∧
      w₂.fixedFrom s = w₁.fixedFrom s := by
  obtain ⟨_, w₀, hall⟩ := tells_bindAll hrs
  obtain ⟨_, v₀, hall'⟩ := tells_bindAll hrs'
  obtain ⟨_, hw₀⟩ := hall.called
  obtain ⟨_, hv₀⟩ := hall'.called
  obtain ⟨w₁, h₁⟩ := tells_bind (hr.called hw₀)
  obtain ⟨v₁, h₁'⟩ := tells_bind (hr'.called hv₀)
  obtain ⟨_, hw₁⟩ := h₁.called
  obtain ⟨w₂, h₂⟩ := tells_bind ((hr.called hw₀).called hw₁)
  have hsettled : (w₁.fixedFrom s).effective p.blended = p.settled program := by
    rw [fixedFrom_bind h₁, FixedState.effective_withPipeline]
  have hsettled' : (v₁.fixedFrom t).effective p.blended = p.settled program := by
    rw [fixedFrom_bind h₁', FixedState.effective_withPipeline]
  refine ⟨w₁, w₂, v₁, (hall.bind h₁).run, h₂.run, (hall'.bind h₁').run,
    hsettled.trans hsettled'.symm, hsettled ▸ p.describes_settled program,
    fun bits hbits => hsettled ▸ p.comparesWith_settled_iff program hbits, ?_⟩
  rw [fixedFrom_bind h₂, fixedFrom_bind h₁, FixedState.withPipeline_withPipeline]

end Binding

/-! ## Three pipelines -/

/-- Filled polygons without their backs are offset. -/
def raised : Rasterizer := { Rasterizer.standard with bias := .one }

/-- The fronts of polygons are tested with a reference. -/
def stenciled (reference : UInt32) : DepthStencil :=
  { DepthStencil.standard with
    stencilTest := true
    front := { StencilFace.standard with reference := reference } }

/-- Lines that are offset and added up, and two pipelines that are tested with a reference. -/
def threePipelines : World (GlDevice GlRecorder) :=
  let make : Render (GlDevice GlRecorder) (Ref Pipeline) := do
    let program ← Program.create .empty {} false [emptyStage]
    let lines := { Rasterizer.wireframe with bias := .one, cull := .none }
    let _ ← create { program := some program, rasterizer := lines, blend := .additive }
    let _ ← create
      { program := some program, rasterizer := raised, depthStencil := stenciled 5 }
    create
      { program := some program, rasterizer := raised, depthStencil := stenciled 0x80000000 }
  (make.run.run (.start .recording)).2

/-- What is known of a pipeline that can be bound. -/
def shape? (r : Ref Pipeline) : Option (Rasterizer × DepthStencil) := do
  let p ← threePipelines.pipelines.get? r
  let _ ← threePipelines.programs.get? p.program
  return (p.rasterizer, p.depthStencil)

theorem exists_bindable (r : Ref Pipeline) (rasterizer : Rasterizer) (depthStencil : DepthStencil)
    (h : shape? r = some (rasterizer, depthStencil)) :
    ∃ p program, p.rasterizer = rasterizer ∧ p.depthStencil = depthStencil ∧
      threePipelines.Bindable r p program := by
  obtain ⟨p, hp, h⟩ := Option.bind_eq_some_iff.mp h
  obtain ⟨q, hq, h⟩ := Option.bind_eq_some_iff.mp h
  obtain ⟨rfl, rfl⟩ := Prod.mk.injEq .. ▸ Option.some_inj.mp h
  exact ⟨p, q.handle, rfl, rfl, hp, by rw [hq]; rfl⟩

/-- After lines were bound, backs are left out, depths are offset, and stencils of eight bits are
    compared with five. -/
theorem last_bind_wins_recording :
    ∃ p program w₁ w₂ v₁, threePipelines.Bindable ⟨1⟩ p program ∧
      (do bindAll [⟨0⟩]; bind ⟨1⟩ : Render (GlDevice GlRecorder) Unit).run.run threePipelines =
        (.ok (), w₁) ∧
      (bind ⟨1⟩).run.run w₁ = (.ok (), w₂) ∧
      (do bindAll []; bind ⟨1⟩ : Render (GlDevice GlRecorder) Unit).run.run threePipelines =
        (.ok (), v₁) ∧
      (w₁.fixedFrom .initial).effective p.blended = (v₁.fixedFrom .initial).effective p.blended ∧
      p.Describes program ((w₁.fixedFrom .initial).effective p.blended) ∧
      w₂.fixedFrom .initial = w₁.fixedFrom .initial ∧
      ((w₁.fixedFrom .initial).effective p.blended).culled = some .back ∧
      ((w₁.fixedFrom .initial).effective p.blended).offset .fill = some (.zero, .one) ∧
      ((w₁.fixedFrom .initial).effective p.blended).offset .line = none ∧
      clampedReference 8
        ((w₁.fixedFrom .initial).effective p.blended).frontStencil.reference.toInt = 5 := by
  obtain ⟨lines, program, -, -, hlines⟩ :=
    exists_bindable ⟨0⟩ { Rasterizer.wireframe with bias := .one, cull := .none } .standard
      (by decide +kernel)
  obtain ⟨p, program', hraised, hstenciled, hp⟩ :=
    exists_bindable ⟨1⟩ raised (stenciled 5) (by decide +kernel)
  obtain ⟨w₁, w₂, v₁, hrun, hagain, hrun', hsame, hdescribes, hreferences, hkept⟩ :=
    last_bind_wins .initial .initial (List.forall_mem_singleton.mpr ⟨lines, program, hlines⟩)
      (List.forall_mem_nil _) hp hp
  have hoffsets : p.rasterizer.Offsets := by
    rw [hraised, Rasterizer.offsets_iff]
    decide
  have hcompares := (hreferences 8 (by decide)).mpr (by rw [hstenciled]; decide)
  refine ⟨p, program', w₁, w₂, v₁, hp, hrun, hagain, hrun', hsame, hdescribes, hkept, ?_, ?_, ?_,
    ?_⟩
  · rw [hdescribes.culled, hraised]
    exact .back
  · rw [hdescribes.offset, hraised]
    exact ⟨hraised ▸ hoffsets, rfl, rfl⟩
  · refine Option.eq_none_iff_forall_ne_some.mpr fun offset hoffset => ?_
    obtain ⟨-, hmode, -⟩ := (hdescribes.offset _ _).mp hoffset
    rw [hraised] at hmode
    cases hmode
  · rw [hcompares.front, hstenciled]
    rfl

/-- Stencils of eight bits should be compared with the largest number there is, and are with zero. -/
theorem stencil_reference_negated :
    ∃ p program w₁, threePipelines.Bindable ⟨2⟩ p program ∧
      (bind ⟨2⟩).run.run threePipelines = (.ok (), w₁) ∧
      clampedReference 8 p.depthStencil.front.reference.toNat = 255 ∧
      clampedReference 8
        ((w₁.fixedFrom .initial).effective p.blended).frontStencil.reference.toInt = 0 := by
  obtain ⟨p, program, -, hstenciled, hp⟩ :=
    exists_bindable ⟨2⟩ raised (stenciled 0x80000000) (by decide +kernel)
  obtain ⟨w₁, h₁⟩ := tells_bind hp
  refine ⟨p, program, w₁, hp, h₁.run, by rw [hstenciled]; rfl, ?_⟩
  rw [fixedFrom_bind h₁, FixedState.effective_withPipeline, settled, hstenciled]
  show clampedReference 8 (stenciled 0x80000000).front.side.reference.toInt = 0
  decide

end Pipeline

end RenderKit
