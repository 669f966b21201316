import RenderKit.Proofs.Clears.Masks
import RenderKit.Proofs.OpenGL.Reference
import RenderKit.Proofs.OpenGL.Sessions

set_option autoImplicit false

/-! # What a pass clears

A clear goes where the masks let it, and nobody opens them before a pass begins. So a pass clears
what it wants to exactly if the states that were applied last happen to leave the way open. -/

namespace RenderKit

/-- Whether nothing of a framebuffer is outside. -/
def ScissorBox.Covers (b : ScissorBox) (width height : UInt32) : Prop :=
  b.x.toInt ≤ 0 ∧ b.y.toInt ≤ 0 ∧ width.toNat ≤ b.x.toInt + b.width.toInt ∧
    height.toNat ≤ b.y.toInt + b.height.toInt

namespace RenderPass

/-- Whether the first color attachment is to be cleared. -/
def ClearsColor (p : RenderPass) : Prop := ∃ ops, p.colors.head? = some ops ∧ ops.load = .clear

/-- A clear reaches everything that a pass wants cleared. -/
structure ClearedBy (p : RenderPass) (k : Clearing) (f : Framebuffer) (window : ScissorBox) :
    Prop where
  color : p.ClearsColor → k.color.isSome ∧ k.masks.color 0 = .full
  depth : p.depthStencil.depthLoad = .clear → k.depth = true ∧ k.masks.depth = true
  stencil : p.depthStencil.stencilLoad = .clear →
    k.stencil = true ∧ k.masks.stencil &&& 0xff = 0xff
  scissor : k.masks.scissor = true → (k.masks.box.getD window).Covers f.width f.height

/-- The states that were applied last keep nothing from being cleared that a pass wants cleared. -/
structure LeftOpenBy (p : RenderPass) (calls : List Call) (f : Framebuffer) (window : ScissorBox) :
    Prop where
  color : p.ClearsColor →
    ∀ mask, Calls.last? Request.colorMask? calls = some mask → mask = .full
  depth : p.depthStencil.depthLoad = .clear →
    ∀ on, Calls.last? Request.depthMask? calls = some on → on = true
  stencil : p.depthStencil.stencilLoad = .clear →
    ∀ mask, Calls.last? Request.stencilMask? calls = some mask → mask &&& 0xff = 0xff
  scissor : Calls.last? Request.scissorTest? calls = some true →
    ((Calls.last? Request.scissorBox? calls).getD window).Covers f.width f.height

/-- The clear that a pass begins with. -/
def clearing (p : RenderPass) (f : Framebuffer) (t : Trace) : Clearing where
  color := p.clearRequest.color
  depth := p.clearRequest.depth.isSome
  stencil := p.clearRequest.stencil.isSome
  masks := t.masks
  framebuffer := Handle.rawOf f.handle
  drawBuffers := t.drawBuffers (Handle.rawOf f.handle)

variable {p : RenderPass} {f : Framebuffer} {t : Trace} {window : ScissorBox}
  {calls : List Call}

theorem color_clearing (h : p.ClearsColor) : (p.clearing f t).color.isSome := by
  obtain ⟨ops, hhead, hload⟩ := h
  have hmem : ops ∈ p.colors := List.mem_of_mem_head? hhead
  simp only [clearing, clearRequest, Option.isSome_map, List.find?_isSome]
  exact ⟨ops, hmem, by simp [hload]⟩

theorem depth_clearing (h : p.depthStencil.depthLoad = .clear) :
    (p.clearing f t).depth = true := by
  simp [clearing, clearRequest, h]

theorem stencil_clearing (h : p.depthStencil.stencilLoad = .clear) :
    (p.clearing f t).stencil = true := by
  simp [clearing, clearRequest, h]

/-- A condition on what was said last, if what holds without it is fine. -/
theorem getD_iff {α : Type} {q : α → Prop} {said : Option α} {a : α} (ha : q a) :
    q (said.getD a) ↔ ∀ b, said = some b → q b := by
  rcases said with _ | b
  · simpa using ha
  · simp

/-- What was left open is cleared, and nothing else. -/
theorem clearedBy_iff :
    p.ClearedBy (p.clearing f (Calls.trace calls)) f window ↔ p.LeftOpenBy calls f window := by
  -- each part of the masks is what was said last, and open if nothing was said
  have hcolor : (p.clearing f (Calls.trace calls)).masks.color 0 = .full ↔
      ∀ mask, Calls.last? Request.colorMask? calls = some mask → mask = .full := by
    show (Calls.trace calls).masks.color 0 = .full ↔ _
    rw [Calls.color_trace]
    exact getD_iff (q := fun mask : WriteMask => mask = .full) rfl
  have hdepth : (p.clearing f (Calls.trace calls)).masks.depth = true ↔
      ∀ on, Calls.last? Request.depthMask? calls = some on → on = true := by
    show (Calls.trace calls).masks.depth = true ↔ _
    rw [Calls.depth_trace]
    exact getD_iff (q := fun on => on = true) rfl
  have hstencil : (p.clearing f (Calls.trace calls)).masks.stencil &&& 0xff = 0xff ↔
      ∀ mask, Calls.last? Request.stencilMask? calls = some mask → mask &&& 0xff = 0xff := by
    show (Calls.trace calls).masks.stencil &&& 0xff = 0xff ↔ _
    rw [Calls.stencil_trace]
    exact getD_iff (q := fun mask : UInt32 => mask &&& 0xff = 0xff) (by decide)
  have htest : (p.clearing f (Calls.trace calls)).masks.scissor = true ↔
      Calls.last? Request.scissorTest? calls = some true := by
    show (Calls.trace calls).masks.scissor = true ↔ _
    rw [Calls.scissor_trace]
    rcases Calls.last? Request.scissorTest? calls with _ | _ | _ <;> simp
  have hbox : (p.clearing f (Calls.trace calls)).masks.box.getD window =
      (Calls.last? Request.scissorBox? calls).getD window :=
    Calls.box_trace window calls
  constructor
  · intro h
    refine ⟨fun hc => hcolor.mp (h.color hc).2, fun hd => hdepth.mp (h.depth hd).2,
      fun hs => hstencil.mp (h.stencil hs).2, fun ht => ?_⟩
    rw [← hbox]
    exact h.scissor (htest.mpr ht)
  · intro h
    refine ⟨fun hc => ⟨color_clearing hc, hcolor.mpr (h.color hc)⟩,
      fun hd => ⟨depth_clearing hd, hdepth.mpr (h.depth hd)⟩,
      fun hs => ⟨stencil_clearing hs, hstencil.mpr (h.stencil hs)⟩, fun ht => ?_⟩
    rw [hbox]
    exact h.scissor (htest.mp ht)

end RenderPass

/-! ## Passes that begin -/

/-- A pass that begins leaves one clear behind if it wants anything cleared, with the masks as they
    were before. -/
def RenderPass.BeganIn {σ : Type} (p : RenderPass) (w w' : World σ) : Prop :=
  ∃ f, w.framebuffers.get? p.framebuffer = some f ∧
    (Calls.trace w'.history).clears = (Calls.trace w.history).clears ++
      if p.clearRequest.isEmpty then [] else [p.clearing f (Calls.trace w.history)]

theorem CommandBuffer.runs_beginPass_clear {σ : Type} [GraphicsDevice σ] {w : World σ}
    {E : World σ → Prop} {c : CommandBuffer} {p : RenderPass} (hidle : c.target = none) :
    Runs (c.beginPass p) w (fun _ w' => p.BeganIn w w') E := by
  have hactive : c.target.isSome = false := by simp [hidle]
  simp only [beginPass, hactive]
  refine Runs.bind (Runs.bind runs_view ?_) ?_ (P := fun _ w' => ∃ f,
    w.framebuffers.get? p.framebuffer = some f ∧
      w' = (w.asked (.bindFramebuffer f.handle)).asked (.setViewport (.whole f.width f.height)))
  · rintro f w ⟨rfl, hf⟩
    refine Runs.bind runs_ask ?_
    rintro - _ ⟨rfl, -⟩
    exact runs_ask.imp fun _ _ h => ⟨f, hf, h.1⟩
  · rintro - _ ⟨f, hf, rfl⟩
    by_cases hnone : p.clearRequest.isEmpty
    · simp only [hnone]
      refine Runs.bind_modify (Runs.pure ⟨f, hf, ?_⟩)
      show (Calls.trace (World.asked _ _).history).clears = _
      rw [World.trace_asked, World.trace_asked, if_pos hnone]
      simp [Trace.after]
    · simp only [hnone]
      refine Runs.bind runs_ask ?_
      rintro - _ ⟨rfl, -⟩
      refine Runs.bind_modify (Runs.pure ⟨f, hf, ?_⟩)
      show (Calls.trace (World.asked _ _).history).clears = _
      rw [World.trace_asked, World.trace_asked, World.trace_asked, if_neg hnone]
      simp [Trace.after, Request.deleted, hnone, RenderPass.clearing]

namespace Session

theorem runs_beginPass [Toolchain] [ImageCodec] {σ : Type} [InstrumentedDevice σ] {s : State σ}
    {name other : Name}
    {c : CommandBuffer} {p : RenderPass} (hc : s.objects.lookup name = some (.commands c))
    (hp : s.objects.lookup other = some (.pass p)) (hidle : c.target = none) :
    Runs (play (.command name (.beginPass other))) s
      (fun _ s' => p.BeganIn s.world s'.world) (fun _ => True) := by
  refine runs_playCommand (Q := p.BeganIn s.world) (E := fun _ => True) trivial hc ?_
  refine Runs.bind_same (runs_passNamed trivial) fun p' hp' => ?_
  rw [hp] at hp'
  cases hp'
  exact Runs.pure ⟨rfl, CommandBuffer.runs_beginPass_clear hidle⟩

section Clears

variable {δ : Type} [RecordingDriver δ] [Conforming δ] {device : GlDevice δ} {files : Files}
  {s s' : State (GlDevice δ)} {name other : Name} {c : CommandBuffer} {p : RenderPass}
  {answer : Answer}

/-- What the driver is told to clear when a pass begins. -/
theorem clears_beginPass [Toolchain] [ImageCodec] (hdevice : device.context.trace = .start)
    (hs : ReachedBy device files Action.Genuine s)
    (hc : s.objects.lookup name = some (.commands c))
    (hp : s.objects.lookup other = some (.pass p)) (hidle : c.target = none)
    (hrun : (play (.command name (.beginPass other))).run.run s = (.ok answer, s')) :
    ∃ f, s.world.framebuffers.get? p.framebuffer = some f ∧
      s'.world.device.context.clears = s.world.device.context.clears ++
        if p.clearRequest.isEmpty then [] else [p.clearing f (Calls.trace s.world.history)] := by
  have hs' : ReachedBy device files Action.Genuine s' :=
    hs.act (a := .step (.command name (.beginPass other))) trivial hrun (by simp)
  have hbefore := mirrors_of_reached hdevice hs
  have hafter := mirrors_of_reached hdevice hs'
  obtain ⟨f, hf, hclear⟩ := of_runs (runs_beginPass hc hp hidle) hrun (by simp)
  refine ⟨f, hf, ?_⟩
  show s'.world.device.context.trace.clears = s.world.device.context.trace.clears ++ _
  rw [hafter.trace, hbefore.trace]
  exact hclear

/-- What a pass clears. Whatever a session has done before, a pass that begins leads to one clear,
    and this clears what the pass wants cleared if and only if the states that were applied last
    left it open: the pass itself opens nothing. -/
theorem pass_cleared_iff [Toolchain] [ImageCodec] (hdevice : device.context.trace = .start)
    (hs : ReachedBy device files Action.Genuine s)
    (hc : s.objects.lookup name = some (.commands c))
    (hp : s.objects.lookup other = some (.pass p)) (hidle : c.target = none)
    (hclears : p.clearRequest.isEmpty = false)
    (hrun : (play (.command name (.beginPass other))).run.run s = (.ok answer, s')) :
    ∃ f k, s.world.framebuffers.get? p.framebuffer = some f ∧
      s'.world.device.context.clears = s.world.device.context.clears ++ [k] ∧
      ∀ window, p.ClearedBy k f window ↔ p.LeftOpenBy s.world.history f window := by
  obtain ⟨f, hf, hclear⟩ := clears_beginPass hdevice hs hc hp hidle hrun
  rw [if_neg (by simp [hclears])] at hclear
  exact ⟨f, p.clearing f (Calls.trace s.world.history), hf, hclear,
    fun window => RenderPass.clearedBy_iff⟩

end Clears

/-! ## Two sessions -/

/-- A session that has a pass over the window, and a command buffer with a pipeline bound. -/
def prepared (depthStencil : DepthStencil) : State (GlDevice GlReference) :=
  actAll
    [.step (.make "w" (.defaultTarget 4 4)), .step (.make "b" (.pass "w" .start)),
     .step (.make "p" (.program none none false [.input emptyStage])),
     .step (.make "l" (.pipeline none [.program "p", .depthStencil depthStencil])),
     .step (.make "c" (.commands .report)), .step (.command "c" (.setPipeline "l"))]
    { world := .start .reference, objects := [], files := .empty }

def preparedPass : RenderPass := ⟨⟨0⟩, [.standard], .standard⟩

def preparedCommands : CommandBuffer := ⟨.report, false, some ⟨0⟩, some ⟨0⟩, none⟩

/-- The pass has begun. -/
def begun (depthStencil : DepthStencil) : Except Refusal Answer × State (GlDevice GlReference) :=
  (play (.command "c" (.beginPass "b"))).run.run (prepared depthStencil)

set_option maxRecDepth 2000 in
/-- A pass after a pipeline that writes to everything. -/
theorem pass_cleared_reference :
    ∃ f k, ReachedBy .reference .empty Action.Genuine (prepared .standard) ∧
      (begun .standard).2.world.device.context.clears =
        (prepared .standard).world.device.context.clears ++ [k] ∧
      ∀ window, preparedPass.ClearedBy k f window := by
  have hs : ReachedBy .reference .empty Action.Genuine (prepared .standard) := by
    refine ReachedBy.start.of_allOk ?_ (by decide +kernel)
    simp [Action.Genuine, Action.Public, Recipe.Named]
  have hok : (begun .standard).1.isOk := by decide +kernel
  rcases hrun : begun .standard with ⟨e | answer, s'⟩
  · rw [hrun] at hok
    cases hok
  · obtain ⟨f, k, -, hk, hiff⟩ := pass_cleared_iff (c := preparedCommands) (p := preparedPass) rfl
      hs (lookup_of_commands? (by decide +kernel)) (lookup_of_pass? (by decide +kernel)) rfl
      (by decide) hrun
    have hcolor : Calls.last? Request.colorMask? (prepared .standard).world.history =
      some .full := by decide +kernel
    have hdepth : Calls.last? Request.depthMask? (prepared .standard).world.history =
      some true := by decide +kernel
    have hscissor : Calls.last? Request.scissorTest? (prepared .standard).world.history =
      some false := by decide +kernel
    refine ⟨f, k, hs, hk, fun window => (hiff window).mpr ⟨?_, ?_, ?_, ?_⟩⟩
    · intro _ mask hmask
      rw [hcolor] at hmask
      exact (Option.some.inj hmask).symm
    · intro _ on hon
      rw [hdepth] at hon
      exact (Option.some.inj hon).symm
    · intro hclear
      cases hclear
    · intro htest
      rw [hscissor] at htest
      cases htest

set_option maxRecDepth 2000 in
/-- After a pipeline that does not write depths, a pass does not clear them. -/
theorem depth_clear_lost :
    ReachedBy .reference .empty Action.Genuine (prepared .readOnly) ∧
      (prepared .readOnly).objects.lookup "c" = some (.commands preparedCommands) ∧
      (prepared .readOnly).objects.lookup "b" = some (.pass preparedPass) ∧
      preparedPass.depthStencil.depthLoad = .clear ∧
      (begun .readOnly).1.isOk ∧
      (prepared .readOnly).world.device.context.clears = [] ∧
      (begun .readOnly).2.world.device.context.clears.map (fun k => (k.depth, k.masks.depth)) =
        [(true, false)] := by
  have hs : ReachedBy .reference .empty Action.Genuine (prepared .readOnly) := by
    refine ReachedBy.start.of_allOk ?_ (by decide +kernel)
    simp [Action.Genuine, Action.Public, Recipe.Named]
  refine ⟨hs, lookup_of_commands? ?_, lookup_of_pass? ?_, rfl, ?_, List.isEmpty_iff.mp ?_, ?_⟩
  all_goals decide +kernel

end Session

end RenderKit
