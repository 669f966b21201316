import RenderKit.Proofs.Commands.Failures
import RenderKit.Proofs.Ledger.Sessions

set_option autoImplicit false

/-! # Resources of a session

Most of what a session does leaves the names alone, and whatever it does, references to buffers,
textures and samplers lead to what they led to. So what is true of every new object, and stays true as
long as such references lead where they did, is true of all objects of a session at all times. -/

namespace RenderKit.Session

section Rules

variable {σ α β : Type} {s s' s'' : State σ}

/-- A session at a later time, with the same objects under the same names. -/
structure Onward (s s' : State σ) : Prop where
  objects : s'.objects = s.objects
  world : s.world.Later s'.world

theorem Onward.refl (s : State σ) : Onward s s := ⟨rfl, .refl _⟩

theorem Onward.trans (h : Onward s s') (h' : Onward s' s'') : Onward s s'' :=
  ⟨h'.objects.trans h.objects, h.world.trans h'.world⟩

/-- A task that leaves the names alone. -/
def Idle (t : Play σ α) : Prop := ∀ s, Runs t s (fun _ => Onward s) (Onward s)

theorem idle_pure (a : α) : Idle (pure a : Play σ α) := fun s => Runs.pure (.refl s)

theorem idle_throw (e : Refusal) : Idle (throw e : Play σ α) := fun s => Runs.throw (.inr (.refl s))

theorem Idle.bind {t : Play σ α} {f : α → Play σ β} (ht : Idle t) (hf : ∀ a, Idle (f a)) :
    Idle (t >>= f) := by
  intro s
  refine Runs.bind (ht s) fun a s₁ h₁ => ?_
  exact (hf a s₁).mono (fun _ _ h => h₁.trans h) fun _ h => h₁.trans h

theorem Idle.get {f : State σ → Play σ β} (hf : ∀ s, Idle (f s)) : Idle (get >>= f) :=
  fun s => Runs.bind_get (hf s s)

theorem idle_inWorld {t : Render σ α} (ht : Lasting True t) : Idle (inWorld t) := by
  refine fun s => (runs_inWorld (ht s.world)).mono ?_ ?_
  · rintro a s' ⟨hs', hlater⟩
    exact ⟨by rw [hs'], hlater⟩
  · rintro s' ⟨hs', -, hlater⟩
    exact ⟨by rw [hs'], hlater⟩

theorem idle_view [Pooled α] (r : Ref α) : Idle (inWorld (view r) : Play σ α) :=
  idle_inWorld (lasting_view r)

end Rules

variable {σ : Type} {name : Name}

/-! ## Names -/

section Names

theorem idle_object : Idle (object name : Play σ Object) :=
  Idle.get fun s => by
    split
    · exact idle_pure _
    · exact idle_throw _

theorem idle_bufferNamed : Idle (bufferNamed name : Play σ (Ref Buffer)) :=
  idle_object.bind fun o => by cases o <;> first | exact idle_pure _ | exact idle_throw _

theorem idle_textureNamed : Idle (textureNamed name : Play σ (Ref Texture)) :=
  idle_object.bind fun o => by cases o <;> first | exact idle_pure _ | exact idle_throw _

theorem idle_samplerNamed : Idle (samplerNamed name : Play σ (Ref Sampler)) :=
  idle_object.bind fun o => by cases o <;> first | exact idle_pure _ | exact idle_throw _

theorem idle_attachmentNamed : Idle (attachmentNamed name : Play σ Attachment) :=
  idle_object.bind fun o => by cases o <;> first | exact idle_pure _ | exact idle_throw _

theorem idle_framebufferNamed : Idle (framebufferNamed name : Play σ (Ref Framebuffer)) :=
  idle_object.bind fun o => by cases o <;> first | exact idle_pure _ | exact idle_throw _

theorem idle_layoutNamed : Idle (layoutNamed name : Play σ VertexLayout) :=
  idle_object.bind fun o => by cases o <;> first | exact idle_pure _ | exact idle_throw _

theorem idle_programNamed : Idle (programNamed name : Play σ (Ref Program)) :=
  idle_object.bind fun o => by cases o <;> first | exact idle_pure _ | exact idle_throw _

theorem idle_pipelineNamed : Idle (pipelineNamed name : Play σ (Ref Pipeline)) :=
  idle_object.bind fun o => by cases o <;> first | exact idle_pure _ | exact idle_throw _

theorem idle_passNamed : Idle (passNamed name : Play σ RenderPass) :=
  idle_object.bind fun o => by cases o <;> first | exact idle_pure _ | exact idle_throw _

theorem idle_meshNamed : Idle (meshNamed name : Play σ Mesh) :=
  idle_object.bind fun o => by cases o <;> first | exact idle_pure _ | exact idle_throw _

theorem idle_materialNamed : Idle (materialNamed name : Play σ Material) :=
  idle_object.bind fun o => by cases o <;> first | exact idle_pure _ | exact idle_throw _

theorem idle_contextNamed : Idle (contextNamed name : Play σ RenderContext) :=
  idle_object.bind fun o => by cases o <;> first | exact idle_pure _ | exact idle_throw _

theorem idle_commandsNamed : Idle (commandsNamed name : Play σ CommandBuffer) :=
  idle_object.bind fun o => by cases o <;> first | exact idle_pure _ | exact idle_throw _

end Names

/-! ## Making -/

section Plans

theorem idle_attachmentPlan (a : Attachment) (settings : List AttachmentSetting) :
    Idle (attachmentPlan a settings : Play σ Attachment) := by
  induction settings generalizing a with
  | nil => exact idle_pure _
  | cons setting rest ih =>
    cases setting with
    | format f => exact ih _
    | texture name => exact idle_textureNamed.bind fun r => (idle_view r).bind fun _ => ih _

theorem idle_framebufferPlan (p : FramebufferPlan) (settings : List TargetSetting) :
    Idle (framebufferPlan p settings : Play σ FramebufferPlan) := by
  induction settings generalizing p with
  | nil => exact idle_pure _
  | cons setting rest ih =>
    cases setting with
    | color name | depth name | depthStencil name => exact idle_attachmentNamed.bind fun _ => ih _

theorem idle_stageInputs [Toolchain] (settings : List StageSetting) :
    Idle (stageInputs settings : Play σ (List StageInput)) := by
  induction settings with
  | nil => exact idle_pure _
  | cons setting rest ih =>
    cases setting with
    | input i => exact ih.bind fun _ => idle_pure _
    | compiled stage origin source =>
      exact (idle_inWorld (quiet_compile _ _ _).lasting).bind fun _ => ih.bind fun _ => idle_pure _

theorem idle_pipelinePlan (p : PipelinePlan) (settings : List PipelineSetting) :
    Idle (pipelinePlan p settings : Play σ PipelinePlan) := by
  induction settings generalizing p with
  | nil => exact idle_pure _
  | cons setting rest ih =>
    cases setting with
    | program name => exact idle_programNamed.bind fun _ => ih _
    | layout name => exact idle_layoutNamed.bind fun _ => ih _
    | vertexBuffer name | indexBuffer name => exact idle_bufferNamed.bind fun _ => ih _
    | topology _ | rasterizer _ | depthStencil _ | blend _ | attachments _ => exact ih _

theorem idle_meshPlan (p : MeshPlan) (settings : List MeshSetting) :
    Idle (meshPlan p settings : Play σ MeshPlan) := by
  induction settings generalizing p with
  | nil => exact idle_pure _
  | cons setting rest ih =>
    cases setting with
    | vertexBuffer name | indexBuffer name => exact idle_bufferNamed.bind fun _ => ih _
    | layout name => exact idle_layoutNamed.bind fun _ => ih _
    | topology _ | vertexCount _ | indexCount _ => exact ih _

theorem idle_materialPlan (p : MaterialPlan) (settings : List MaterialSetting) :
    Idle (materialPlan p settings : Play σ MaterialPlan) := by
  induction settings generalizing p with
  | nil => exact idle_pure _
  | cons setting rest ih =>
    cases setting with
    | program name => exact idle_programNamed.bind fun _ => ih _
    | texture slot name => exact idle_textureNamed.bind fun _ => ih _
    | sampler slot name => exact idle_samplerNamed.bind fun _ => ih _
    | uniform _ _ | removeTexture _ => exact ih _

theorem idle_programOptions (context : Option Name) (own : Option CompileOptions) :
    Idle (programOptions context own : Play σ CompileOptions) := by
  cases context with
  | none => exact idle_pure _
  | some name => exact idle_contextNamed.bind fun _ => idle_pure _

end Plans

variable [InstrumentedDevice σ]

/-- An object is made without a name. -/
theorem idle_make [Toolchain] [ImageCodec] (recipe : Recipe) : Idle (make recipe : Play σ Object)
    := by
  -- first a plan, from what names stand for, then the object
  cases recipe with
  | buffer kind usage size data =>
    exact (idle_inWorld (Buffer.lasting_create _ _ _ _)).bind fun _ => idle_pure _
  | texture desc data =>
    exact Idle.get fun _ =>
      (idle_inWorld (Texture.lasting_create _ _)).bind fun _ => idle_pure _
  | image path data srgb mipmaps =>
    exact Idle.get fun _ =>
      (idle_inWorld (Texture.lasting_ofFile _ _ _ _)).bind fun _ => idle_pure _
  | sampler desc => exact (idle_inWorld (Sampler.lasting_create _)).bind fun _ => idle_pure _
  | attachment start settings =>
    exact (idle_attachmentPlan _ _).bind fun _ =>
      (idle_inWorld (Attachment.lasting_accepted _)).bind fun _ => idle_pure _
  | defaultTarget width height =>
    exact (idle_inWorld (Framebuffer.lasting_defaultTarget _ _)).bind fun _ => idle_pure _
  | framebuffer width height settings =>
    exact (idle_framebufferPlan _ _).bind fun _ =>
      (idle_inWorld (Framebuffer.lasting_create _)).bind fun _ => idle_pure _
  | layout attributes stride =>
    exact (idle_inWorld (VertexLayout.quiet_make _ _).lasting).bind fun _ => idle_pure _
  | program context own reflected stages =>
    refine (idle_programOptions _ _).bind fun _ => (idle_stageInputs _).bind fun _ => ?_
    exact Idle.get fun _ =>
      (idle_inWorld (Program.lasting_create _ _ _ _)).bind fun _ => idle_pure _
  | pipeline mesh settings =>
    have hrest : ∀ start : PipelinePlan, Idle (do
        let plan ← pipelinePlan start settings
        return .pipeline (← inWorld (Pipeline.create plan)) : Play σ Object) := fun _ =>
      (idle_pipelinePlan _ _).bind fun _ =>
        (idle_inWorld (Pipeline.lasting_create _)).bind fun _ => idle_pure _
    cases mesh with
    | none => exact hrest {}
    | some name => exact idle_meshNamed.bind fun m => hrest m.pipelinePlan
  | pass framebuffer plan =>
    exact idle_framebufferNamed.bind fun _ =>
      (idle_inWorld (RenderPass.lasting_create _ _)).bind fun _ => idle_pure _
  | mesh settings =>
    exact (idle_meshPlan _ _).bind fun _ =>
      (idle_inWorld (Mesh.lasting_create _)).bind fun _ => idle_pure _
  | material settings =>
    exact (idle_materialPlan _ _).bind fun _ =>
      (idle_inWorld (Material.lasting_create _)).bind fun _ => idle_pure _
  | context config =>
      exact (idle_inWorld (RenderContext.lasting_create _)).bind fun _ => idle_pure _
  | commands validation => exact idle_pure _
  | contextCommands context => exact idle_contextNamed.bind fun _ => idle_pure _

/-! ## Using -/

theorem lasting_discard (o : Object) : Lasting True (discard o : Render σ Unit) := by
  cases o with
  | buffer r => exact lasting_release r
  | texture r => exact lasting_release r
  | sampler r => exact lasting_release r
  | attachment a => exact a.lasting_discard
  | framebuffer r => exact lasting_release r
  | layout l => exact lasting_pure _
  | program r => exact lasting_release r
  | pipeline r => exact lasting_release r
  | pass p => exact p.lasting_discard
  | mesh m => exact m.lasting_discard
  | material m => exact m.lasting_discard
  | context c => exact c.lasting_discard
  | commands c => exact c.lasting_discard

theorem lasting_info (o : Object) : Lasting True (info o : Render σ Info) :=
  fun w => runs_info.imp fun _ _ h => h ▸ .refl w

theorem idle_info (o : Object) :
    Idle (do return .info (← inWorld (info o)) : Play σ Answer) :=
  (idle_inWorld (lasting_info o)).bind fun _ => idle_pure _

theorem idle_bind (o : Object) (slot : UInt32) : Idle (bind o slot : Play σ Unit) := by
  unfold bind
  cases o with
  | buffer r => exact idle_inWorld (Buffer.lasting_bind r)
  | texture r => exact idle_inWorld (Texture.lasting_bind r slot)
  | sampler r => exact idle_inWorld (Sampler.lasting_bind r slot)
  | framebuffer r => exact idle_inWorld (Framebuffer.lasting_bind r)
  | program r => exact idle_inWorld (Program.lasting_bind r)
  | pipeline r => exact idle_inWorld (Pipeline.lasting_bind r)
  | _ => exact idle_throw _

theorem idle_unbind (o : Object) (slot : UInt32) : Idle (unbind o slot : Play σ Unit) := by
  unfold unbind
  cases o with
  | buffer r => exact idle_inWorld (Buffer.lasting_unbind r)
  | texture r => exact idle_inWorld (Texture.lasting_unbind slot)
  | sampler r => exact idle_inWorld (Sampler.lasting_unbind slot)
  | framebuffer r => exact idle_inWorld Framebuffer.lasting_unbind
  | program r => exact idle_inWorld Program.lasting_unbind
  | pipeline r => exact idle_inWorld Pipeline.lasting_unbind
  | _ => exact idle_throw _

omit [InstrumentedDevice σ] in
theorem idle_holdObject (o : Object) : Idle (holdObject o : Play σ Unit) := by
  unfold holdObject
  cases o with
  | buffer r => exact idle_inWorld (lasting_hold r)
  | texture r => exact idle_inWorld (lasting_hold r)
  | sampler r => exact idle_inWorld (lasting_hold r)
  | framebuffer r => exact idle_inWorld (lasting_hold r)
  | program r => exact idle_inWorld (lasting_hold r)
  | pipeline r => exact idle_inWorld (lasting_hold r)
  | _ => exact idle_throw _

omit [InstrumentedDevice σ] in
theorem idle_replyAnswer (r : Request) (reply : r.Reply) :
    Idle (replyAnswer r reply : Play σ Answer) := by
  unfold replyAnswer
  extract_lets ofHandle
  have hofHandle : ∀ {kind : ObjectKind} (h : Except Error (Handle kind)), Idle (ofHandle h) := by
    rintro kind (e | h)
    · exact idle_throw _
    · exact idle_pure _
  cases r with
  | createBuffer | createTexture | createSampler | createFramebuffer | compileShader | linkProgram
  | createVertexArray => exact hofHandle reply
  | writeBuffer =>
    rcases (reply : Except Error Unit) with e | _
    · exact idle_throw _
    · exact idle_pure _
  | readBuffer =>
    rcases (reply : Except Error (List UInt8)) with e | bytes
    · exact idle_throw _
    · exact idle_pure _
  | _ => exact idle_pure _

omit [InstrumentedDevice σ] in
theorem idle_command (k : Command) : Idle (command k : Play σ Instruction) := by
  cases k with
  | beginPass name => exact idle_passNamed.bind fun _ => idle_pure _
  | setPipeline name => exact idle_pipelineNamed.bind fun _ => idle_pure _
  | setTexture slot name => exact idle_textureNamed.bind fun _ => idle_pure _
  | setSampler slot name => exact idle_samplerNamed.bind fun _ => idle_pure _
  | bindUniformBuffer binding name => exact idle_bufferNamed.bind fun _ => idle_pure _
  | setVertexBuffer name | setIndexBuffer name => exact idle_bufferNamed.bind fun _ => idle_pure _
  | drawMesh name => exact idle_meshNamed.bind fun _ => idle_pure _
  | _ => exact idle_pure _

theorem idle_applyState [Toolchain] [ImageCodec] (rasterizer : Option Rasterizer)
    (depthStencil : Option DepthStencil) (blend : Option (Blend × UInt32)) :
    Idle (play (.applyState rasterizer depthStencil blend) : Play σ Answer) := by
  have hblend : Idle (play (.applyState none none blend) : Play σ Answer) := by
    rcases blend with _ | ⟨b, count⟩
    · exact idle_pure _
    · exact (idle_inWorld (lasting_ask _)).bind fun _ => idle_pure _
  have hdepthStencil : Idle (play (.applyState none depthStencil blend) : Play σ Answer) := by
    rcases depthStencil with _ | d
    · exact hblend
    · exact (idle_inWorld (lasting_ask (.applyDepthStencil d))).bind fun _ => hblend
  rcases rasterizer with _ | r
  · exact hdepthStencil
  · exact (idle_inWorld (lasting_ask (.applyRasterizer r))).bind fun _ => hdepthStencil

omit [InstrumentedDevice σ] in
theorem idle_debugText (o : Object) : Idle (debugText o : Play σ String) :=
  fun s => (runs_debugText (.refl s)).imp fun _ _ h => h ▸ .refl s

omit [InstrumentedDevice σ] in
theorem idle_getMaterial (m : Material) (query : MaterialQuery) :
    Idle (getMaterial m query : Play σ Answer) :=
  fun s => runs_getMaterial.imp fun _ _ h => h ▸ .refl s

/-! ## What lasts -/

/-- What is true of every new object, and stays true of it. -/
structure Enduring [Toolchain] [ImageCodec] (P : Object → World σ → Prop) : Prop where
  later : ∀ {o : Object} {w w' : World σ}, P o w → w.Later w' → P o w'
  made : ∀ (recipe : Recipe) (s : State σ),
    Runs (make recipe) s (fun o s' => P o s'.world) fun _ => True
  /-- Materials and command buffers are changed by steps that make nothing. -/
  material : ∀ (m : Material) (w : World σ), P (.material m) w
  commands : ∀ (c : CommandBuffer) (w : World σ), P (.commands c) w

/-- It is true of all objects of a session. -/
def Holds (P : Object → World σ → Prop) (s : State σ) : Prop := ∀ e ∈ s.objects, P e.2 s.world

def Keeps (P : Object → World σ → Prop) {α : Type} (t : Play σ α) : Prop :=
  ∀ s, Holds P s → Runs t s (fun _ => Holds P) (Holds P)

section Enduring

variable {P : Object → World σ → Prop} {α β : Type} {s s' : State σ}

omit [InstrumentedDevice σ] in
theorem Keeps.bind {t : Play σ α} {f : α → Play σ β} (ht : Keeps P t) (hf : ∀ a, Keeps P (f a)) :
    Keeps P (t >>= f) :=
  fun s hs => Runs.bind (ht s hs) fun a s' hs' => hf a s' hs'

omit [InstrumentedDevice σ] in
theorem holds_put (hs : Holds P s) {name : Name} {o : Object} (ho : P o s.world) :
    Holds P { s with objects := put s.objects name o } := by
  intro e he
  rcases mem_of_mem_put he with rfl | he
  · exact ho
  · exact hs e he

omit [InstrumentedDevice σ] in
theorem keeps_update (name : Name) {o : Object} (ho : ∀ w, P o w) : Keeps P (update name o) :=
  fun _ hs => Runs.modify (holds_put hs (ho _))

namespace Enduring

theorem onward [Toolchain] [ImageCodec] (hP : Enduring P) (hs : Holds P s) (h : Onward s s')
    : Holds P s' := by
  intro e he
  rw [h.objects] at he
  exact hP.later (hs e he) h.world

theorem keeps [Toolchain] [ImageCodec] (hP : Enduring P) {t : Play σ α} (ht : Idle t) : Keeps P t :=
  fun s hs => (ht s).mono (fun _ _ h => hP.onward hs h) fun _ h => hP.onward hs h

theorem runs_assign [Toolchain] [ImageCodec] (hP : Enduring P) (hs : Holds P s) {name : Name}
    {o : Object} (ho : P o s.world) : Runs (assign name o) s (fun _ => Holds P) (Holds P) := by
  refine Runs.bind_get (Runs.bind_modify ?_)
  have hput : Holds P { s with objects := put s.objects name o } := holds_put hs ho
  split
  · exact hP.keeps (idle_inWorld (lasting_discard _)) _ hput
  · exact Runs.pure hput

theorem keeps_setMaterial [Toolchain] [ImageCodec] (hP : Enduring P) (name : Name)
    (setting : MaterialSetting) :
    Keeps P (setMaterial name setting : Play σ Answer) := by
  have hexchange : ∀ t : Render σ Material, Lasting True t →
      Keeps P (do
        update name (.material (← inWorld t))
        return .nothing : Play σ Answer) := fun t ht =>
    (hP.keeps (idle_inWorld ht)).bind fun m =>
      (keeps_update name (hP.material m)).bind fun _ => hP.keeps (idle_pure _)
  cases setting with
  | program part =>
    exact (hP.keeps idle_programNamed).bind fun r => (hP.keeps idle_materialNamed).bind fun m =>
      hexchange _ (m.lasting_setProgram r)
  | uniform key value =>
    exact (hP.keeps idle_materialNamed).bind fun m =>
      (keeps_update name (hP.material _)).bind fun _ => hP.keeps (idle_pure _)
  | texture slot part =>
    exact (hP.keeps idle_textureNamed).bind fun r => (hP.keeps idle_materialNamed).bind fun m =>
      hexchange _ (m.lasting_setTexture slot r)
  | sampler slot part =>
    exact (hP.keeps idle_samplerNamed).bind fun r => (hP.keeps idle_materialNamed).bind fun m =>
      hexchange _ (m.lasting_setSampler slot r)
  | removeTexture slot =>
    refine (hP.keeps idle_materialNamed).bind fun m => ?_
    refine Keeps.bind (keeps_update name (hP.material _)) fun _ => ?_
    split
    · exact hP.keeps (idle_pure _)
    · exact hP.keeps ((idle_view _).bind fun _ =>
        (idle_inWorld (lasting_release _)).bind fun _ => idle_pure _)

/-- No step ends it. -/
theorem keeps_play [Toolchain] [ImageCodec] (hP : Enduring P) (step : Step σ) : Keeps P (play step)
    := by
  -- four steps change what names stand for; the others are idle
  cases step with
  | make name recipe =>
    intro s hs
    refine Runs.bind (((hP.made recipe s).and (idle_make recipe s)).mono (fun _ _ h => h)
      fun _ h => hP.onward hs h) ?_
    rintro o s₁ ⟨ho, h₁⟩
    refine Runs.bind (hP.runs_assign (hP.onward hs h₁) ho) fun _ s₂ hs₂ => ?_
    exact hP.keeps (idle_info o) s₂ hs₂
  | drop name =>
    refine (hP.keeps idle_object).bind fun o => ?_
    refine Keeps.bind (fun s hs => Runs.modify fun e he => hs e (List.mem_of_mem_filter he)) ?_
    exact fun _ => hP.keeps ((idle_inWorld (lasting_discard o)).bind fun _ => idle_pure _)
  | setMaterial name setting => exact hP.keeps_setMaterial name setting
  | command name k =>
    refine (hP.keeps (idle_command k)).bind fun i => (hP.keeps idle_commandsNamed).bind fun c => ?_
    refine (hP.keeps (idle_inWorld (i.lasting_perform c))).bind fun c' => ?_
    exact (keeps_update name (hP.commands c')).bind fun _ => hP.keeps (idle_pure _)
  | info name => exact hP.keeps (idle_object.bind idle_info)
  | debug name =>
    exact hP.keeps (idle_object.bind fun o => (idle_debugText o).bind fun _ => idle_pure _)
  | bind name slot =>
    exact hP.keeps (idle_object.bind fun o => (idle_bind o slot).bind fun _ => idle_pure _)
  | unbind name slot =>
    exact hP.keeps (idle_object.bind fun o => (idle_unbind o slot).bind fun _ => idle_pure _)
  | write name offset data =>
    exact hP.keeps (idle_bufferNamed.bind fun r =>
      (idle_inWorld (Buffer.lasting_write r offset data)).bind fun _ => idle_pure _)
  | read name offset length =>
    exact hP.keeps (idle_bufferNamed.bind fun r =>
      (idle_inWorld (Buffer.lasting_read r offset length)).bind fun _ => idle_pure _)
  | resize name width height =>
    refine hP.keeps (idle_framebufferNamed.bind fun r => Idle.get fun s => ?_)
    have hresize := (idle_inWorld (Framebuffer.lasting_resize (σ := σ) r width height)).bind
      fun _ => idle_info (.framebuffer r)
    split
    · exact (idle_throw _).bind fun _ => hresize
    · exact hresize
  | uniformLocation name key =>
    exact hP.keeps (idle_programNamed.bind fun r =>
      (idle_inWorld (Program.lasting_uniformLocation r key)).bind fun _ => idle_pure _)
  | attributeLocation name key =>
    exact hP.keeps (idle_programNamed.bind fun r =>
      (idle_inWorld (Program.lasting_attributeLocation r key)).bind fun _ => idle_pure _)
  | reflection name stage key =>
    exact hP.keeps (idle_programNamed.bind fun r => (idle_view r).bind fun _ => idle_pure _)
  | setUniform name key value =>
    exact hP.keeps (idle_programNamed.bind fun r =>
      (idle_inWorld (Program.lasting_setUniform r key value)).bind fun _ => idle_pure _)
  | setVertexBuffer name part =>
    exact hP.keeps (idle_bufferNamed.bind fun b => idle_pipelineNamed.bind fun r =>
      (idle_inWorld (Pipeline.lasting_setVertexBuffer r b)).bind fun _ => idle_pure _)
  | setIndexBuffer name part =>
    exact hP.keeps (idle_bufferNamed.bind fun b => idle_pipelineNamed.bind fun r =>
      (idle_inWorld (Pipeline.lasting_setIndexBuffer r b)).bind fun _ => idle_pure _)
  | attachMesh name part =>
    exact hP.keeps (idle_pipelineNamed.bind fun r => idle_meshNamed.bind fun m =>
      (idle_inWorld (m.lasting_attach r)).bind fun _ => idle_pure _)
  | apply name =>
    exact hP.keeps (idle_materialNamed.bind fun m =>
      (idle_inWorld m.lasting_apply).bind fun _ => idle_pure _)
  | getMaterial name query =>
    exact hP.keeps (idle_materialNamed.bind fun m => idle_getMaterial m query)
  | applyState rasterizer depthStencil blend => exact hP.keeps (idle_applyState _ _ _)
  | contextActive | capabilities | counts => exact hP.keeps (Idle.get fun _ => idle_pure _)
  | deviceDebug =>
    refine hP.keeps (Idle.get fun s => ?_)
    split
    · exact idle_pure _
    · exact idle_throw _
  | adjust change =>
    exact hP.keeps fun s => Runs.bind_modify (Runs.pure ⟨rfl, .of_same rfl rfl rfl⟩)
  | message m =>
    exact hP.keeps fun s => Runs.bind_get (Runs.bind_set
      (Runs.pure ⟨rfl, .of_same rfl rfl rfl⟩))
  | ask r => exact hP.keeps ((idle_inWorld (lasting_ask r)).bind fun _ => idle_replyAnswer r _)

theorem keeps_act [Toolchain] [ImageCodec] (hP : Enduring P) (a : Action σ) : Keeps P (act a) := by
  cases a with
  | step step => exact hP.keeps_play step
  | share original copy =>
    intro s hs
    refine Runs.bind_same (runs_object hs) fun o ho => ?_
    refine Runs.bind ((idle_holdObject o s).mono (fun _ _ h => h) fun _ h => hP.onward hs h) ?_
    intro _ s₁ h₁
    have ho₁ : P o s₁.world := hP.later (hs _ (mem_of_lookup ho)) h₁.world
    exact Runs.bind (hP.runs_assign (hP.onward hs h₁) ho₁) fun _ _ h => Runs.pure h

/-- It is true of all objects of a session at any time. -/
theorem holds_of_reached [Toolchain] [ImageCodec] (hP : Enduring P) {device : σ} {files : Files}
    {p : Action σ → Prop} (hs : ReachedBy device files p s) : Holds P s := by
  induction hs with
  | start => exact fun e he => by cases he
  | act _ _ hrun hout ih =>
    -- an action that fails may have changed the world as well
    have hafter := of_runs (hP.keeps_act _ _ ih) hrun hout
    split at hafter
    · exact hafter
    · exact hafter

end Enduring

end Enduring

end RenderKit.Session
