import RenderKit.Proofs.Resources.Lasting

set_option autoImplicit false

/-! # Operations on references to resources

Whatever an operation makes, exchanges or gives up, references to buffers, textures and samplers
lead to what they led to. Operations that only use what is there do not fail. -/

namespace RenderKit

variable {σ : Type} [GraphicsDevice σ] {fallible : Prop}

/-! ## Buffers, textures and samplers -/

namespace Buffer

theorem lasting_create (kind : BufferKind) (usage : BufferUsage) (size? : Option UInt64)
    (data? : Option (List UInt8)) :
    Lasting True (create kind usage size? data? : Render σ (Ref Buffer)) := by
  unfold create
  extract_lets size make check
  have hmake : Lasting True (make ()) :=
    (lasting_ask _).bind fun _ => (lasting_settle _).bind fun _ =>
      (lasting_note _ _ _).bind fun _ => lasting_share _
  refine Lasting.reject_if ?_
  unfold check
  split
  · exact Lasting.reject_if hmake
  · exact hmake

theorem lasting_write (r : Ref Buffer) (offset : UInt64) (data : List UInt8) :
    Lasting True (write r offset data : Render σ Unit) :=
  (lasting_view r).bind fun _ => Lasting.reject_if ((lasting_ask _).bind fun _ => lasting_settle _)

theorem lasting_read (r : Ref Buffer) (offset length : UInt64) :
    Lasting True (read r offset length : Render σ (List UInt8)) :=
  (lasting_view r).bind fun _ => Lasting.reject_if ((lasting_ask _).bind fun _ => lasting_settle _)

theorem lasting_bind (r : Ref Buffer) : Lasting fallible (bind r : Render σ Unit) :=
  (lasting_view r).bind fun _ => lasting_ask _

theorem lasting_unbind (r : Ref Buffer) : Lasting fallible (unbind r : Render σ Unit) :=
  (lasting_view r).bind fun _ => lasting_ask _

end Buffer

namespace Texture

theorem lasting_create (desc : TextureDesc) (data? : Option (List UInt8)) :
    Lasting True (create desc data? : Render σ (Ref Texture)) := by
  unfold create
  extract_lets make check
  have hmake : Lasting True (make ()) :=
    (lasting_ask _).bind fun _ => (lasting_settle _).bind fun _ =>
      (lasting_note _ _ _).bind fun _ => lasting_share _
  refine Lasting.reject_if ?_
  unfold check
  split
  · exact hmake
  · split
    · exact lasting_abort.bind fun _ => hmake
    · exact Lasting.reject_if hmake

theorem lasting_ofFile [ImageCodec] (files : Files) (path : String) (srgb mipmaps : Bool) :
    Lasting True (ofFile files path srgb mipmaps : Render σ (Ref Texture)) :=
  (quiet_loadImage files path).lasting.bind fun _ => lasting_create _ _

theorem lasting_bind (r : Ref Texture) (slot : UInt32) :
    Lasting fallible (bind r slot : Render σ Unit) :=
  (lasting_view r).bind fun _ => lasting_ask _

theorem lasting_unbind (slot : UInt32) : Lasting fallible (unbind slot : Render σ Unit) :=
  lasting_ask _

end Texture

namespace Sampler

theorem lasting_create (desc : SamplerDesc) : Lasting True (create desc : Render σ (Ref Sampler)) :=
  (lasting_ask _).bind fun _ => (lasting_settle _).bind fun _ =>
    (lasting_note _ _ _).bind fun _ => lasting_share _

theorem lasting_bind (r : Ref Sampler) (slot : UInt32) :
    Lasting fallible (bind r slot : Render σ Unit) :=
  (lasting_view r).bind fun _ => lasting_ask _

theorem lasting_unbind (slot : UInt32) : Lasting fallible (unbind slot : Render σ Unit) :=
  lasting_ask _

end Sampler

/-! ## Framebuffers -/

omit [GraphicsDevice σ] in
theorem Attachment.lasting_accepted (a : Attachment) :
    Lasting True (a.accepted : Render σ Attachment) := by
  unfold accepted
  split
  · exact (lasting_reject _).bind fun _ => lasting_pure _
  · exact (lasting_holdAll _).bind fun _ => lasting_pure _

theorem Attachment.lasting_discard (a : Attachment) :
    Lasting fallible (a.discard : Render σ Unit) := lasting_releaseAll _

namespace Framebuffer

omit [GraphicsDevice σ] in
theorem lasting_defaultTarget (width height : UInt32) :
    Lasting fallible (defaultTarget width height : Render σ (Ref Framebuffer)) := lasting_share _

theorem lasting_target (width height : UInt32) (a : Attachment) :
    Lasting True (target width height a : Render σ (Ref Texture)) := by
  unfold target
  split
  · exact Texture.lasting_create _ _
  · exact (lasting_view _).bind fun _ =>
      Lasting.reject_if ((lasting_hold _).bind fun _ => lasting_pure _)

theorem lasting_targets (width height : UInt32) (done : List (Ref Texture)) (as : List Attachment) :
    Lasting True (targets width height done as : Render σ (List (Ref Texture))) := by
  induction as generalizing done with
  | nil => exact lasting_pure _
  | cons a rest ih =>
    refine (lasting_target width height a).attempt.bind fun outcome => ?_
    rcases outcome with e | r
    · -- the textures that were made before it are given up
      exact (lasting_releaseAll _).bind fun _ => lasting_raise _
    · exact ih _

omit [GraphicsDevice σ] in
theorem lasting_handles (rs : List (Ref Texture)) :
    Lasting fallible (handles rs : Render σ (List TextureHandle)) := by
  induction rs with
  | nil => exact lasting_pure _
  | cons r rest ih => exact (lasting_view r).bind fun _ => ih.bind fun _ => lasting_pure _

theorem lasting_depthTarget (width height : UInt32) (colors : List (Ref Texture))
    (a : Option Attachment) :
    Lasting True (depthTarget width height colors a : Render σ (Option (Ref Texture))) := by
  rcases a with _ | a
  · exact lasting_pure _
  · refine (lasting_target width height a).attempt.bind fun outcome => ?_
    rcases outcome with e | r
    · exact (lasting_releaseAll _).bind fun _ => lasting_raise _
    · exact lasting_pure _

theorem lasting_createTargets (width height : UInt32) (colors : List Attachment)
    (depth : Option Attachment) :
    Lasting True (createTargets width height colors depth : Render σ Targets) := by
  refine (lasting_targets _ _ _ _).bind fun colorTextures => ?_
  refine (lasting_depthTarget _ _ _ _).bind fun depthTexture => ?_
  refine (lasting_handles _).bind fun colorHandles => ?_
  extract_lets make
  have hmake : ∀ depthHandle, Lasting True (make depthHandle) := by
    intro depthHandle
    refine Lasting.bind ((lasting_ask _).bind fun _ => lasting_settle _).attempt fun outcome => ?_
    rcases outcome with e | handle
    · exact (lasting_releaseOption _).bind fun _ =>
        (lasting_releaseAll _).bind fun _ => lasting_raise _
    · exact lasting_pure _
  split
  · exact (lasting_view _).bind fun _ => hmake _
  · exact hmake _

theorem lasting_create (p : FramebufferPlan) :
    Lasting True (create p : Render σ (Ref Framebuffer)) := by
  refine Lasting.reject_if (Lasting.get fun w => Lasting.reject_if ?_)
  refine (lasting_createTargets _ _ _ _).bind fun made => (lasting_note _ _ _).bind fun _ => ?_
  exact (lasting_holdAll _).bind fun _ => (lasting_holdAll _).bind fun _ => lasting_share _

theorem lasting_bind (r : Ref Framebuffer) : Lasting fallible (bind r : Render σ Unit) :=
  (lasting_view r).bind fun _ => (lasting_ask _).bind fun _ => lasting_ask _

theorem lasting_unbind : Lasting fallible (unbind : Render σ Unit) := lasting_ask _

theorem lasting_resize (r : Ref Framebuffer) (width height : UInt32) :
    Lasting True (resize r width height : Render σ Unit) := by
  refine Lasting.reject_if ((lasting_view r).bind fun f => ?_)
  split
  · exact lasting_alter _ _
  · refine (lasting_createTargets _ _ _ _).bind fun made => (lasting_alter _ _).bind fun _ => ?_
    exact (lasting_ask _).bind fun _ => (lasting_releaseAll _).bind fun _ => lasting_releaseOption _

end Framebuffer

/-! ## Programs -/

namespace Program

theorem lasting_compileStage [Toolchain] (options : CompileOptions) (reflected : Bool)
    (stage : Stage) (source : StageSource) :
    Lasting True (compileStage options reflected stage source : Render σ Compiled) := by
  have hwords : ∀ words, Lasting True (do
      let native ← transpile words stage
      let reflection ← if reflected then some <$> reflect words stage else pure none
      let handle ← settle (← ask (.compileShader stage native.text))
      return (⟨stage, handle, reflection⟩ : Compiled) : Render σ Compiled) := by
    intro words
    refine (quiet_transpile words stage).lasting.bind fun native => ?_
    have hask : ∀ reflection : Option Reflection, Lasting True (do
        let handle ← settle (← ask (.compileShader stage native.text))
        return (⟨stage, handle, reflection⟩ : Compiled) : Render σ Compiled) := fun _ =>
      (lasting_ask _).bind fun _ => (lasting_settle _).bind fun _ => lasting_pure _
    cases reflected with
    | true => exact (quiet_reflect words stage).map.lasting.bind hask
    | false => exact hask none
  cases source with
  | text text => exact (quiet_compile text stage options).lasting.bind hwords
  | words words => exact hwords words

theorem lasting_deleteShaders (shaders : List ShaderHandle) :
    Lasting fallible (deleteShaders shaders : Render σ Unit) := by
  induction shaders with
  | nil => exact lasting_pure _
  | cons h rest ih => exact (lasting_ask _).bind fun _ => ih

theorem lasting_compileStages [Toolchain] (options : CompileOptions) (reflected : Bool)
    (done : List Compiled) (sources : List (Stage × StageSource)) :
    Lasting True (compileStages options reflected done sources : Render σ (List Compiled)) := by
  induction sources generalizing done with
  | nil => exact lasting_pure _
  | cons source rest ih =>
    refine (lasting_compileStage _ _ _ _).attempt.bind fun outcome => ?_
    rcases outcome with e | c
    · -- the shaders of the stages before it are deleted
      exact (lasting_deleteShaders _).bind fun _ => (lasting_note _ _ _).bind fun _ =>
        lasting_raise _
    · exact ih _

theorem lasting_create [Toolchain] (files : Files) (options : CompileOptions) (reflected : Bool)
    (inputs : List StageInput) :
    Lasting True (create files options reflected inputs : Render σ (Ref Program)) := by
  refine (quiet_expand files inputs).lasting.bind fun sources => Lasting.reject_if ?_
  extract_lets link
  have hlink : Lasting True (link ()) := by
    refine (lasting_compileStages _ _ _ _).bind fun compiled => ?_
    refine Lasting.bind ((lasting_ask _).bind fun _ => lasting_settle _).attempt fun linked => ?_
    refine (lasting_deleteShaders _).bind fun _ => ?_
    rcases linked with e | handle
    · exact (lasting_note _ _ _).bind fun _ => lasting_raise _
    · exact (lasting_note _ _ _).bind fun _ => lasting_share _
  split
  · exact (lasting_reject _).bind fun _ => hlink
  · exact hlink

theorem lasting_bind (r : Ref Program) : Lasting fallible (bind r : Render σ Unit) :=
  (lasting_view r).bind fun _ => lasting_ask _

theorem lasting_unbind : Lasting fallible (unbind : Render σ Unit) := lasting_ask _

theorem lasting_askLocation (r : Ref Program) (program : ProgramHandle) (name : String)
    (cache : UniformCache) :
    Lasting fallible (askLocation r program name cache : Render σ Int32) := by
  refine (lasting_ask _).bind fun location => ?_
  extract_lets remember
  have hremember : Lasting fallible (remember ()) :=
    (lasting_alter _ _).bind fun _ => lasting_pure _
  split
  · exact (lasting_note _ _ _).bind fun _ => hremember
  · exact hremember

theorem lasting_uniformLocation (r : Ref Program) (name : String) :
    Lasting fallible (uniformLocation r name : Render σ Int32) := by
  refine (lasting_view r).bind fun p => (lasting_view r).bind fun q => Lasting.unwinding ?_
  refine (lasting_alter _ _).bind fun _ => ?_
  split
  · exact lasting_pure _
  · exact lasting_askLocation r _ name _

theorem lasting_setUniform (r : Ref Program) (name : String) (value : UniformValue) :
    Lasting fallible (setUniform r name value : Render σ Bool) := by
  refine (lasting_uniformLocation r name).bind fun location => ?_
  split
  · exact lasting_pure _
  · exact (lasting_ask _).bind fun _ => lasting_pure _

theorem lasting_attributeLocation (r : Ref Program) (name : String) :
    Lasting fallible (attributeLocation r name : Render σ Int32) := by
  refine (lasting_view r).bind fun p => (lasting_ask _).bind fun location => ?_
  split
  · exact lasting_pure _
  · split
    · exact lasting_pure _
    · exact lasting_pure _

end Program

/-! ## Pipelines, passes and meshes -/

namespace Pipeline

/-- A buffer takes the place of another one. -/
theorem lasting_replace (r : Ref Pipeline) (buffer : Ref Buffer) (request : Request)
    (change : Pipeline → Pipeline) (previous : Option (Ref Buffer)) :
    Lasting fallible (do
      let _ ← ask request
      hold buffer
      alter r change
      releaseOption previous : Render σ Unit) :=
  (lasting_ask _).bind fun _ => (lasting_hold _).bind fun _ =>
    (lasting_alter _ _).bind fun _ => lasting_releaseOption _

theorem lasting_setVertexBuffer (r : Ref Pipeline) (buffer : Ref Buffer) :
    Lasting True (setVertexBuffer r buffer : Render σ Unit) :=
  (lasting_view _).bind fun _ => Lasting.reject_if ((lasting_view _).bind fun _ =>
    lasting_replace r buffer _ _ _)

theorem lasting_setIndexBuffer (r : Ref Pipeline) (buffer : Ref Buffer) :
    Lasting True (setIndexBuffer r buffer : Render σ Unit) :=
  (lasting_view _).bind fun _ => Lasting.reject_if ((lasting_view _).bind fun _ =>
    lasting_replace r buffer _ _ _)

theorem lasting_attachAll (r : Ref Pipeline) (plan : PipelinePlan) :
    Lasting True (attachAll r plan : Render σ Unit) := by
  unfold attachAll
  extract_lets indices
  have hindices : Lasting True (indices ()) := by
    unfold indices
    split
    · exact lasting_setIndexBuffer r _
    · exact lasting_pure _
  split
  · exact (lasting_setVertexBuffer r _).bind fun _ => hindices
  · exact hindices

theorem lasting_create (plan : PipelinePlan) :
    Lasting True (create plan : Render σ (Ref Pipeline)) := by
  unfold create
  split
  · exact lasting_reject _
  · refine (lasting_ask _).bind fun _ => (lasting_settle _).bind fun array => ?_
    refine (lasting_hold _).bind fun _ => (lasting_share _).bind fun r => ?_
    refine (lasting_attachAll r plan).attempt.bind fun outcome => ?_
    rcases outcome with e | _
    · -- the pipeline goes again, with its vertex array
      exact (lasting_release r).bind fun _ => lasting_raise _
    · exact (lasting_note _ _ _).bind fun _ => lasting_pure _

theorem lasting_bind (r : Ref Pipeline) : Lasting fallible (bind r : Render σ Unit) := by
  refine (lasting_view r).bind fun p => (Program.lasting_bind _).bind fun _ => ?_
  refine (lasting_ask _).bind fun _ => (lasting_ask (.applyRasterizer _)).bind fun _ => ?_
  exact (lasting_ask (.applyDepthStencil _)).bind fun _ => lasting_ask _

theorem lasting_unbind : Lasting fallible (unbind : Render σ Unit) :=
  (lasting_ask _).bind fun _ => Program.lasting_unbind

end Pipeline

omit [GraphicsDevice σ] in
theorem RenderPass.lasting_create (framebuffer : Ref Framebuffer) (plan : PassPlan) :
    Lasting True (create framebuffer plan : Render σ RenderPass) := by
  unfold create
  split
  · exact lasting_reject _
  · exact (lasting_hold _).bind fun _ => lasting_pure _

theorem RenderPass.lasting_discard (p : RenderPass) :
    Lasting fallible (p.discard : Render σ Unit) := lasting_release _

namespace Mesh

omit [GraphicsDevice σ] in
theorem lasting_create (plan : MeshPlan) : Lasting True (create plan : Render σ Mesh) := by
  unfold create
  split
  · exact lasting_reject _
  refine (lasting_view _).bind fun vertices => ?_
  refine Lasting.reject_if (Lasting.reject_if ((lasting_accept _).bind fun vertexCount => ?_))
  extract_lets finish
  have hfinish : ∀ indexCount, Lasting True (finish indexCount) := fun _ =>
    (lasting_note _ _ _).bind fun _ => (lasting_hold _).bind fun _ =>
      (lasting_holdAll _).bind fun _ => lasting_pure _
  split
  · exact hfinish _
  · exact (lasting_view _).bind fun _ => Lasting.reject_if ((lasting_accept _).bind hfinish)

theorem lasting_attach (m : Mesh) (r : Ref Pipeline) :
    Lasting True (m.attach r : Render σ Unit) := by
  refine (lasting_view r).bind fun p => Lasting.reject_if ?_
  refine (Pipeline.lasting_setVertexBuffer r _).bind fun _ => ?_
  split
  · exact Pipeline.lasting_setIndexBuffer r _
  · exact lasting_pure _

theorem lasting_discard (m : Mesh) : Lasting fallible (m.discard : Render σ Unit) :=
  (lasting_release _).bind fun _ => lasting_releaseOption _

end Mesh

/-! ## Materials and contexts -/

namespace Material

omit [GraphicsDevice σ] in
theorem lasting_create (plan : MaterialPlan) : Lasting True (create plan : Render σ Material) := by
  unfold create
  split
  · exact lasting_reject _
  · exact (lasting_hold _).bind fun _ => (lasting_holdAll _).bind fun _ =>
      (lasting_holdAll _).bind fun _ => lasting_pure _

theorem lasting_discard (m : Material) : Lasting fallible (m.discard : Render σ Unit) :=
  (lasting_release _).bind fun _ => (lasting_releaseAll _).bind fun _ => lasting_releaseAll _

theorem lasting_applyUniforms (program : Ref Program) (uniforms : List (String × UniformValue)) :
    Lasting fallible (applyUniforms program uniforms : Render σ Unit) := by
  induction uniforms with
  | nil => exact lasting_pure _
  | cons u rest ih => exact (Program.lasting_setUniform _ _ _).bind fun _ => ih

theorem lasting_applyTextures (textures : List (UInt32 × Ref Texture)) :
    Lasting fallible (applyTextures textures : Render σ Unit) := by
  induction textures with
  | nil => exact lasting_pure _
  | cons t rest ih => exact (Texture.lasting_bind _ _).bind fun _ => ih

theorem lasting_applySamplers (samplers : List (UInt32 × Ref Sampler)) :
    Lasting fallible (applySamplers samplers : Render σ Unit) := by
  induction samplers with
  | nil => exact lasting_pure _
  | cons s rest ih => exact (Sampler.lasting_bind _ _).bind fun _ => ih

theorem lasting_apply (m : Material) : Lasting fallible (m.apply : Render σ Unit) :=
  (Program.lasting_bind _).bind fun _ => (lasting_applyUniforms _ _).bind fun _ =>
    (lasting_applyTextures _).bind fun _ => lasting_applySamplers _

theorem lasting_setProgram (m : Material) (r : Ref Program) :
    Lasting fallible (m.setProgram r : Render σ Material) :=
  (lasting_hold _).bind fun _ => (lasting_release _).bind fun _ => lasting_pure _

theorem lasting_setTexture (m : Material) (slot : UInt32) (r : Ref Texture) :
    Lasting fallible (m.setTexture slot r : Render σ Material) :=
  (lasting_hold _).bind fun _ => (lasting_releaseOption _).bind fun _ => lasting_pure _

theorem lasting_setSampler (m : Material) (slot : UInt32) (r : Ref Sampler) :
    Lasting fallible (m.setSampler slot r : Render σ Material) :=
  (lasting_hold _).bind fun _ => (lasting_releaseOption _).bind fun _ => lasting_pure _

end Material

namespace RenderContext

theorem lasting_create (config : ContextConfig) :
    Lasting True (create config : Render σ RenderContext) := by
  unfold create
  -- the world is put back as it was found but for the slot, so this is no matter of rules
  intro w
  refine Runs.bind_get ?_
  split
  · exact lasting_reject _ w
  · exact Runs.bind_set (Runs.bind_note (Runs.pure (.of_same rfl rfl rfl)))

omit [GraphicsDevice σ] in
theorem lasting_discard (c : RenderContext) : Lasting fallible (c.discard : Render σ Unit) :=
  fun _ => Runs.bind_modify (runs_note (.of_same rfl rfl rfl))

end RenderContext

/-! ## Instructions -/

namespace CommandBuffer

theorem lasting_discard (c : CommandBuffer) : Lasting fallible (c.discard : Render σ Unit) :=
  (lasting_releaseOption _).bind fun _ => (lasting_releaseOption _).bind fun _ =>
    lasting_releaseOption _

end CommandBuffer

end RenderKit
