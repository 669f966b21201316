import RenderKit.Proofs.OpenGL.Tasks
import RenderKit.Proofs.OpenGL.Transcript

set_option autoImplicit false

/-! # What requests tell a driver

Each request has a vocabulary: the commands it may come down to, whether it succeeds or fails.
Commands of other kinds do not follow from it, whatever the driver answers in between. Settings
that only some commands change can so be followed from request to request. -/

namespace RenderKit

/-! ## Vocabularies -/

/-- The commands that go with a clear. -/
def GlCommand.clears (c : GlCommand) : Bool :=
  c matches .clearColor _ | .clearDepth _ | .clearStencil _ | .clear _ _ _

/-- The commands that make a framebuffer. -/
def GlCommand.assembles (c : GlCommand) : Bool :=
  c matches .bindFramebuffer _ | .framebufferTexture _ _ | .drawBuffers _ | .readBuffer _
    | .delete .framebuffer _

/-- The commands that describe attributes to the vertex array that is bound. -/
def GlCommand.describes (c : GlCommand) : Bool :=
  c matches .enableAttribute _ | .attributePointer _ _ _ _ _ _ | .attributeIntegerPointer _ _ _ _ _

/-- The commands a request may come down to. -/
def Request.mayTell : Request → GlCommand → Bool
  | .clear _ => GlCommand.clears
  | .setViewport _ => (· matches .viewport _ _ _ _)
  | .setScissor _ => (· matches .scissor _ _ _ _)
  | .createBuffer _ _ _ _ =>
      (· matches .bindBuffer .copyWrite _ | .bufferData _ _ _ | .bufferSize _ _ _
        | .bufferSubData _ _ _)
  | .writeBuffer _ _ _ _ => (· matches .bindBuffer .copyWrite _ | .bufferSubData _ _ _)
  | .readBuffer _ _ _ _ => (· matches .bindBuffer .copyRead _)
  | .bindBuffer _ _ => (· matches .bindBuffer _ _)
  | .bindBufferBase _ _ _ => (· matches .bindBufferBase _ _ _)
  | .deleteBuffer _ => (· matches .delete .buffer _)
  | .createTexture _ _ =>
      (· matches .bindTexture _ | .unpackAlignment _ | .texImage _ _ _ _ | .texParameter _ _
        | .generateMipmap)
  | .bindTexture _ _ => (· matches .activeTexture _ | .bindTexture _)
  | .deleteTexture _ => (· matches .delete .texture _)
  | .createSampler _ =>
      (· matches .samplerParameter _ _ _ | .samplerBorderColor _ _ | .samplerAnisotropy _ _)
  | .bindSampler _ _ => (· matches .bindSampler _ _)
  | .deleteSampler _ => (· matches .delete .sampler _)
  | .createFramebuffer _ _ => GlCommand.assembles
  | .bindFramebuffer _ => (· matches .bindFramebuffer _)
  | .deleteFramebuffer _ => (· matches .delete .framebuffer _)
  | .compileShader _ _ =>
      (· matches .shaderSource _ _ | .compileShader _ | .delete .shader _)
  | .deleteShader _ => (· matches .delete .shader _)
  | .linkProgram _ =>
      (· matches .attachShader _ _ | .linkProgram _ | .detachShader _ _ | .delete .program _)
  | .useProgram _ => (· matches .useProgram _)
  | .deleteProgram _ => (· matches .delete .program _)
  | .uniformLocation _ _ | .attributeLocation _ _ | .createVertexArray => fun _ => false
  | .setUniform _ _ => (· matches .uniform _ _)
  | .bindVertexArray _ => (· matches .bindVertexArray _)
  | .attachVertexBuffer _ _ _ =>
      fun c => c.describes || (c matches .bindVertexArray _ | .bindBuffer .array _)
  | .attachIndexBuffer _ _ => (· matches .bindVertexArray _ | .bindBuffer .elementArray _)
  | .deleteVertexArray _ => (· matches .delete .vertexArray _)
  | .applyRasterizer _ =>
      (· matches .switch _ _ | .cullFace _ | .frontFace _ | .polygonMode _ | .polygonOffset _ _)
  | .applyDepthStencil _ =>
      (· matches .switch _ _ | .depthMask _ | .depthFunc _ | .stencilFunc _ _ _ _
        | .stencilOp _ _ _ _ | .stencilMask _ _)
  | .applyBlend _ _ =>
      (· matches .switchBlend _ _ | .blendFunc _ _ _ _ _ | .blendEquation _ _ _ | .colorMask _ _
        | .blendColor _)
  | .drawArrays _ _ _ => (· matches .drawArrays _ _ _)
  | .drawElements _ _ _ _ => (· matches .drawElements _ _ _ _)

namespace GlDevice

variable {δ : Type} [GlDriver δ]

/-! ## Tasks that keep to a vocabulary -/

/-- What is true of a driver stays true when it is asked something, or told a command of the
    vocabulary. -/
structure Stable (p : GlCommand → Bool) (I : δ → Prop) : Prop where
  run : ∀ c d, p c → I d → I (GlDriver.run c d)
  ask : ∀ q d, I d → I (GlDriver.ask q d).2

section Rules

variable {α β : Type} {p q : GlCommand → Bool}

/-- All commands of a task, up to where it ends or fails, are from a vocabulary. -/
def Says (p : GlCommand → Bool) (task : Task δ α) : Prop :=
  ∀ I : δ → Prop, Stable p I → ∀ w : Work δ, I w.driver →
    Runs task w (fun _ w' => I w'.driver) (fun w' => I w'.driver)

theorem Says.of_quiet {task : Task δ α} (h : Quiet task) : Says p task :=
  fun I _ w hw => h (fun w' => I w'.driver) (fun _ _ h => h) w hw

theorem Says.mono {task : Task δ α} (h : Says p task) (hpq : ∀ c, p c → q c) : Says q task :=
  fun I hI => h I ⟨fun c d hc => hI.run c d (hpq c hc), hI.ask⟩

theorem Says.bind {task : Task δ α} {next : α → Task δ β} (h : Says p task)
    (hnext : ∀ a, Says p (next a)) : Says p (task >>= next) :=
  fun I hI w hw => Runs.bind (h I hI w hw) fun a w' hw' => hnext a I hI w' hw'

theorem Says.attempt {task : Task δ α} (h : Says p task) : Says p (attempt task) := by
  intro I hI w hw
  refine (runs_attempt (h I hI w hw)).imp ?_
  rintro (e | a) w' hw'
  · exact hw'
  · exact hw'

theorem says_tell {c : GlCommand} (h : p c) : Says p (tell c : Task δ Unit) :=
  fun _ hI w hw => Runs.modify (hI.run c w.driver h hw)

theorem says_tellAll {cs : List GlCommand} (h : ∀ c ∈ cs, p c) :
    Says p (tellAll cs : Task δ Unit) := by
  induction cs with
  | nil => exact .of_quiet (quiet_pure _)
  | cons c rest ih =>
      obtain ⟨hc, hrest⟩ := List.forall_mem_cons.mp h
      exact (says_tell hc).bind fun _ => ih hrest

theorem says_query {x : GlQuery} : Says p (query x : Task δ x.Reply) :=
  fun _ hI w hw => Runs.bind_get (Runs.bind_set (Runs.pure (hI.ask x w.driver hw)))

theorem says_create {kind : ObjectKind} {object : GlObject} {what : String} :
    Says p (create kind object what : Task δ (Handle kind)) := by
  refine says_query.bind fun name => ?_
  split
  · exact .of_quiet (quiet_pure _)
  · exact .of_quiet (quiet_reject _)

theorem says_deleteNoted {kind : ObjectKind} {what : String} {h : Handle kind}
    (hp : p (.delete kind h.raw)) : Says p (deleteNoted what h : Task δ Unit) :=
  (Says.of_quiet (quiet_note _ _ _)).bind fun _ => says_tell hp

/-- What a driver is told by a task goes behind what it was told before. -/
theorem Says.told [Transcribing δ] {task : Task δ α} (h : Says p task) (w : Work δ) :
    Runs task w (fun _ w' => ∃ cs, w'.told = w.told ++ cs ∧ ∀ c ∈ cs, p c)
      (fun w' => ∃ cs, w'.told = w.told ++ cs ∧ ∀ c ∈ cs, p c) := by
  refine h (fun d => ∃ cs, Transcribing.told d = w.told ++ cs ∧ ∀ c ∈ cs, p c) ⟨?_, ?_⟩ w
    ⟨[], by simp [Work.told]⟩
  · rintro c d hc ⟨cs, hcs, hp⟩
    refine ⟨cs ++ [c], by rw [Transcribing.told_run, hcs, List.append_assoc], ?_⟩
    exact List.forall_mem_append.mpr ⟨hp, by simpa using hc⟩
  · rintro x d hd
    rwa [Transcribing.told_ask]

end Rules

/-! ## Requests -/

section Requests

theorem says_createBuffer {kind : BufferKind} {usage : BufferUsage} {size : UInt64}
    {data : Option (List UInt8)} :
    Says (Request.mayTell (.createBuffer kind usage size data))
      (createBuffer kind usage size data : Task δ BufferHandle) := by
  have hupload : ∀ room, ∀ c ∈ upload room usage data,
      Request.mayTell (.createBuffer kind usage size data) c := by
    intro room
    unfold upload
    split
    · simp [Request.mayTell]
    · split <;> simp [Request.mayTell]
  refine (Says.of_quiet (quiet_bytes _ _)).bind fun room => says_create.bind fun h => ?_
  refine (says_tell rfl).bind fun _ => (says_tellAll (hupload room)).bind fun _ => ?_
  exact (says_tell rfl).bind fun _ => .of_quiet ((quiet_note _ _ _).bind fun _ => quiet_pure _)

theorem says_readBuffer {p : GlCommand → Bool} (hp : ∀ name, p (.bindBuffer .copyRead name))
    {buffer : BufferHandle} {offset length : UInt64} :
    Says p (readBuffer buffer offset length : Task δ (List UInt8)) := by
  refine (Says.of_quiet (quiet_bytes _ _)).bind fun place => ?_
  refine (Says.of_quiet (quiet_bytes _ _)).bind fun count => ?_
  refine (says_tell (hp _)).bind fun _ => says_query.bind fun _ => ?_
  exact (says_tell (hp _)).bind fun _ => .of_quiet (quiet_pure _)

theorem says_createTexture {limit : UInt32} {desc : TextureDesc} {data : Option (List UInt8)} :
    Says (Request.mayTell (.createTexture desc data))
      (createTexture limit desc data : Task δ TextureHandle) := by
  have hfill : ∀ width height, ∀ c ∈ textureCommands desc width height data,
      Request.mayTell (.createTexture desc data) c := by
    intro width height c hc
    simp only [textureCommands, List.mem_cons, List.not_mem_nil, or_false] at hc
    rcases hc with rfl | rfl | rfl | rfl | rfl
    · rfl
    · rfl
    · rfl
    · rfl
    · split <;> rfl
  refine (Says.of_quiet (quiet_side _ _)).bind fun width => ?_
  refine (Says.of_quiet (quiet_side _ _)).bind fun height => ?_
  refine says_create.bind fun h => says_query.bind fun previous => ?_
  refine (says_tell rfl).bind fun _ => (says_tellAll (hfill width height)).bind fun _ => ?_
  exact (says_tell rfl).bind fun _ => .of_quiet ((quiet_note _ _ _).bind fun _ => quiet_pure _)

theorem says_bindTexture {p : GlCommand → Bool} (hunit : ∀ unit, p (.activeTexture unit))
    (hname : ∀ name, p (.bindTexture name)) {slot : UInt32} {texture : Option TextureHandle} :
    Says p (bindTexture slot texture : Task δ Unit) := by
  have hbind : Says p (do
      tell (.activeTexture (firstTextureUnit + slot))
      tell (.bindTexture (Handle.rawOf texture)) : Task δ Unit) :=
    (says_tell (hunit _)).bind fun _ => says_tell (hname _)
  unfold bindTexture
  dsimp only
  split
  · exact (Says.of_quiet quiet_abort).bind fun _ => hbind
  · exact hbind

theorem says_createSampler {limit : Binary32} {desc : SamplerDesc} :
    Says (Request.mayTell (.createSampler desc))
      (createSampler limit desc : Task δ SamplerHandle) := by
  have haniso : ∀ name, Says (Request.mayTell (.createSampler desc))
      (setAnisotropy limit desc name : Task δ Unit) := by
    intro name
    unfold setAnisotropy
    split
    · exact .of_quiet (quiet_pure _)
    · split
      · exact says_tell rfl
      · exact .of_quiet (quiet_note _ _ _)
  refine says_create.bind fun h => ?_
  refine (says_tellAll (by simp [samplerCommands, Request.mayTell])).bind fun _ => ?_
  exact (haniso h.raw).bind fun _ =>
    .of_quiet ((quiet_note _ _ _).bind fun _ => quiet_pure _)

theorem says_createFramebuffer {limit : UInt32} {colors : List TextureHandle}
    {depth : Option (TextureHandle × AttachmentPoint)} :
    Says GlCommand.assembles (createFramebuffer limit colors depth : Task δ FramebufferHandle) := by
  have hfill : ∀ slot, ∀ c ∈ framebufferCommands colors slot, c.assembles := by
    intro slot c hc
    simp only [framebufferCommands, List.mem_append, List.mem_map] at hc
    rcases hc with (⟨_, -, rfl⟩ | ⟨_, -, rfl⟩) | hc
    · rfl
    · rfl
    · split at hc
      · simp only [List.mem_cons, List.not_mem_nil, or_false] at hc
        rcases hc with rfl | rfl <;> rfl
      · rw [List.mem_singleton.mp hc]
        rfl
  unfold createFramebuffer
  extract_lets make check
  have hmake : ∀ slot, Says GlCommand.assembles (make slot) := by
    intro slot
    refine says_create.bind fun h => says_query.bind fun previous => ?_
    refine (says_tell rfl).bind fun _ => (says_tellAll (hfill slot)).bind fun _ => ?_
    refine says_query.bind fun status => (says_tell rfl).bind fun _ => ?_
    split
    · exact (says_tell rfl).bind fun _ =>
        .of_quiet ((quiet_reject _).bind fun _ => (quiet_note _ _ _).bind fun _ => quiet_pure _)
    · exact .of_quiet ((quiet_note _ _ _).bind fun _ => quiet_pure _)
  -- the framebuffer is made with or without a depth
  have hcheck : ∀ u, Says GlCommand.assembles (check u) := by
    intro u
    unfold check
    split
    · exact hmake none
    · split
      · exact hmake _
      · exact (Says.of_quiet (quiet_reject _)).bind fun slot => hmake slot
  split
  · exact (Says.of_quiet (quiet_reject _)).bind hcheck
  · exact hcheck ()

theorem says_compileShader {stage : Stage} {source : String} :
    Says (Request.mayTell (.compileShader stage source))
      (compileShader stage source : Task δ ShaderHandle) := by
  refine says_create.bind fun h => ?_
  refine (says_tellAll (by simp [Request.mayTell])).bind fun _ => ?_
  refine says_query.bind fun failure => ?_
  rcases (failure : Option String) with _ | info
  · exact .of_quiet ((quiet_note _ _ _).bind fun _ => quiet_pure _)
  · exact (says_tell rfl).bind fun _ =>
      .of_quiet ((quiet_reject _).bind fun _ => (quiet_note _ _ _).bind fun _ => quiet_pure _)

theorem says_linkProgram {shaders : List ShaderHandle} :
    Says (Request.mayTell (.linkProgram shaders))
      (linkProgram shaders : Task δ ProgramHandle) := by
  refine says_create.bind fun h => ?_
  refine (says_tellAll (by simp [Request.mayTell])).bind fun _ => (says_tell rfl).bind fun _ => ?_
  refine (says_tellAll (by simp [Request.mayTell])).bind fun _ => says_query.bind fun failure => ?_
  rcases (failure : Option String) with _ | info
  · exact .of_quiet ((quiet_note _ _ _).bind fun _ => quiet_pure _)
  · exact (says_tell rfl).bind fun _ =>
      .of_quiet ((quiet_reject _).bind fun _ => (quiet_note _ _ _).bind fun _ => quiet_pure _)

theorem says_lookUp? {p : GlCommand → Bool} {name : String} {x : GlQuery}
    {location : x.Reply → Int32} :
    Says p (lookUp? name x location : Task δ (Option Int32)) := by
  unfold lookUp?
  dsimp only
  split
  · exact (Says.of_quiet quiet_abort).bind fun _ => says_query.bind fun _ =>
      .of_quiet (quiet_pure _)
  · exact says_query.bind fun _ => .of_quiet (quiet_pure _)

theorem says_memberLocation? {p : GlCommand → Bool} {program : ProgramHandle} {name : String}
    {index left : Nat} :
    Says p (memberLocation? program name index left : Task δ (Option Int32)) := by
  induction left generalizing index with
  | zero => exact .of_quiet (quiet_pure _)
  | succ left ih =>
      refine says_query.bind fun active => ?_
      extract_lets path next
      clear_value path
      have hnext : ∀ found, Says p (next found) := by
        rintro (_ | location)
        · exact ih
        · exact .of_quiet (quiet_pure _)
      split
      · exact says_lookUp?.bind hnext
      · exact hnext none

theorem says_uniformLocation {p : GlCommand → Bool} {program : ProgramHandle} {name : String} :
    Says p (uniformLocation program name : Task δ Int32) := by
  refine says_lookUp?.bind ?_
  rintro (_ | location)
  · exact says_query.bind fun count => says_memberLocation?.bind fun _ => .of_quiet (quiet_pure _)
  · exact .of_quiet (quiet_pure _)

theorem says_withVertexArray {p : GlCommand → Bool} (hbind : ∀ name, p (.bindVertexArray name))
    {array : VertexArrayHandle} {inside : List GlCommand} (hinside : ∀ c ∈ inside, p c) :
    Says p (withVertexArray array inside : Task δ Unit) :=
  says_query.bind fun _ => (says_tell (hbind _)).bind fun _ =>
    (says_tellAll hinside).bind fun _ => says_tell (hbind _)

theorem describes_of_mem_attributeCommands {stride : Int32} {a : VertexAttribute} {c : GlCommand}
    (h : c ∈ attributeCommands stride a) : c.describes := by
  rcases List.mem_cons.mp h with rfl | h
  · rfl
  · rw [List.mem_singleton.mp h]
    split <;> rfl

theorem says_attachVertexBuffer {array : VertexArrayHandle} {buffer : BufferHandle}
    {layout : VertexLayout} :
    Says (Request.mayTell (.attachVertexBuffer array buffer layout))
      (attachVertexBuffer array buffer layout : Task δ Unit) := by
  refine (says_withVertexArray (fun _ => rfl) ?_).bind fun _ => says_tell rfl
  intro c hc
  rcases List.mem_cons.mp hc with rfl | hc
  · rfl
  · obtain ⟨a, -, hc⟩ := List.mem_flatMap.mp hc
    simp [Request.mayTell, describes_of_mem_attributeCommands hc]

/-- What a vertex buffer comes down to; in between the driver is asked what to bind again. -/
theorem told_attachVertexBuffer [Transcribing δ] {array : VertexArrayHandle}
    {buffer : BufferHandle} {layout : VertexLayout} {w : Work δ} {E : Work δ → Prop} :
    Runs (attachVertexBuffer array buffer layout) w
      (fun _ w' => ∃ previous, w'.told = w.told ++ ([.bindVertexArray array.raw,
        .bindBuffer .array buffer.raw] ++
          layout.attributes.flatMap (attributeCommands layout.stride.toInt32) ++
        [.bindVertexArray previous, .bindBuffer .array 0])) E := by
  have hwith : Runs (withVertexArray array (.bindBuffer .array buffer.raw ::
      layout.attributes.flatMap (attributeCommands layout.stride.toInt32))) w
      (fun _ w' => ∃ previous, w'.told = w.told ++ [.bindVertexArray array.raw] ++
        (.bindBuffer .array buffer.raw ::
          layout.attributes.flatMap (attributeCommands layout.stride.toInt32)) ++
        [.bindVertexArray previous]) E := by
    refine Runs.bind told_query fun previous w₁ h₁ => ?_
    refine Runs.bind told_tell fun _ w₂ h₂ => Runs.bind told_tellAll fun _ w₃ h₃ => ?_
    exact told_tell.imp fun _ w₄ h₄ => ⟨previous, by rw [h₄, h₃, h₂, h₁]⟩
  refine Runs.bind hwith ?_
  rintro - w₁ ⟨previous, h₁⟩
  exact told_tell.imp fun _ w₂ h₂ => ⟨previous, by rw [h₂, h₁]; simp⟩

theorem mayTell_rasterizerCommands (r : Rasterizer) :
    ∀ c ∈ rasterizerCommands r, Request.mayTell (.applyRasterizer r) c := by
  unfold rasterizerCommands
  cases r.cull.face? <;> by_cases hoffset : r.offsetEnabled <;>
    simp [Request.mayTell, hoffset]

theorem mayTell_depthStencilCommands (d : DepthStencil) :
    ∀ c ∈ depthStencilCommands d, Request.mayTell (.applyDepthStencil d) c := by
  simp [depthStencilCommands, stencilCommands, Request.mayTell]

theorem mayTell_blendCommands (b : Blend) (count : UInt32) :
    ∀ c ∈ blendCommands b count, Request.mayTell (.applyBlend b count) c := by
  intro c hc
  rcases List.mem_append.mp hc with hc | hc
  · obtain ⟨⟨a, i⟩, -, hc⟩ := List.mem_flatMap.mp hc
    have hone : ∀ c ∈ blendAttachmentCommands i.toUInt32 a,
        Request.mayTell (.applyBlend b count) c := by
      unfold blendAttachmentCommands
      by_cases henabled : a.enabled <;> simp [Request.mayTell, henabled]
    exact hone c hc
  · rw [List.mem_singleton.mp hc]
    rfl

theorem mayTell_clearValues (what : ClearRequest) :
    ∀ c ∈ clearValues what, Request.mayTell (.clear what) c := by
  obtain ⟨color, depth, stencil⟩ := what
  cases color <;> cases depth <;> cases stencil <;>
    simp [clearValues, Request.mayTell, GlCommand.clears]

/-- Requests keep to their vocabularies. -/
theorem says_serve {capabilities : Capabilities} (r : Request) :
    Says r.mayTell (serve capabilities r : Task δ r.Reply) := by
  cases r with
  | clear what =>
      refine (says_tellAll (mayTell_clearValues what)).bind fun _ => ?_
      split
      · exact says_tell rfl
      · exact .of_quiet (quiet_pure _)
  | createBuffer => exact says_createBuffer.attempt
  | writeBuffer =>
      exact ((Says.of_quiet (quiet_bytes _ _)).bind fun _ =>
        says_tellAll (by simp [Request.mayTell])).attempt
  | readBuffer => exact (says_readBuffer fun _ => rfl).attempt
  | createTexture => exact says_createTexture.attempt
  | bindTexture => exact says_bindTexture (fun _ => rfl) fun _ => rfl
  | createSampler => exact says_createSampler.attempt
  | createFramebuffer => exact says_createFramebuffer.attempt
  | compileShader => exact says_compileShader.attempt
  | linkProgram => exact says_linkProgram.attempt
  | createVertexArray => exact says_create.attempt
  | uniformLocation => exact says_uniformLocation
  | attributeLocation => exact says_lookUp?.bind fun _ => .of_quiet (quiet_pure _)
  | setUniform location value =>
      show Says _ (if location < 0 then return () else tell (.uniform location value))
      split
      · exact .of_quiet (quiet_pure _)
      · exact says_tell rfl
  | attachVertexBuffer => exact says_attachVertexBuffer
  | attachIndexBuffer => exact says_withVertexArray (fun _ => rfl) (by simp [Request.mayTell])
  | deleteBuffer | deleteTexture | deleteSampler | deleteFramebuffer | deleteProgram =>
      exact says_deleteNoted rfl
  | applyRasterizer state => exact says_tellAll (mayTell_rasterizerCommands state)
  | applyDepthStencil state => exact says_tellAll (mayTell_depthStencilCommands state)
  | applyBlend state count => exact says_tellAll (mayTell_blendCommands state count)
  | drawElements topology count byteOffset base =>
      show Says _ (drawElements topology count byteOffset base)
      unfold drawElements
      split
      · exact .of_quiet (quiet_note _ _ _)
      · exact says_tell rfl
  | _ => exact says_tell rfl

end Requests

end GlDevice

end RenderKit
