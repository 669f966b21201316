import RenderKit.OpenGL.DebugOutput
import RenderKit.Proofs.OpenGL.Tasks

set_option autoImplicit false

/-! # What requests do to the context

What is bound, the masks, the elements of vertex arrays, what framebuffers draw into, the draws, the
clears and the written uniforms after a request follow from what they were before and from the
request itself. -/

namespace RenderKit

/-- What is bound after a request. -/
@[simp] def Bindings.after (b : Bindings) : Request → Bindings
  | .useProgram program => { b with program := Handle.rawOf program }
  | .bindVertexArray array => { b with vertexArray := Handle.rawOf array }
  | .bindFramebuffer framebuffer => { b with framebuffer := Handle.rawOf framebuffer }
  | .bindTexture slot texture =>
      { b with
        texture := Function.update b.texture (firstTextureUnit + slot) (Handle.rawOf texture) }
  | r => b.without r.deleted

/-- The color masks after some attachments, which begin with a place. -/
def colorMasks (color : UInt32 → WriteMask) (attachments : List (BlendAttachment × Nat)) :
    UInt32 → WriteMask :=
  attachments.foldl (fun color a => Function.update color a.2.toUInt32 a.1.mask) color

@[simp] def Masks.after (m : Masks) : Request → Masks
  | .setScissor area => m.withBox ⟨area.x, area.y, area.width.toInt32, area.height.toInt32⟩
  | .applyRasterizer state => { m with scissor := state.scissorTest }
  | .applyDepthStencil state =>
      { m with depth := state.depthWrite, stencil := state.front.writeMask }
  | .applyBlend state count =>
      { m with color := colorMasks m.color (state.attachments.take count.toNat).zipIdx }
  | _ => m

namespace Request

/-- Whether a request draws. Nothing is drawn from an offset the interface has no room for. -/
@[simp] def draws : Request → Bool
  | .drawArrays .. => true
  | .drawElements _ _ byteOffset _ => byteOffset.toNat ≤ GlDevice.maxBytes
  | _ => false

/-- Whether a request draws what elements say. -/
@[simp] def drawsIndexed : Request → Bool
  | .drawElements _ _ byteOffset _ => byteOffset.toNat ≤ GlDevice.maxBytes
  | _ => false

/-- The clear that a request leads to. -/
@[simp] def clearing : Request → Trace → List Clearing
  | .clear what, t =>
      if what.isEmpty then []
      else
        [{ color := what.color
           depth := what.depth.isSome
           stencil := what.stencil.isSome
           masks := t.masks
           framebuffer := t.bindings.framebuffer
           drawBuffers := t.drawBuffers t.bindings.framebuffer }]
  | _, _ => []

/-- What a request writes to the program in use. Nothing is written where there is no location. -/
@[simp] def writing : Request → Trace → List UniformWrite
  | .setUniform location value, t =>
      if location < 0 then [] else [⟨t.bindings.program, location, value⟩]
  | _, _ => []

/-- The elements of vertex arrays after a request. -/
@[simp] def elementsAfter (t : Trace) : Request → GlName → GlName
  | .bindBuffer .index buffer =>
      Function.update t.elements t.bindings.vertexArray (Handle.rawOf buffer)
  | .attachIndexBuffer array buffer => Function.update t.elements array.raw buffer.raw
  | r => t.elementsWithout r.deleted

/-- What framebuffers draw into after a request that brought forth some objects. -/
@[simp] def drawBuffersAfter (t : Trace) (made : List Native) : Request → GlName → DrawBuffers
  | .createFramebuffer colors _ => fun name =>
      if ⟨.framebuffer, name⟩ ∈ made then GlDevice.drawSlots colors.length else t.drawBuffers name
  | r => t.drawBuffersWithout r.deleted

end Request

/-- What a request changes, and the objects it brought forth. -/
def Trace.after (t : Trace) (r : Request) (made : List Native) : Trace where
  bindings := t.bindings.after r
  masks := t.masks.after r
  elements := r.elementsAfter t
  drawBuffers := r.drawBuffersAfter t made
  draws := t.draws ++ if r.draws then [t.bindings] else []
  indexed := t.indexed ++ if r.drawsIndexed then [t.elements t.bindings.vertexArray] else []
  clears := t.clears ++ r.clearing t
  writes := t.writes ++ r.writing t

namespace Request

/-- What a request makes of a context that a reply comes from. -/
structure Served (r : Request) (g : GlContext) (reply : r.Reply) (g' : GlContext) : Prop where
  trace : g'.trace = g.trace.after r (r.issued reply)
  /-- A new object is none that was there. -/
  fresh : ∀ x ∈ r.issued reply, x ∉ g.objects
  kept : ∀ x, x ∈ g.objects ∨ x ∈ r.issued reply → x ∉ r.deleted → x ∈ g'.objects

/-- Whether a request has to do with bindings and masks at most. -/
def isStill : Request → Bool
  | .clear _ | .createFramebuffer .. | .attachIndexBuffer .. | .setUniform .. | .drawArrays ..
  | .drawElements ..
  | .deleteBuffer _ | .deleteTexture _ | .deleteSampler _ | .deleteFramebuffer _ | .deleteShader _
  | .deleteProgram _ | .deleteVertexArray _ => false
  | .bindBuffer kind _ => kind ≠ .index
  | _ => true

theorem after_of_isStill {r : Request} (h : r.isStill) (t : Trace) (made : List Native) :
    t.after r made = { t with bindings := t.bindings.after r, masks := t.masks.after r } := by
  cases r with
  | bindBuffer kind buffer =>
      cases kind with
      | index => cases h
      | vertex | uniform | storage =>
          simp [Trace.after, deleted]
  | _ =>
      first
        | simp [Trace.after, deleted]
          done
        | cases h

theorem after_of_deleted {r : Request} {x : Native} (h : r.deleted = [x]) (t : Trace)
    (made : List Native) :
    t.after r made = { t with
      bindings := t.bindings.without [x]
      elements := t.elementsWithout [x]
      drawBuffers := t.drawBuffersWithout [x] } := by
  rw [← h]
  cases r with
  | deleteBuffer | deleteTexture | deleteSampler | deleteFramebuffer | deleteShader | deleteProgram
  | deleteVertexArray =>
      simp [Trace.after]
  | _ => cases h

/-- Whether a request only makes, fills or attaches an object, looks into one, or sets something
    that has nothing to do with the context. -/
def isIdle : Request → Bool
  | .setViewport _ | .createBuffer .. | .writeBuffer .. | .readBuffer ..
  | .bindBufferBase .. | .createTexture .. | .createSampler _ | .bindSampler ..
  | .compileShader .. | .linkProgram _ | .uniformLocation ..
  | .attributeLocation .. | .createVertexArray | .attachVertexBuffer .. => true
  | .bindBuffer kind _ => kind ≠ .index
  | _ => false

theorem isStill_of_isIdle {r : Request} (h : r.isIdle) : r.isStill := by
  cases r <;> first | rfl | exact h

theorem after_of_isIdle {r : Request} (h : r.isIdle) (t : Trace) (made : List Native) :
    t.after r made = t := by
  rw [after_of_isStill (isStill_of_isIdle h)]
  cases r <;> first | rfl | cases h

theorem served_idle {r : Request} (h : r.isIdle) {reply : r.Reply} (hissued : r.issued reply = [])
    (g : GlContext) : Served r g reply g := by
  refine ⟨(after_of_isIdle h _ _).symm, ?_, ?_⟩
  · simp [hissued]
  · intro x hx _
    simpa [hissued] using hx

theorem served_made {r : Request} (h : r.isIdle) {reply : r.Reply} {x : Native}
    (hissued : r.issued reply = [x]) {g : GlContext} (hnew : x ∉ g.objects) :
    Served r g reply (GlDevice.withObject x g) := by
  refine ⟨(after_of_isIdle h _ _).symm, ?_, ?_⟩
  · simpa [hissued] using hnew
  · intro y hy _
    rw [hissued, List.mem_singleton] at hy
    exact List.mem_cons.mpr hy.symm

/-- A request that deletes an object. -/
theorem served_delete {r : Request} {kind : ObjectKind} {h : Handle kind} {g : GlContext}
    {reply : r.Reply} (hdeleted : r.deleted = [h.native]) (hissued : r.issued reply = []) :
    Served r g reply (g.run (.delete kind h.raw)) := by
  refine ⟨(after_of_deleted hdeleted _ _).symm, ?_, ?_⟩
  · simp [hissued]
  · intro x hx hne
    rw [hdeleted, List.mem_singleton] at hne
    rw [hissued] at hx
    refine List.mem_filter.mpr ⟨by simpa using hx, ?_⟩
    simpa [Handle.native] using hne

/-- A request that keeps all objects. -/
theorem served_of_objects {r : Request} {g g' : GlContext} {reply : r.Reply}
    (htrace : g'.trace = g.trace.after r []) (hissued : r.issued reply = [])
    (hobjects : g'.objects = g.objects) : Served r g reply g' :=
  ⟨hissued.symm ▸ htrace, by simp [hissued], fun x hx _ => by simpa [hissued, hobjects] using hx⟩

/-- A request that changes bindings or masks. -/
theorem served_still {r : Request} {g g' : GlContext} {reply : r.Reply} (h : r.isStill)
    (htrace : g'.trace =
      { g.trace with bindings := g.bindings.after r, masks := g.masks.after r })
    (hissued : r.issued reply = []) (hobjects : g'.objects = g.objects) : Served r g reply g' :=
  served_of_objects (htrace.trans (after_of_isStill h _ _).symm) hissued hobjects

end Request

namespace GlDevice

variable {δ : Type} [GlDriver δ] [Conforming δ] {w : Work δ} {E : Work δ → Prop}

/-- A request that is attempted makes an object or changes nothing. -/
theorem runs_attempt_make {kind : ObjectKind} {t : Task δ (Handle kind)} {g : GlContext}
    {Q : Except Error (Handle kind) → GlContext → Prop}
    (ht : Runs t w (fun h => Makes g h) (fun w' => w'.context = g))
    (hok : ∀ h : Handle kind, h.native ∉ g.objects → Q (.ok h) (withObject h.native g))
    (herror : ∀ e, Q (.error e) g) :
    Runs (attempt t) w (fun reply w' => Q reply w'.context) E := by
  refine (runs_attempt ht).imp ?_
  rintro (e | h) w' hw'
  · have hw' : w'.context = g := hw'
    rw [hw']
    exact herror e
  · obtain ⟨hnew, hw'⟩ := hw'
    rw [hw']
    exact hok h hnew

/-! ## Clears and fixed functions -/

/-- What is set up for a clear has to do with this clear only. -/
theorem runAll_clearValues (what : ClearRequest) (g : GlContext) :
    g.runAll (clearValues what) = { g with clearColor := what.color.getD g.clearColor } := by
  obtain ⟨color, depth, stencil⟩ := what
  cases color <;> cases depth <;> cases stencil <;> rfl

theorem runs_clear {what : ClearRequest} :
    Runs (clear what) w
      (fun reply w' => (Request.clear what).Served w.context reply w'.context) E := by
  have hafter : w.context.trace.after (.clear what) [] =
      { w.context.trace with
        clears := w.context.clears ++ (Request.clear what).clearing w.context.trace } := by
    simp [Trace.after, Request.deleted]
  refine Runs.bind runs_tellAll fun _ w₁ h₁ => ?_
  rw [runAll_clearValues] at h₁
  split
  · rename_i hsome
    have hsome : what.isEmpty = false := by simpa using hsome
    refine runs_tell.imp fun _ w₂ h₂ => ?_
    rw [h₂, h₁]
    refine Request.served_of_objects ?_ rfl rfl
    rw [hafter, Request.clearing, if_neg (by simp [hsome])]
    obtain ⟨color, depth, stencil⟩ := what
    cases color <;> rfl
  · rename_i hnone
    have hnone : what.isEmpty = true := by simpa using hnone
    refine Runs.pure ?_
    rw [h₁]
    refine Request.served_of_objects ?_ rfl rfl
    rw [hafter, Request.clearing, if_pos hnone, List.append_nil]

theorem runAll_rasterizerCommands (r : Rasterizer) (g : GlContext) :
    g.runAll (rasterizerCommands r) =
      { g with masks := { g.masks with scissor := r.scissorTest } } := by
  unfold rasterizerCommands
  rcases r.cull.face? with _ | face
  · by_cases hoffset : r.offsetEnabled
    · simp [hoffset, GlContext.run]
    · simp [hoffset, GlContext.run]
  · by_cases hoffset : r.offsetEnabled
    · simp [hoffset, GlContext.run]
    · simp [hoffset, GlContext.run]

theorem runAll_depthStencilCommands (d : DepthStencil) (g : GlContext) :
    g.runAll (depthStencilCommands d) =
      { g with masks := { g.masks with depth := d.depthWrite, stencil := d.front.writeMask } } := by
  simp [depthStencilCommands, stencilCommands, GlContext.run]

theorem runAll_blendCommands (b : Blend) (count : UInt32) (g : GlContext) :
    g.runAll (blendCommands b count) =
      { g with
        masks :=
          { g.masks with
            color := colorMasks g.masks.color (b.attachments.take count.toNat).zipIdx } } := by
  have hone : ∀ (a : BlendAttachment) (i : UInt32) (g : GlContext),
      g.runAll (blendAttachmentCommands i a) =
        { g with
          masks := { g.masks with color := Function.update g.masks.color i a.mask } } := by
    intro a i g
    unfold blendAttachmentCommands
    by_cases henabled : a.enabled
    · simp [henabled, GlContext.run]
    · simp [henabled, GlContext.run]
  have hall : ∀ (attachments : List (BlendAttachment × Nat)) (g : GlContext),
      g.runAll (attachments.flatMap fun a => blendAttachmentCommands a.2.toUInt32 a.1) =
        { g with masks := { g.masks with color := colorMasks g.masks.color attachments } } := by
    intro attachments
    induction attachments with
    | nil => intro g; rfl
    | cons a rest ih =>
        intro g
        rw [List.flatMap_cons, GlContext.runAll_append, hone, ih]
        rfl
  rw [blendCommands, GlContext.runAll_append, hall]
  rfl

/-- A request that sets masks. -/
theorem runs_apply {cs : List GlCommand} {r : Request} (hstill : r.isStill)
    (hbindings : w.context.bindings.after r = w.context.bindings)
    (hcs : w.context.runAll cs = { w.context with masks := w.context.masks.after r })
    (hissued : ∀ reply, r.issued reply = []) :
    Runs (tellAll cs) w (fun _ w' => ∀ reply, r.Served w.context reply w'.context) E := by
  refine runs_tellAll.imp fun _ w' hw' reply => ?_
  rw [hw', hcs]
  refine Request.served_still hstill ?_ (hissued reply) rfl
  rw [hbindings]

/-! ## Bindings and draws -/

theorem runs_bindTexture {slot : UInt32} {texture : Option TextureHandle} :
    Runs (bindTexture slot texture) w
      (fun reply w' => (Request.bindTexture slot texture).Served w.context reply w'.context) E := by
  unfold bindTexture
  dsimp only
  split
  · exact Runs.bind (P := fun _ _ => False) runs_abort fun _ _ h => h.elim
  · refine Runs.bind runs_tell fun _ w₁ h₁ => runs_tell.imp fun _ w₂ h₂ => ?_
    rw [h₂, h₁]
    exact Request.served_still rfl rfl rfl rfl

theorem runs_setUniform {location : Int32} {value : UniformValue} :
    Runs (if location < 0 then return () else tell (.uniform location value)) w
      (fun reply w' => (Request.setUniform location value).Served w.context reply w'.context)
      E := by
  split
  · rename_i hnone
    refine Runs.pure (Request.served_of_objects ?_ rfl rfl)
    simp [Trace.after, Request.deleted, hnone]
  · rename_i hsome
    refine runs_tell.imp fun _ w' hw' => ?_
    rw [hw']
    refine Request.served_of_objects ?_ rfl rfl
    simp [GlContext.run, Trace.after, Request.deleted, hsome]

/-- Elements are read from the buffer of the vertex array that is bound. -/
theorem runs_bindBuffer {kind : BufferKind} {buffer : Option BufferHandle} :
    Runs (tell (.bindBuffer kind.target (Handle.rawOf buffer))) w
      (fun reply w' => (Request.bindBuffer kind buffer).Served w.context reply w'.context) E := by
  refine runs_tell.imp fun _ w' hw' => ?_
  rw [hw']
  cases kind with
  | index =>
      refine Request.served_of_objects ?_ rfl rfl
      simp [GlContext.run, BufferKind.target, Trace.after, Request.deleted]
  | vertex | uniform | storage => exact Request.served_idle rfl rfl _

theorem runs_serveAttachIndexBuffer {array : VertexArrayHandle} {buffer : BufferHandle} :
    Runs (attachIndexBuffer array buffer) w
      (fun reply w' =>
        (Request.attachIndexBuffer array buffer).Served w.context reply w'.context) E := by
  refine (runs_attachIndexBuffer rfl).imp fun _ w' hw' => ?_
  rw [hw']
  refine Request.served_of_objects ?_ rfl rfl
  simp [Trace.after, Request.deleted]

/-- A framebuffer that is made draws into the slots of its colors. -/
theorem runs_serveCreateFramebuffer {limit : UInt32} {colors : List TextureHandle}
    {depth : Option (TextureHandle × AttachmentPoint)} (hregular : w.context.Regular) :
    Runs (attempt (createFramebuffer limit colors depth)) w
      (fun reply w' =>
        (Request.createFramebuffer colors depth).Served w.context reply w'.context) E := by
  have hafter : ∀ made, w.context.trace.after (.createFramebuffer colors depth) made =
      { w.context.trace with
        drawBuffers := (Request.createFramebuffer colors depth).drawBuffersAfter
          w.context.trace made } := by
    intro made
    simp [Trace.after, Request.deleted]
  refine (runs_attempt (runs_createFramebuffer rfl hregular)).imp ?_
  rintro (e | h) w' hw'
  · have hw' : w'.context = w.context := hw'
    rw [hw']
    exact Request.served_of_objects (hafter []).symm rfl rfl
  · obtain ⟨hnew, hw'⟩ := hw'
    rw [hw']
    refine ⟨?_, ?_, ?_⟩
    · have hdraw : (Request.createFramebuffer colors depth).drawBuffersAfter w.context.trace
          [h.native] = Function.update w.context.drawBuffers h.raw (drawSlots colors.length) := by
        funext name
        rw [Function.update_apply]
        simp [Request.drawBuffersAfter, Handle.native]
      rw [hafter]
      exact congrArg (fun d => { w.context.trace with drawBuffers := d }) hdraw.symm
    · simpa [Request.issued] using hnew
    · intro x hx _
      simpa [Request.issued, withFramebuffer, withObject, or_comm] using hx

theorem runs_drawArrays {topology : Topology} {first count : UInt32} :
    Runs (tell (.drawArrays topology first.toInt32 count.toInt32)) w
      (fun reply w' =>
        (Request.drawArrays topology first count).Served w.context reply w'.context) E := by
  refine runs_tell.imp fun _ w' hw' => ?_
  rw [hw']
  refine Request.served_of_objects ?_ rfl rfl
  simp [GlContext.run, Trace.after, Request.deleted]

theorem runs_drawElements {topology : Topology} {count : UInt32} {byteOffset : UInt64}
    {base : Int32} :
    Runs (drawElements topology count byteOffset base) w
      (fun reply w' => (Request.drawElements topology count byteOffset base).Served w.context reply
        w'.context) E := by
  unfold drawElements
  split
  · rename_i hbig
    refine runs_note (Request.served_of_objects ?_ rfl rfl)
    simp [Work.context, HasJournal.note, Trace.after, Request.deleted, Nat.not_le.mpr hbig]
  · rename_i hsmall
    refine runs_tell.imp fun _ w' hw' => ?_
    rw [hw']
    refine Request.served_of_objects ?_ rfl rfl
    simp [GlContext.run, Trace.after, Request.deleted, Nat.not_lt.mp hsmall]

/-! ## Requests -/

/-- Every request does to the context what it says. -/
theorem runs_serve {capabilities : Capabilities} {r : Request}
    (hregular : w.context.Regular) :
    Runs (serve capabilities r) w
      (fun reply w' => r.Served w.context reply w'.context) E := by
  -- the four ways in which requests are served
  have htell : ∀ {c : GlCommand} {r : Request} {reply : r.Reply},
      r.Served w.context reply (w.context.run c) →
      Runs (tell c) w (fun _ w' => r.Served w.context reply w'.context) E :=
    fun h => runs_tell.imp fun _ _ hw => hw ▸ h
  have hsame : ∀ {α : Type} {t : Task δ α} {Q : α → GlContext → Prop},
      Runs t w (fun _ w' => w'.context = w.context) E → (∀ reply, Q reply w.context) →
      Runs t w (fun reply w' => Q reply w'.context) E :=
    fun ht hQ => ht.imp fun _ _ hw => hw ▸ hQ _
  have hattempt : ∀ {α : Type} {t : Task δ α} {Q : Except Error α → GlContext → Prop},
      Runs t w (fun _ w' => w'.context = w.context) (fun w' => w'.context = w.context) →
      (∀ reply, Q reply w.context) → Runs (attempt t) w (fun reply w' => Q reply w'.context) E := by
    intro α t Q ht hQ
    refine hsame ((runs_attempt ht).imp ?_) hQ
    rintro (e | a) w' hw'
    · exact hw'
    · exact hw'
  cases r with
  | clear what => exact runs_clear
  | setViewport area => exact htell (Request.served_idle rfl rfl _)
  | setScissor area =>
      exact htell (Request.served_still rfl rfl rfl rfl)
  | createBuffer kind usage size data =>
      exact runs_attempt_make (runs_createBuffer rfl)
        (fun h hnew => Request.served_made rfl rfl hnew)
        fun e => Request.served_idle rfl rfl _
  | writeBuffer buffer kind offset data =>
      exact hattempt (runs_writeBuffer rfl) fun reply => Request.served_idle rfl rfl _
  | readBuffer buffer kind offset length =>
      exact hattempt (runs_readBuffer rfl) fun reply => Request.served_idle rfl rfl _
  | bindBuffer kind buffer => exact runs_bindBuffer
  | bindBufferBase kind index buffer => exact htell (Request.served_idle rfl rfl _)
  | deleteBuffer buffer =>
      exact Runs.bind_note (htell (Request.served_delete rfl rfl))
  | createTexture desc data =>
      exact runs_attempt_make (runs_createTexture rfl)
        (fun h hnew => Request.served_made rfl rfl hnew)
        fun e => Request.served_idle rfl rfl _
  | bindTexture slot texture => exact runs_bindTexture
  | deleteTexture texture =>
      exact Runs.bind_note (htell (Request.served_delete rfl rfl))
  | createSampler desc =>
      exact runs_attempt_make (runs_createSampler rfl)
        (fun h hnew => Request.served_made rfl rfl hnew)
        fun e => Request.served_idle rfl rfl _
  | bindSampler slot sampler => exact htell (Request.served_idle rfl rfl _)
  | deleteSampler sampler =>
      exact Runs.bind_note (htell (Request.served_delete rfl rfl))
  | createFramebuffer colors depth => exact runs_serveCreateFramebuffer hregular
  | bindFramebuffer framebuffer =>
      exact htell (Request.served_still rfl rfl rfl rfl)
  | deleteFramebuffer framebuffer =>
      exact Runs.bind_note (htell (Request.served_delete rfl rfl))
  | compileShader stage source =>
      exact runs_attempt_make (runs_compileShader rfl hregular)
        (fun h hnew => Request.served_made rfl rfl hnew) fun e => Request.served_idle rfl rfl _
  | deleteShader shader => exact htell (Request.served_delete rfl rfl)
  | linkProgram shaders =>
      exact runs_attempt_make (runs_linkProgram rfl hregular)
        (fun h hnew => Request.served_made rfl rfl hnew) fun e => Request.served_idle rfl rfl _
  | useProgram program =>
      exact htell (Request.served_still rfl rfl rfl rfl)
  | deleteProgram program =>
      exact Runs.bind_note (htell (Request.served_delete rfl rfl))
  | uniformLocation program name =>
      exact hsame (runs_uniformLocation rfl) fun reply => Request.served_idle rfl rfl _
  | attributeLocation program name =>
      exact hsame (runs_attributeLocation rfl) fun reply => Request.served_idle rfl rfl _
  | setUniform location value => exact runs_setUniform
  | createVertexArray =>
      exact runs_attempt_make (runs_create rfl rfl) (fun h hnew => Request.served_made rfl rfl hnew)
        fun e => Request.served_idle rfl rfl _
  | bindVertexArray array =>
      exact htell (Request.served_still rfl rfl rfl rfl)
  | attachVertexBuffer array buffer layout =>
      exact hsame (runs_attachVertexBuffer rfl) fun reply => Request.served_idle rfl rfl _
  | attachIndexBuffer array buffer => exact runs_serveAttachIndexBuffer
  | deleteVertexArray array => exact htell (Request.served_delete rfl rfl)
  | applyRasterizer state =>
      exact (runs_apply (r := .applyRasterizer state) rfl rfl (runAll_rasterizerCommands _ _)
        fun _ => rfl).imp fun reply _ h => h reply
  | applyDepthStencil state =>
      exact (runs_apply (r := .applyDepthStencil state) rfl rfl
        (runAll_depthStencilCommands _ _) fun _ => rfl).imp fun reply _ h => h reply
  | applyBlend state count =>
      exact (runs_apply (r := .applyBlend state count) rfl rfl (runAll_blendCommands _ _ _)
        fun _ => rfl).imp fun reply _ h => h reply
  | drawArrays topology first count => exact runs_drawArrays
  | drawElements topology count byteOffset base => exact runs_drawElements

end GlDevice

end RenderKit
