import RenderKit.Proofs.Ledger.Objects

set_option autoImplicit false

/-! # Books of new objects

What a plan refers to was found under names, so it has owners already. -/

namespace RenderKit.Session

variable {σ : Type} [InstrumentedDevice σ] {g : Guard σ} {theirs : List (Name × Object)}
  {s : State σ}

/-- Everything that is found under names has owners. -/
theorem Kept.attachment_mem (hs : Kept g theirs 0 s) {name : Name} {a : Attachment}
    (h : s.objects.lookup name = some (.attachment a)) {r : Ref Texture} (hr : r ∈ a.owned) :
    Node.texture r ∈ g.tokens + refsOf theirs s.objects :=
  hs.mem h (Multiset.mem_coe.mpr (List.mem_map_of_mem hr))

/-! ## Plans -/

theorem runs_attachmentPlan {a : Attachment} {settings : List AttachmentSetting}
    (hs : Kept g theirs 0 s)
    (ha : ∀ r ∈ a.owned, Node.texture r ∈ g.tokens + refsOf theirs s.objects) :
    Runs (attachmentPlan a settings) s
      (fun a' s' => s' = s ∧ ∀ r ∈ a'.owned, Node.texture r ∈ g.tokens + refsOf theirs s.objects)
      (Kept g theirs 0) := by
  induction settings generalizing a with
  | nil => exact Runs.pure ⟨rfl, ha⟩
  | cons setting rest ih =>
      cases setting with
      | format f => exact ih ha
      | texture name =>
          refine Runs.bind_same (runs_textureNamed hs) fun r hr => ?_
          refine Runs.bind_same (runs_look runs_view) fun t _ => ?_
          refine ih fun r' hr' => ?_
          rw [List.mem_singleton.mp hr']
          exact hs.mem hr (Multiset.mem_singleton_self _)

/-- The textures that a plan of a framebuffer brings along have owners. -/
structure Supplied (tokens : Multiset Node) (p : FramebufferPlan) : Prop where
  colors : ∀ a ∈ p.colors, ∀ r ∈ a.owned, Node.texture r ∈ tokens
  depth : ∀ a ∈ p.depth, ∀ r ∈ a.owned, Node.texture r ∈ tokens
  depthStencil : ∀ a ∈ p.depthStencil, ∀ r ∈ a.owned, Node.texture r ∈ tokens

theorem Supplied.depthAttachment {tokens : Multiset Node} {p : FramebufferPlan}
    (hp : Supplied tokens p) :
    ∀ a ∈ p.depthAttachment, ∀ r ∈ a.owned, Node.texture r ∈ tokens := by
  intro a ha
  rcases Option.or_eq_some_iff.mp ha with ha | ⟨-, ha⟩
  · exact hp.depthStencil a ha
  · exact hp.depth a ha

theorem runs_framebufferPlan {p : FramebufferPlan} {settings : List TargetSetting}
    (hs : Kept g theirs 0 s) (hp : Supplied (g.tokens + refsOf theirs s.objects) p) :
    Runs (framebufferPlan p settings) s
      (fun p' s' => s' = s ∧ Supplied (g.tokens + refsOf theirs s.objects) p')
      (Kept g theirs 0) := by
  induction settings generalizing p with
  | nil => exact Runs.pure ⟨rfl, hp⟩
  | cons setting rest ih =>
      cases setting with
      | color name =>
          refine Runs.bind_same (runs_attachmentNamed hs) fun a ha => ?_
          refine ih ⟨fun a' ha' => ?_, hp.depth, hp.depthStencil⟩
          rcases List.mem_append.mp ha' with ha' | ha'
          · exact hp.colors a' ha'
          · rw [List.mem_singleton.mp ha']
            exact fun r hr => hs.attachment_mem ha hr
      | depth name =>
          refine Runs.bind_same (runs_attachmentNamed hs) fun a ha => ?_
          refine ih ⟨hp.colors, ?_, hp.depthStencil⟩
          rintro a' ⟨⟩
          exact fun r hr => hs.attachment_mem ha hr
      | depthStencil name =>
          refine Runs.bind_same (runs_attachmentNamed hs) fun a ha => ?_
          refine ih ⟨hp.colors, hp.depth, ?_⟩
          rintro a' ⟨⟩
          exact fun r hr => hs.attachment_mem ha hr

theorem runs_stageInputs [Toolchain] {settings : List StageSetting} (hs : Kept g theirs 0 s) :
    Runs (stageInputs settings) s (fun _ s' => s'.objects = s.objects ∧ Kept g theirs 0 s')
      (Kept g theirs 0) := by
  induction settings generalizing s with
  | nil => exact Runs.pure ⟨rfl, hs⟩
  | cons setting rest ih =>
      cases setting with
      | input i => exact Runs.bind (ih hs) fun _ s' hs' => Runs.pure hs'
      | compiled stage origin source =>
          refine Runs.bind (hs.runs_make (((quiet_compile _ _ _).books hs.owns_zero).imp
            fun _ _ h => h.congr (zero_add _).symm)) ?_
          rintro words s₁ ⟨hsame, hs₁⟩
          refine Runs.bind (ih hs₁) ?_
          rintro inputs s₂ ⟨hsame₂, hs₂⟩
          exact Runs.pure ⟨hsame₂.trans hsame, hs₂⟩

theorem runs_pipelinePlan {p : PipelinePlan} {settings : List PipelineSetting}
    (hs : Kept g theirs 0 s)
    (hp : ∀ r ∈ p.program, Node.program r ∈ g.tokens + refsOf theirs s.objects) :
    Runs (pipelinePlan p settings) s
      (fun p' s' => s' = s ∧
        ∀ r ∈ p'.program, Node.program r ∈ g.tokens + refsOf theirs s.objects)
      (Kept g theirs 0) := by
  induction settings generalizing p with
  | nil => exact Runs.pure ⟨rfl, hp⟩
  | cons setting rest ih =>
      cases setting with
      | program name =>
          refine Runs.bind_same (runs_programNamed hs) fun r hr => ?_
          refine ih ?_
          rintro r' ⟨⟩
          exact hs.mem hr (Multiset.mem_singleton_self _)
      | layout name =>
          refine Runs.bind_same (runs_layoutNamed hs) fun l _ => ?_
          exact ih hp
      | vertexBuffer name =>
          refine Runs.bind_same (runs_bufferNamed hs) fun r _ => ?_
          exact ih hp
      | indexBuffer name =>
          refine Runs.bind_same (runs_bufferNamed hs) fun r _ => ?_
          exact ih hp
      | topology t => exact ih hp
      | rasterizer r => exact ih hp
      | depthStencil d => exact ih hp
      | blend b => exact ih hp
      | attachments n => exact ih hp

theorem runs_meshPlan {p : MeshPlan} {settings : List MeshSetting} (hs : Kept g theirs 0 s)
    (hvertices : ∀ r ∈ p.vertexBuffer, Node.buffer r ∈ g.tokens + refsOf theirs s.objects)
    (hindices : ∀ r ∈ p.indexBuffer, Node.buffer r ∈ g.tokens + refsOf theirs s.objects) :
    Runs (meshPlan p settings) s
      (fun p' s' => s' = s ∧
        (∀ r ∈ p'.vertexBuffer, Node.buffer r ∈ g.tokens + refsOf theirs s.objects) ∧
        ∀ r ∈ p'.indexBuffer, Node.buffer r ∈ g.tokens + refsOf theirs s.objects)
      (Kept g theirs 0) := by
  induction settings generalizing p with
  | nil => exact Runs.pure ⟨rfl, hvertices, hindices⟩
  | cons setting rest ih =>
      cases setting with
      | vertexBuffer name =>
          refine Runs.bind_same (runs_bufferNamed hs) fun r hr => ?_
          refine ih ?_ hindices
          rintro r' ⟨⟩
          exact hs.mem hr (Multiset.mem_singleton_self _)
      | indexBuffer name =>
          refine Runs.bind_same (runs_bufferNamed hs) fun r hr => ?_
          refine ih hvertices ?_
          rintro r' ⟨⟩
          exact hs.mem hr (Multiset.mem_singleton_self _)
      | layout name =>
          refine Runs.bind_same (runs_layoutNamed hs) fun l _ => ?_
          exact ih hvertices hindices
      | topology t => exact ih hvertices hindices
      | vertexCount n => exact ih hvertices hindices
      | indexCount n => exact ih hvertices hindices

/-- What is in a slot afterwards came there or was there. -/
theorem mem_putSlot_values {α : Type} [Traced α] {entries : List (UInt32 × Ref α)} {slot : UInt32}
    {r : Ref α} {tokens : Multiset Node}
    (h : ∀ r ∈ entries.map (·.2), Traced.node r ∈ tokens) (hr : Traced.node r ∈ tokens) :
    ∀ r' ∈ (putSlot entries slot r).map (·.2), Traced.node r' ∈ tokens := by
  intro r' hr'
  obtain ⟨e, he, rfl⟩ := List.mem_map.mp hr'
  rcases mem_of_mem_putSlot he with rfl | he
  · exact hr
  · exact h _ (List.mem_map_of_mem he)

theorem runs_materialPlan {p : MaterialPlan} {settings : List MaterialSetting}
    (hs : Kept g theirs 0 s) (hp : Material.Available p (g.tokens + refsOf theirs s.objects))
    (hordered : Ascending p.textures ∧ Ascending p.samplers) :
    Runs (materialPlan p settings) s
      (fun p' s' => s' = s ∧ Material.Available p' (g.tokens + refsOf theirs s.objects) ∧
        Ascending p'.textures ∧ Ascending p'.samplers)
      (Kept g theirs 0) := by
  induction settings generalizing p with
  | nil => exact Runs.pure ⟨rfl, hp, hordered⟩
  | cons setting rest ih =>
      cases setting with
      | program name =>
          refine Runs.bind_same (runs_programNamed hs) fun r hr => ?_
          refine ih ⟨?_, hp.2⟩ hordered
          rintro r' ⟨⟩
          exact hs.mem hr (Multiset.mem_singleton_self _)
      | uniform name value => exact ih hp hordered
      | texture slot name =>
          refine Runs.bind_same (runs_textureNamed hs) fun r hr => ?_
          refine ih ⟨hp.1, mem_putSlot_values hp.2.1 ?_, hp.2.2⟩
            ⟨ascending_putSlot hordered.1 slot r, hordered.2⟩
          exact hs.mem hr (Multiset.mem_singleton_self _)
      | sampler slot name =>
          refine Runs.bind_same (runs_samplerNamed hs) fun r hr => ?_
          refine ih ⟨hp.1, hp.2.1, mem_putSlot_values hp.2.2 ?_⟩
            ⟨hordered.1, ascending_putSlot hordered.2 slot r⟩
          exact hs.mem hr (Multiset.mem_singleton_self _)
      | removeTexture slot =>
          refine ih ⟨hp.1, fun r hr => hp.2.1 r ?_, hp.2.2⟩
            ⟨ascending_filter hordered.1 _, hordered.2⟩
          obtain ⟨e, he, rfl⟩ := List.mem_map.mp hr
          exact List.mem_map_of_mem (List.mem_of_mem_filter he)

theorem runs_programOptions {context : Option Name} {own : Option CompileOptions}
    (hs : Kept g theirs 0 s) :
    Runs (programOptions context own) s (fun _ s' => s' = s) (Kept g theirs 0) := by
  cases context with
  | none => exact Runs.pure rfl
  | some name =>
      refine Runs.bind_same (runs_contextNamed hs) fun c _ => ?_
      exact Runs.pure rfl

/-! ## Making -/

/-- A recipe refers to objects by their names alone. -/
def Recipe.Named : Recipe → Prop
  | .attachment start _ => start.texture = none
  | _ => True

/-- What a task in the world makes becomes an object that owns what it refers to. -/
theorem Kept.runs_made {α : Type} {t : Render σ α} (hs : Kept g theirs 0 s) (kind : α → Object)
    (ht : Runs t s.world
      (fun a w => (kind a).Ordered ∧ Owns g ((kind a).refs + refsOf theirs s.objects) w)
      (Owns g (refsOf theirs s.objects))) :
    Runs (do return kind (← inWorld t)) s
      (fun o s' => s'.objects = s.objects ∧ o.Ordered ∧ Kept g theirs o.refs s')
      (Kept g theirs 0) := by
  have hmake : Runs (inWorld t) s
      (fun a s' => s'.objects = s.objects ∧ (kind a).Ordered ∧ Kept g theirs (kind a).refs s')
      (Kept g theirs 0) := by
    refine (runs_inWorld ht).mono ?_ ?_
    · rintro a s' ⟨hs', hordered, howns⟩
      exact ⟨by rw [hs'], hordered, hs.of_world hs' howns⟩
    · rintro s' ⟨hs', howns⟩
      exact hs.of_world hs' (howns.congr (zero_add _).symm)
  exact Runs.bind hmake fun _ _ h => Runs.pure h

/-- A new part of the heap has one owner, and that is the object. -/
theorem Kept.runs_new {α : Type} [Traced α] {t : Render σ (Ref α)} (hs : Kept g theirs 0 s)
    (kind : Ref α → Object) (hkind : ∀ r, (kind r).refs = {Traced.node r} ∧ (kind r).Ordered)
    (ht : Runs t s.world (fun r => Owns g (Traced.node r ::ₘ refsOf theirs s.objects))
      (Owns g (refsOf theirs s.objects))) :
    Runs (do return kind (← inWorld t)) s
      (fun o s' => s'.objects = s.objects ∧ o.Ordered ∧ Kept g theirs o.refs s')
      (Kept g theirs 0) := by
  refine hs.runs_made kind (ht.imp fun r w howns => ⟨(hkind r).2, ?_⟩)
  rw [(hkind r).1, Multiset.singleton_add]
  exact howns

theorem runs_make [Toolchain] [ImageCodec] {recipe : Recipe} (hs : Kept g theirs 0 s)
    (hrecipe : recipe.Named) :
    Runs (make recipe) s
      (fun o s' => s'.objects = s.objects ∧ o.Ordered ∧ Kept g theirs o.refs s')
      (Kept g theirs 0) := by
  have howns := hs.owns_zero
  cases recipe with
  | buffer kind usage size data =>
      exact hs.runs_new Object.buffer (fun _ => ⟨rfl, trivial⟩) (Buffer.runs_create howns)
  | texture desc data =>
      exact Runs.bind_get
        (hs.runs_new Object.texture (fun _ => ⟨rfl, trivial⟩)
          ((Texture.runs_create howns).imp fun _ _ h => h.1))
  | image path data srgb mipmaps =>
      exact Runs.bind_get
        (hs.runs_new Object.texture (fun _ => ⟨rfl, trivial⟩) (Texture.runs_ofFile howns))
  | sampler desc =>
      exact hs.runs_new Object.sampler (fun _ => ⟨rfl, trivial⟩) (Sampler.runs_create howns)
  | attachment start settings =>
      have hstart : ∀ r ∈ start.owned, Node.texture r ∈ g.tokens + refsOf theirs s.objects := by
        have hnone : start.texture = none := hrecipe
        simp [Attachment.owned, hnone]
      refine Runs.bind_same (runs_attachmentPlan hs hstart) fun plan hplan => ?_
      refine hs.runs_made Object.attachment ((Attachment.runs_accepted howns hplan).imp ?_)
      rintro a w ⟨rfl, h⟩
      exact ⟨trivial, h⟩
  | defaultTarget width height =>
      exact hs.runs_new Object.framebuffer (fun _ => ⟨rfl, trivial⟩)
        (Framebuffer.runs_defaultTarget howns)
  | framebuffer width height settings =>
      refine Runs.bind_same (runs_framebufferPlan hs ⟨by simp [FramebufferPlan.start],
        by simp [FramebufferPlan.start], by simp [FramebufferPlan.start]⟩) fun plan hplan => ?_
      refine hs.runs_new Object.framebuffer (fun _ => ⟨rfl, trivial⟩)
        (Framebuffer.runs_create howns ?_ ?_)
      · intro r hr
        obtain ⟨a, ha, hr⟩ := List.mem_flatMap.mp hr
        exact hplan.colors a ha r hr
      · intro r hr
        obtain ⟨a, ha, hr⟩ := List.mem_flatMap.mp hr
        exact hplan.depthAttachment a (Option.mem_toList.mp ha) r hr
  | layout attributes stride =>
      exact hs.runs_made Object.layout (((VertexLayout.quiet_make _ _).books howns).imp
        fun _ _ h => ⟨trivial, h.congr (zero_add _).symm⟩)
  | program context own reflected stages =>
      refine Runs.bind (runs_programOptions hs) ?_
      rintro options s rfl
      refine Runs.bind (runs_stageInputs hs) ?_
      rintro inputs s₁ ⟨hsame₁, hs₁⟩
      refine (Runs.bind_get (hs₁.runs_new Object.program (fun _ => ⟨rfl, trivial⟩)
        (Program.runs_create hs₁.owns_zero))).imp ?_
      rintro o s₂ ⟨hsame₂, ho, hs₂⟩
      exact ⟨hsame₂.trans hsame₁, ho, hs₂⟩
  | pipeline mesh settings =>
      have hrest : ∀ start : PipelinePlan, start.program = none →
          Runs (do
            let plan ← pipelinePlan start settings
            return .pipeline (← inWorld (Pipeline.create plan)) : Play σ Object) s
            (fun o s' => s'.objects = s.objects ∧ o.Ordered ∧ Kept g theirs o.refs s')
            (Kept g theirs 0) := by
        intro start hstart
        refine Runs.bind_same (runs_pipelinePlan hs (by simp [hstart])) fun plan hplan => ?_
        exact hs.runs_new Object.pipeline (fun _ => ⟨rfl, trivial⟩)
          (Pipeline.runs_create howns hplan)
      cases mesh with
      | none => exact hrest {} rfl
      | some name =>
          refine Runs.bind_same (runs_meshNamed hs) fun m _ => ?_
          exact hrest m.pipelinePlan rfl
  | pass framebuffer plan =>
      refine Runs.bind_same (runs_framebufferNamed hs) fun r hr => ?_
      have hpass : Runs (RenderPass.create r plan) s.world _ _ :=
        RenderPass.runs_create howns (hs.mem hr (Multiset.mem_singleton_self _))
      exact hs.runs_made Object.pass (hpass.imp fun _ _ h => ⟨trivial, h⟩)
  | mesh settings =>
      refine Runs.bind_same (runs_meshPlan hs (by simp) (by simp)) ?_
      rintro plan ⟨hvertices, hindices⟩
      exact hs.runs_made Object.mesh
        ((Mesh.runs_create howns hvertices hindices).imp fun _ _ h => ⟨trivial, h⟩)
  | material settings =>
      have hempty : Material.Available {} (g.tokens + refsOf theirs s.objects) := by
        simp [Material.Available]
      have hnone : Ascending ({} : MaterialPlan).textures ∧
          Ascending ({} : MaterialPlan).samplers :=
        ⟨List.Pairwise.nil, List.Pairwise.nil⟩
      refine Runs.bind_same (runs_materialPlan hs hempty hnone) ?_
      rintro plan ⟨hplan, hordered⟩
      refine hs.runs_made Object.material ((Material.runs_create howns hplan).imp ?_)
      rintro m w ⟨htextures, hsamplers, howns⟩
      refine ⟨?_, howns⟩
      rw [Object.Ordered, Material.Ordered, htextures, hsamplers]
      exact hordered
  | context config =>
      exact hs.runs_made Object.context ((RenderContext.runs_create howns).imp
        fun _ _ h => ⟨trivial, h.congr (zero_add _).symm⟩)
  | commands validation => exact Runs.pure ⟨rfl, trivial, hs⟩
  | contextCommands context =>
      refine Runs.bind_same (runs_contextNamed hs) fun c _ => ?_
      exact Runs.pure ⟨rfl, trivial, hs⟩

end RenderKit.Session
