import RenderKit.Command.Buffer
import RenderKit.Proofs.Buffers.Making
import RenderKit.Proofs.Meshes.Bounds
import RenderKit.Proofs.OpenGL.Numbers
import RenderKit.Proofs.OpenGL.Reference
import RenderKit.Proofs.OpenGL.Storing

set_option autoImplicit false

/-! # Draws of meshes

A command buffer with a pipeline draws a mesh by one request, for exactly what the mesh counts;
attaching the buffers before it draws nothing. On a device for OpenGL a buffer has fewer than 2 ^ 31
bytes, so a count that its size allows arrives at the driver as it is. -/

namespace RenderKit

/-! ## Requests and commands that draw -/

def Request.isDraw (r : Request) : Bool := r matches .drawArrays .. | .drawElements ..

def GlCommand.isDraw (c : GlCommand) : Bool := c matches .drawArrays .. | .drawElements ..

/-- Only requests that draw come down to commands that do. -/
theorem Request.isDraw_of_mayTell {r : Request} {c : GlCommand} (h : r.isDraw = false)
    (may : r.mayTell c) : c.isDraw = false := by
  -- three requests come down to commands that are described by a test, all others to lists of them
  cases r with
  | drawArrays | drawElements => cases h
  | attachVertexBuffer => cases c <;> first | rfl | simp [mayTell, GlCommand.describes] at may
  | clear => cases c <;> first | rfl | simp [mayTell, GlCommand.clears] at may
  | createFramebuffer => cases c <;> first | rfl | simp [mayTell, GlCommand.assembles] at may
  | _ => cases c <;> first | rfl | simp [mayTell] at may

/-! ## What holds as long as nothing is drawn -/

/-- A property of worlds about devices and histories that requests keep unless they draw. -/
structure Undrawn {σ : Type} [GraphicsDevice σ] (P : World σ → Prop) : Prop where
  asked : ∀ (r : Request) (w : World σ), r.isDraw = false →
    (GraphicsDevice.perform r w.device).reply.isSome → P w → P (w.asked r)
  same : ∀ w w' : World σ, w'.device = w.device → w'.calls = w.calls → P w → P w'

namespace Undrawn

variable {σ : Type} [GraphicsDevice σ] {P : World σ → Prop} {w : World σ}

theorem runs_ask (hP : Undrawn P) {r : Request} (h : r.isDraw = false) (hw : P w) :
    Runs (ask r) w (fun _ => P) (fun _ => True) := by
  refine RenderKit.runs_ask.imp ?_
  rintro reply _ ⟨rfl, hreply⟩
  exact hP.asked r w h (by simp [hreply]) hw

/-- Giving up a buffer may delete it. -/
theorem runs_release (hP : Undrawn P) {r : Ref Buffer} (hw : P w) :
    Runs (release r) w (fun _ => P) (fun _ => True) := by
  have hleave : Runs (leave r : Render σ (Option Buffer)) w (fun _ => P) (fun _ => True) :=
    Runs.bind_get (Runs.bind_set (Runs.pure (hP.same w _ rfl rfl hw)))
  refine Runs.bind hleave fun last w₁ h₁ => ?_
  cases last with
  | some b => exact hP.runs_ask rfl h₁
  | none => exact Runs.pure h₁

theorem runs_releaseOption (hP : Undrawn P) {r : Option (Ref Buffer)} (hw : P w) :
    Runs (releaseOption r) w (fun _ => P) (fun _ => True) := by
  cases r with
  | none => exact Runs.pure hw
  | some r => exact Runs.bind (hP.runs_release hw) fun _ w₁ h₁ => Runs.pure h₁

/-- A buffer takes the place of another one. -/
theorem runs_replace (hP : Undrawn P) {r : Ref Pipeline} {buffer : Ref Buffer} {request : Request}
    {change : Pipeline → Pipeline} {previous : Option (Ref Buffer)} (h : request.isDraw = false)
    (hw : P w) :
    Runs (do
      let _ ← ask request
      hold buffer
      alter r change
      releaseOption previous) w (fun _ => P) (fun _ => True) := by
  refine Runs.bind (hP.runs_ask h hw) fun _ w₁ h₁ => ?_
  refine Runs.bind_modify (Runs.bind_modify (hP.runs_releaseOption ?_))
  exact hP.same w₁ _ rfl rfl h₁

theorem runs_setVertexBuffer (hP : Undrawn P) {r : Ref Pipeline} {buffer : Ref Buffer}
    (hw : P w) : Runs (Pipeline.setVertexBuffer r buffer) w (fun _ => P) (fun _ => True) := by
  refine Runs.bind_same runs_view fun b _ => ?_
  refine Runs.reject_if trivial fun _ => Runs.bind runs_view ?_
  rintro p w ⟨rfl, -⟩
  exact hP.runs_replace rfl hw

theorem runs_setIndexBuffer (hP : Undrawn P) {r : Ref Pipeline} {buffer : Ref Buffer}
    (hw : P w) : Runs (Pipeline.setIndexBuffer r buffer) w (fun _ => P) (fun _ => True) := by
  refine Runs.bind_same runs_view fun b _ => ?_
  refine Runs.reject_if trivial fun _ => Runs.bind runs_view ?_
  rintro p w ⟨rfl, -⟩
  exact hP.runs_replace rfl hw

/-- A mesh is attached without a draw. -/
theorem runs_attach (hP : Undrawn P) {m : Mesh} {r : Ref Pipeline} (hw : P w) :
    Runs (m.attach r) w (fun _ => P) (fun _ => True) := by
  refine Runs.bind_same runs_view fun p _ => ?_
  refine Runs.reject_if trivial fun _ => ?_
  refine Runs.bind (hP.runs_setVertexBuffer hw) fun _ w₁ h₁ => ?_
  split
  · exact hP.runs_setIndexBuffer h₁
  · exact Runs.pure h₁

end Undrawn

/-! ## The draw of a mesh -/

namespace Mesh

/-- What is counted when the mesh is drawn. -/
def drawn (m : Mesh) : UInt32 := if m.isIndexed then m.indexCount else m.vertexCount

/-- The request that draws all of the mesh and nothing else. -/
def drawing (m : Mesh) : Request :=
  if m.isIndexed then .drawElements m.topology m.indexCount 0 0
  else .drawArrays m.topology 0 m.vertexCount

/-- The command that draws so many elements from the first one on. -/
def command (m : Mesh) (count : Int32) : GlCommand :=
  if m.isIndexed then .drawElements m.topology count 0 0 else .drawArrays m.topology 0 count

theorem isDraw_drawing (m : Mesh) : m.drawing.isDraw := by
  unfold drawing
  split <;> rfl

theorem isDraw_command (m : Mesh) (count : Int32) : (m.command count).isDraw := by
  unfold command
  split <;> rfl

section Drawing

variable {σ : Type} [GraphicsDevice σ] {P : World σ → Prop} {w : World σ} {m : Mesh}
  {c : CommandBuffer}

/-- The world after a request, if there was a reply, in a world before it where something holds. -/
def Asked (P : World σ → Prop) (request : Request) (w' : World σ) : Prop :=
  ∃ w, P w ∧ w' = w.asked request ∧ (GraphicsDevice.perform request w.device).reply.isSome

theorem asked_last {request : Request} (hw : P w) :
    Runs (do
      let _ ← ask request
      return c) w (fun _ => Asked P request) (fun _ => True) := by
  refine Runs.bind runs_ask ?_
  rintro reply _ ⟨rfl, hreply⟩
  exact Runs.pure ⟨w, hw, rfl, Option.isSome_of_eq_some hreply⟩

/-- The draw comes last, and until then nothing was drawn. -/
theorem asked_drawMesh {r : Ref Pipeline} (hP : Undrawn P) (hw : P w) (bound : c.pipeline = some r)
    :
    Runs (c.drawMesh m) w (fun _ => Asked P m.drawing) (fun _ => True) := by
  unfold CommandBuffer.drawMesh
  rw [bound]
  refine Runs.bind (hP.runs_attach hw) fun _ w₁ h₁ => ?_
  cases hindexed : m.isIndexed with
  | true =>
    have hdrawing : m.drawing = .drawElements m.topology m.indexCount 0 0 := if_pos hindexed
    rw [hdrawing]
    exact asked_last h₁
  | false =>
    have hdrawing : m.drawing = .drawArrays m.topology 0 m.vertexCount := by simp [drawing, hindexed]
    rw [hdrawing]
    exact asked_last h₁

end Drawing

end Mesh

/-! ## What arrives -/

theorem filter_last {α : Type} {p : α → Bool} {xs : List α} {y : α}
    (others : ∀ x ∈ xs, p x = false) (last : p y) : (xs ++ [y]).filter p = [y] := by
  have hnone : xs.filter p = [] := by
    simpa [List.filter_eq_nil_iff] using others
  rw [List.filter_append, hnone, List.nil_append, List.filter_cons_of_pos last, List.filter_nil]

/-- Calls without a draw that go on from a history. -/
theorem undrawn_history {σ : Type} [GraphicsDevice σ] (history : List Call) :
    Undrawn fun w : World σ => ∃ calls, w.history = history ++ calls ∧
      ∀ call ∈ calls, call.request.isDraw = false where
  asked r w h replied hw := by
    obtain ⟨calls, hcalls, undrawn⟩ := hw
    obtain ⟨reply, hreply⟩ := Option.isSome_iff_exists.1 replied
    refine ⟨calls ++ [⟨r, some reply⟩], ?_, ?_⟩
    · rw [history_asked hreply, hcalls, List.append_assoc]
    · intro call hcall
      rcases List.mem_append.1 hcall with hcall | hcall
      · exact undrawn call hcall
      · rw [List.mem_singleton.1 hcall]
        exact h
  same w w' _ hcalls hw := by
    unfold World.history at hw ⊢
    rwa [hcalls]

/-- A request for a draw is all that draws. -/
theorem Mesh.calls_drawMesh {σ : Type} [GraphicsDevice σ] {m : Mesh} {w : World σ}
    {c : CommandBuffer} {r : Ref Pipeline} (bound : c.pipeline = some r) :
    Runs (c.drawMesh m) w
      (fun _ w' => ∃ calls, w'.history = w.history ++ calls ∧
        (calls.map (·.request)).filter Request.isDraw = [m.drawing]) (fun _ => True) := by
  refine (asked_drawMesh (undrawn_history w.history) ⟨[], by simp⟩ bound).imp ?_
  rintro _ _ ⟨w₁, ⟨calls, hcalls, undrawn⟩, rfl, replied⟩
  obtain ⟨reply, hreply⟩ := Option.isSome_iff_exists.1 replied
  refine ⟨calls ++ [⟨m.drawing, some reply⟩], ?_, ?_⟩
  · rw [history_asked hreply, hcalls, List.append_assoc]
  · rw [List.map_append]
    exact filter_last (by simpa using undrawn) m.isDraw_drawing

section OpenGL

variable {δ : Type} [GlDriver δ] [Transcribing δ]

/-- Commands without a draw that a driver is told behind others. -/
theorem undrawn_told (told : List GlCommand) :
    Undrawn fun w : World (GlDevice δ) => ∃ cs, w.told = told ++ cs ∧ ∀ c ∈ cs, c.isDraw = false where
  asked r w h replied hw := by
    obtain ⟨cs, hcs, undrawn⟩ := hw
    obtain ⟨reply, hreply⟩ := Option.isSome_iff_exists.1 replied
    obtain ⟨more, hmore, may⟩ := GlDevice.of_perform
      (Q := fun _ driver => ∃ more, Transcribing.told driver = w.told ++ more ∧
        ∀ c ∈ more, r.mayTell c)
      ((GlDevice.says_serve r).told ⟨w.device.driver, #[]⟩) hreply
    refine ⟨cs ++ more, ?_, ?_⟩
    · rw [← List.append_assoc, ← hcs]
      exact hmore
    · intro c hc
      rcases List.mem_append.1 hc with hc | hc
      · exact undrawn c hc
      · exact Request.isDraw_of_mayTell h (may c hc)
  same w w' hdevice _ hw := by
    unfold World.told at hw ⊢
    rwa [hdevice]

/-- A mesh is drawn by one command, which gets the count as the interface takes it. -/
theorem told_drawing {m : Mesh} {w : World (GlDevice δ)} :
    (w.asked m.drawing).told = w.told ++ [m.command m.drawn.toInt32] := by
  cases hindexed : m.isIndexed with
  | true =>
    simp only [Mesh.drawing, Mesh.command, Mesh.drawn, hindexed, if_true]
    exact Transcribing.told_run _ w.device.driver
  | false =>
    simp only [Mesh.drawing, Mesh.command, Mesh.drawn, hindexed, Bool.false_eq_true, if_false]
    exact Transcribing.told_run _ w.device.driver

/-- A draw is all that is drawn. -/
theorem Mesh.told_drawMesh {m : Mesh} {w : World (GlDevice δ)} {c : CommandBuffer}
    {r : Ref Pipeline} (bound : c.pipeline = some r) :
    Runs (c.drawMesh m) w
      (fun _ w' => ∃ cs, w'.told = w.told ++ cs ∧
        cs.filter GlCommand.isDraw = [m.command m.drawn.toInt32]) (fun _ => True) := by
  refine (asked_drawMesh (undrawn_told w.told) ⟨[], by simp⟩ bound).imp ?_
  rintro _ _ ⟨w₁, ⟨cs, hcs, undrawn⟩, rfl, -⟩
  refine ⟨cs ++ [m.command m.drawn.toInt32], ?_, filter_last undrawn (m.isDraw_command _)⟩
  rw [told_drawing, hcs, List.append_assoc]

omit [Transcribing δ] in
/-- There is room for the count of a mesh whose buffers the device created. -/
theorem Mesh.Planned.drawn_lt {plan : MeshPlan} {w : World (GlDevice δ)} {m : Mesh}
    (h : m.Planned plan w)
    (created : ∀ (r : Ref Buffer) (b : Buffer), r = m.vertexBuffer ∨ m.indexBuffer = some r →
      (Pooled.pool w).get? r = some b → b.Created (GlDevice δ)) : m.drawn.toNat < 2 ^ 31 := by
  have room {r : Ref Buffer} {b : Buffer} {each count : Nat}
      (hr : r = m.vertexBuffer ∨ m.indexBuffer = some r) (hb : (Pooled.pool w).get? r = some b)
      (counted : count ≤ b.size.toNat / each) : count < 2 ^ 31 := by
    obtain ⟨_, _, _, _, made⟩ := (created r b hr hb).made
    have hle : count ≤ b.size.toNat := counted.trans (Nat.div_le_self _ _)
    exact GlDevice.lt_of_le_size hle (GlDevice.size_le_of_reply made.reply)
  unfold Mesh.drawn
  split
  · rename_i hindexed
    obtain ⟨r, hr⟩ := Option.isSome_iff_exists.1 hindexed
    obtain ⟨b, hb, _, counted⟩ := h.indices r hr
    exact room (.inr hr) hb counted.le
  · obtain ⟨b, hb, _, counted⟩ := h.vertices
    exact room (.inl rfl) hb counted.le

end OpenGL

/-! ## In bounds -/

/-- Everything that a mesh counts lies in its buffers, and the counts that were not given are as
    large as they can be. A command buffer with a pipeline draws it by exactly one request for what
    it counts. On a device for OpenGL that created the buffers, this comes down to exactly one
    command, with the same count. -/
theorem Mesh.draws_in_bounds (plan : MeshPlan) (m : Mesh) (constructed : plan.layout.Constructed) :
    (∀ {σ : Type} [GraphicsDevice σ] (w w' : World σ),
      (create plan).run.run w = (.ok m, w') →
        (∃ b : Buffer, (Pooled.pool w').get? m.vertexBuffer = some b ∧
          (plan.vertexCount = none →
            m.vertexCount.toNat = b.size.toNat / m.layout.stride.toNat) ∧
          ∀ v < m.vertexCount.toNat, ∀ a ∈ m.layout.attributes,
            v * m.layout.stride.toNat + a.offset.toNat + a.format.size ≤ b.size.toNat) ∧
        (∀ r ∈ m.indexBuffer, ∃ b : Buffer, (Pooled.pool w').get? r = some b ∧
          (plan.indexCount = none → m.indexCount.toNat = b.size.toNat / 4) ∧
          4 * m.indexCount.toNat ≤ b.size.toNat) ∧
        (m.indexBuffer = none → m.indexCount = 0)) ∧
    (∀ {σ : Type} [GraphicsDevice σ] (c c' : CommandBuffer) (r : Ref Pipeline) (w w' : World σ),
      c.pipeline = some r → (c.drawMesh m).run.run w = (.ok c', w') →
        ∃ calls, w'.history = w.history ++ calls ∧
          (calls.map (·.request)).filter Request.isDraw =
            [if m.isIndexed then .drawElements m.topology m.indexCount 0 0
              else .drawArrays m.topology 0 m.vertexCount]) ∧
    ∀ {δ : Type} [GlDriver δ] [Transcribing δ] (v v' w w' : World (GlDevice δ))
      (c c' : CommandBuffer) (r : Ref Pipeline),
      (create plan).run.run v = (.ok m, v') →
      (∀ (r : Ref Buffer) (b : Buffer), r = m.vertexBuffer ∨ m.indexBuffer = some r →
        (Pooled.pool v').get? r = some b → b.Created (GlDevice δ)) →
      c.pipeline = some r → (c.drawMesh m).run.run w = (.ok c', w') →
        ∃ cs count, w'.told = w.told ++ cs ∧
          cs.filter GlCommand.isDraw =
            [if m.isIndexed then .drawElements m.topology count 0 0
              else .drawArrays m.topology 0 count] ∧
          count.toInt = ((if m.isIndexed then m.indexCount else m.vertexCount).toNat : Int) := by
  refine ⟨?_, ?_, ?_⟩
  · intro σ _ w w' made
    have planned : m.Planned plan w' := planned_create.of_ok made
    exact ⟨planned.vertex_le constructed, planned.index_le, planned.unindexed⟩
  · intro σ _ c c' r w w' bound drew
    exact (calls_drawMesh bound).of_ok drew
  · intro δ _ _ v v' w w' c c' r made created bound drew
    obtain ⟨cs, htold, hdrawn⟩ := (told_drawMesh bound).of_ok drew
    -- the counts are those of the world of the creation, whatever became of the buffers since
    have planned : m.Planned plan v' := planned_create.of_ok made
    have room : m.drawn.toNat < 2 ^ 31 := planned.drawn_lt created
    exact ⟨cs, m.drawn.toInt32, htold, hdrawn, (signed_eq_toNat_iff m.drawn).2 room⟩

/-! ## Two vertices and a half -/

/-- Twenty bytes for vertices of eight, and three indices. -/
def segment : MeshPlan :=
  { vertexBuffer := some ⟨0⟩
    indexBuffer := some ⟨1⟩
    layout := ⟨[⟨0, .float2, 0, false⟩], 8⟩ }

namespace SegmentWorld

def vertices : World (GlDevice GlRecorder) :=
  ((Buffer.create .vertex .static (some 20) none).run.run (.start .recording)).2

def indices : World (GlDevice GlRecorder) :=
  ((Buffer.create .index .static (some 12) none).run.run vertices).2

/-- Both buffers, and a pipeline that can draw the segment. -/
def pipeline : World (GlDevice GlRecorder) :=
  let make : Render (GlDevice GlRecorder) (Ref Pipeline) := do
    let program ← Program.create .empty {} false [emptyStage]
    Pipeline.create { program := some program, layout := segment.layout }
  (make.run.run indices).2

end SegmentWorld

theorem Mesh.draws_in_bounds_recording :
    ∃ (m : Mesh) (v w : World (GlDevice GlRecorder)) (c c' : CommandBuffer) (b : Buffer),
      (create segment).run.run SegmentWorld.pipeline = (.ok m, v) ∧
      (Pooled.pool v).get? m.vertexBuffer = some b ∧
      m.vertexCount.toNat = b.size.toNat / m.layout.stride.toNat ∧
      (c.drawMesh m).run.run v = (.ok c', w) ∧
      ∃ cs count, w.told = v.told ++ cs ∧
        cs.filter GlCommand.isDraw = [.drawElements .triangleList count 0 0] ∧
        count.toInt = 3 := by
  let m : Mesh := ⟨⟨0⟩, some ⟨1⟩, segment.layout, .triangleList, 2, 3⟩
  let c : CommandBuffer := { CommandBuffer.new .report with pipeline := some ⟨0⟩ }
  let v := ((create segment).run.run SegmentWorld.pipeline).2
  have constructed : segment.layout.Constructed :=
    ⟨segment.layout.attributes, none, #[], #[], rfl⟩
  have made : (create segment).run.run SegmentWorld.pipeline = (.ok m, v) :=
    Prod.ext (by decide +kernel) rfl
  have drew : (c.drawMesh m).run.run v = (.ok c, ((c.drawMesh m).run.run v).2) :=
    Prod.ext (by decide +kernel) rfl
  have hvertices : v.buffers.get? ⟨0⟩ = SegmentWorld.vertices.buffers.get? ⟨0⟩ := by
    decide +kernel
  have hindices : v.buffers.get? ⟨1⟩ = SegmentWorld.indices.buffers.get? ⟨1⟩ := by
    decide +kernel
  have created : ∀ (r : Ref Buffer) (b : Buffer), r = m.vertexBuffer ∨ m.indexBuffer = some r →
      (Pooled.pool v).get? r = some b → b.Created (GlDevice GlRecorder) := by
    rintro r b (rfl | hr) hb
    · exact ⟨_, SegmentWorld.vertices, .vertex, .static, some 20, none, ⟨0⟩,
        Prod.ext (by decide +kernel) rfl, hvertices.symm.trans hb⟩
    · obtain rfl : ⟨1⟩ = r := Option.some.inj hr
      exact ⟨_, SegmentWorld.indices, .index, .static, some 12, none, ⟨1⟩,
        Prod.ext (by decide +kernel) rfl, hindices.symm.trans hb⟩
  obtain ⟨bounds, -, commands⟩ := draws_in_bounds segment m constructed
  obtain ⟨⟨b, hb, full, -⟩, -⟩ := bounds _ _ made
  exact ⟨m, v, _, c, c, b, made, hb, full rfl, drew,
    commands _ _ _ _ _ _ _ made created rfl drew⟩

end RenderKit
