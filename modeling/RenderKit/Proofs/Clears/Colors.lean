import RenderKit.Proofs.Clears.Passes
import RenderKit.Proofs.OpenGL.Attached

set_option autoImplicit false

/-! # The colors a pass clears

A pass has settings for each of its color attachments, but there is one clear with one color, and it
goes to everything that the framebuffer draws into. So the first attachment that is to be cleared
decides for all of them, and the settings of the others are not looked at. -/

namespace RenderKit

/-- A clear writes a color to what is at a slot, and nothing keeps it from doing so. -/
structure Clearing.Fills (k : Clearing) (slot : AttachmentSlot) (v : Vec4) : Prop where
  color : k.color = some v
  scissor : k.masks.scissor = false
  output : ∃ output : Nat, k.drawBuffers[output]? = some (some slot) ∧
    k.masks.color output.toUInt32 = .full

/-- The colors of the first outputs can be written everywhere. -/
structure Masks.ColorsOpen (m : Masks) (count : Nat) : Prop where
  color : ∀ output < count, m.color output.toUInt32 = .full
  scissor : m.scissor = false

namespace RenderPass

/-- Some attachment of a pass is to be cleared, and this is the color of the first one. -/
def FirstCleared (p : RenderPass) (v : Vec4) : Prop :=
  ∃ before ops after, p.colors = before ++ ops :: after ∧ (∀ o ∈ before, o.load ≠ .clear) ∧
    ops.load = .clear ∧ ops.clearColor = v

variable {p : RenderPass} {f : Framebuffer} {h : FramebufferHandle} {t : Trace} {v : Vec4}

theorem color_clearRequest_iff : p.clearRequest.color = some v ↔ p.FirstCleared v := by
  simp only [clearRequest, Option.map_eq_some_iff, List.find?_eq_some_iff_append]
  constructor
  · rintro ⟨ops, ⟨hload, before, after, hcolors, hbefore⟩, hv⟩
    exact ⟨before, ops, after, hcolors, by simpa using hbefore, by simpa using hload, hv⟩
  · rintro ⟨before, ops, after, hcolors, hbefore, hload, hv⟩
    exact ⟨ops, ⟨by simpa using hload, before, after, hcolors, by simpa using hbefore⟩, hv⟩

/-- A pass without anything to clear has no color to clear to. -/
theorem not_firstCleared (hnone : p.clearRequest.isEmpty) : ¬p.FirstCleared v := by
  intro hfirst
  simp [ClearRequest.isEmpty, color_clearRequest_iff.mpr hfirst] at hnone

theorem getElem?_drawSlots {count place : Nat} (hplace : place < count) :
    (GlDevice.drawSlots count)[place]? = some (some (.color place.toUInt32)) := by
  have hcount : count ≠ 0 := by omega
  simp [GlDevice.drawSlots, GlDevice.colorSlots, hcount, hplace]

/-- The clear of a pass fills every color of the framebuffer alike. -/
theorem fills_clearing_iff (hhandle : f.handle = some h)
    (hdraw : t.drawBuffers h.raw = GlDevice.drawSlots f.colors.length)
    (hopen : t.masks.ColorsOpen f.colors.length) {place : Nat} (hplace : place < f.colors.length) :
    (p.clearing f t).Fills (.color place.toUInt32) v ↔ p.FirstCleared v := by
  rw [← color_clearRequest_iff]
  refine ⟨fun hfills => hfills.color, fun hcolor =>
    ⟨hcolor, hopen.scissor, place, ?_, hopen.color place hplace⟩⟩
  show (t.drawBuffers (Handle.rawOf f.handle))[place]? = _
  rw [hhandle]
  show (t.drawBuffers h.raw)[place]? = _
  rw [hdraw, getElem?_drawSlots hplace]

end RenderPass

namespace Session

section Clears

variable {δ : Type} [RecordingDriver δ] [Conforming δ] {device : GlDevice δ} {files : Files}
  {s s' : State (GlDevice δ)} {name other : Name} {c : CommandBuffer} {p : RenderPass}
  {f : Framebuffer} {h : FramebufferHandle} {answer : Answer}

/-- What a pass clears of the colors of a framebuffer, while nothing is in the way. If some active
    attachment is to be cleared, all the attachments of the framebuffer are, also those that are to
    be left alone and those the pass has no settings for, and they get the color of the first one.
    Otherwise all of them keep what they have. -/
theorem colors_cleared_alike [Toolchain] [ImageCodec] (hdevice : device.context.trace = .start)
    (hs : ReachedBy device files Action.Genuine s)
    (hc : s.objects.lookup name = some (.commands c))
    (hp : s.objects.lookup other = some (.pass p)) (hidle : c.target = none)
    (hf : s.world.framebuffers.get? p.framebuffer = some f) (hhandle : f.handle = some h)
    (hopen : s.world.device.context.masks.ColorsOpen f.colors.length)
    (hrun : (play (.command name (.beginPass other))).run.run s = (.ok answer, s')) :
    ∃ new, s'.world.device.context.clears = s.world.device.context.clears ++ new ∧
      (∀ k ∈ new, k.framebuffer = h.raw) ∧
      ∀ place, place < f.colors.length → ∀ v,
        (∃ k ∈ new, k.Fills (.color place.toUInt32) v) ↔ p.FirstCleared v := by
  have hmirrors := mirrors_of_reached hdevice hs
  have hdraw := (kept_mirroring hdevice hs).owns.drawBuffers_eq hmirrors.fresh hf hhandle
  have hmasks : (Calls.trace s.world.history).masks.ColorsOpen f.colors.length :=
    hmirrors.trace ▸ hopen
  obtain ⟨f', hf', hclears⟩ := clears_beginPass hdevice hs hc hp hidle hrun
  obtain rfl : f = f' := Option.some.inj (hf.symm.trans hf')
  refine ⟨_, hclears, ?_, fun place hplace v => ?_⟩
  · intro k hk
    split at hk
    · cases hk
    · rw [List.mem_singleton.mp hk]
      exact congrArg Handle.rawOf hhandle
  · -- a pass that clears nothing at all clears no color either
    by_cases hnone : p.clearRequest.isEmpty
    · rw [if_pos hnone]
      simp [RenderPass.not_firstCleared hnone]
    · rw [if_neg hnone, ← RenderPass.fills_clearing_iff hhandle hdraw hmasks hplace]
      simp

end Clears

/-! ## A session with two colors -/

def red : Vec4 := ⟨.one, .zero, .zero, .one⟩

/-- The first color is cleared to red, the second one is to be kept. -/
def mixedPlan : PassPlan :=
  { PassPlan.start with
    colors := [⟨.clear, .store, red⟩, ⟨.load, .store, .black⟩]
    depthStencil := { DepthStencilOps.standard with depthLoad := .load }
    count := 2 }

def twoColors : State (GlDevice GlReference) :=
  actAll
    [.step (.make "a" (.attachment (.color .rgba8) [])),
     .step (.make "f" (.framebuffer 4 4 [.color "a", .color "a"])),
     .step (.make "b" (.pass "f" mixedPlan)), .step (.make "c" (.commands .report))]
    { world := .start .reference, objects := [], files := .empty }

def mixedPass : RenderPass := ⟨⟨0⟩, mixedPlan.colors, mixedPlan.depthStencil⟩

def mixedBegun : Except Refusal Answer × State (GlDevice GlReference) :=
  (play (.command "c" (.beginPass "b"))).run.run twoColors

theorem reached_twoColors : ReachedBy .reference .empty Action.Genuine twoColors := by
  refine ReachedBy.start.of_allOk ?_ (by decide +kernel)
  simp [Action.Genuine, Action.Public, Recipe.Named, Attachment.color]

set_option maxRecDepth 2000 in
/-- Both colors are red now. -/
theorem colors_cleared_reference :
    mixedPass.FirstCleared red ∧
      ∃ new, mixedBegun.2.world.device.context.clears =
          twoColors.world.device.context.clears ++ new ∧
        ∀ place, place < 2 → ∃ k ∈ new, k.Fills (.color place.toUInt32) red := by
  have hfirst : mixedPass.FirstCleared red := ⟨[], _, _, rfl, by simp, rfl, rfl⟩
  have hok : mixedBegun.1.isOk := by decide +kernel
  have hshape : (twoColors.world.framebuffers.get? mixedPass.framebuffer).map
      (fun f => (f.handle.isSome, f.colors.length)) = some (true, 2) := by decide +kernel
  obtain ⟨f, hf, hshape⟩ := Option.map_eq_some_iff.mp hshape
  obtain ⟨hsome, hlength⟩ := Prod.mk.inj hshape
  obtain ⟨h, hhandle⟩ := Option.isSome_iff_exists.mp hsome
  have hopen : twoColors.world.device.context.masks.ColorsOpen f.colors.length := by
    rw [hlength]
    exact ⟨by decide +kernel, by decide +kernel⟩
  rcases hrun : mixedBegun with ⟨e | answer, s'⟩
  · rw [hrun] at hok
    cases hok
  · obtain ⟨new, hnew, -, hiff⟩ := colors_cleared_alike
      (c := ⟨.report, false, none, none, none⟩) (p := mixedPass) rfl
      reached_twoColors (lookup_of_commands? (by decide +kernel))
      (lookup_of_pass? (by decide +kernel)) rfl hf hhandle hopen hrun
    refine ⟨hfirst, new, hnew, fun place hplace => (hiff place (hlength ▸ hplace) red).mpr hfirst⟩

set_option maxRecDepth 2000 in
/-- The second color was to be kept, and was cleared to red. -/
theorem kept_color_cleared :
    ReachedBy .reference .empty Action.Genuine twoColors ∧
      twoColors.objects.lookup "b" = some (.pass mixedPass) ∧
      mixedBegun.1.isOk ∧ (mixedPass.colors[1]?).map ColorOps.load = some .load ∧
      twoColors.world.device.context.clears = [] ∧
      ∃ k ∈ mixedBegun.2.world.device.context.clears, k.Fills (.color 1) red := by
  have hclears : mixedBegun.2.world.device.context.clears.map
      (fun k => (k.color, k.masks.scissor, k.drawBuffers[1]?, k.masks.color 1)) =
        [(some red, false, some (some (.color 1)), .full)] := by decide +kernel
  obtain ⟨k, hk, hshape⟩ := List.map_eq_singleton_iff.mp hclears
  obtain ⟨hcolor, hscissor, hslot, hmask⟩ : k.color = some red ∧ k.masks.scissor = false ∧
      k.drawBuffers[1]? = some (some (.color 1)) ∧ k.masks.color 1 = .full := by
    simpa using hshape
  refine ⟨reached_twoColors, lookup_of_pass? (by decide +kernel), by decide +kernel, rfl,
    List.isEmpty_iff.mp (by decide +kernel), k, by simp [hk], hcolor, hscissor, 1, hslot, hmask⟩

end Session

end RenderKit
