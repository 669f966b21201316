import RenderKit.Proofs.Ledger.Targets
import RenderKit.Proofs.Targets.Holdings

set_option autoImplicit false

/-! # Making the targets of a framebuffer

The textures of a framebuffer are made one after the other, and its object of the device last. All
of it has the size that was asked for. If any part fails, whichever it is, the parts before it are
given up: nothing is left but calls, and what they made they deleted. -/

namespace RenderKit

variable {σ : Type} {w w' w'' : World σ} {calls more : List Call} {hs : List Holding}

/-! ## Calls -/

namespace Calls

theorem issued_append (calls more : List Call) :
    issued (calls ++ more) = issued calls ++ issued more := List.flatMap_append

theorem deleted_append (calls more : List Call) :
    deleted (calls ++ more) = deleted calls ++ deleted more := List.flatMap_append

/-- Calls that bring forth some objects and delete none. -/
structure Make (calls : List Call) (xs : List Native) : Prop where
  issued : issued calls = xs
  deleted : deleted calls = []

/-- Calls that delete some objects and bring forth none. -/
structure Remove (calls : List Call) (xs : List Native) : Prop where
  deleted : deleted calls = xs
  issued : issued calls = []

variable {xs ys : List Native}

theorem make_nil : Make [] [] := ⟨rfl, rfl⟩

theorem remove_nil : Remove [] [] := ⟨rfl, rfl⟩

theorem Make.append (h : Make calls xs) (h' : Make more ys) : Make (calls ++ more) (xs ++ ys) :=
  ⟨by rw [issued_append, h.issued, h'.issued], by rw [deleted_append, h.deleted, h'.deleted]; rfl⟩

theorem Remove.append (h : Remove calls xs) (h' : Remove more ys) :
    Remove (calls ++ more) (xs ++ ys) :=
  ⟨by rw [deleted_append, h.deleted, h'.deleted], by rw [issued_append, h.issued, h'.issued]; rfl⟩

end Calls

/-! ## Worlds -/

/-- A world is what another one comes to by some calls, by entries of the journal, and by textures
    that come and go. -/
structure World.Stocked (w : World σ) (calls : List Call) (w' : World σ) : Prop where
  history : w'.history = w.history ++ calls
  others : { w' with
    device := w.device, calls := w.calls, journal := w.journal, textures := w.textures } = w

namespace World.Stocked

theorem refl (w : World σ) : w.Stocked [] w := ⟨(List.append_nil _).symm, rfl⟩

theorem trans (h : w.Stocked calls w') (h' : w'.Stocked more w'') :
    w.Stocked (calls ++ more) w'' := by
  refine ⟨?_, ?_⟩
  · rw [h'.history, h.history, List.append_assoc]
  · have hothers := congrArg (fun v : World σ =>
      { v with
        device := w.device, calls := w.calls, journal := w.journal, textures := w.textures })
      h'.others
    exact hothers.trans h.others

theorem noted (h : w.Stocked calls w') (e : Entry) : w.Stocked calls (HasJournal.note e w') :=
  ⟨h.history, h.others⟩

theorem restocked (h : w.Stocked calls w') (p : Pool Texture) :
    w.Stocked calls { w' with textures := p } :=
  ⟨h.history, h.others⟩

theorem framebuffers (h : w.Stocked calls w') : w'.framebuffers = w.framebuffers := by
  have hothers := congrArg World.framebuffers h.others
  exact hothers

theorem asked [GraphicsDevice σ] {r : Request} {reply : r.Reply}
    (hreply : (GraphicsDevice.perform r w.device).reply = some reply) :
    w.Stocked [⟨r, some reply⟩] (w.asked r) :=
  ⟨history_asked hreply, rfl⟩

end World.Stocked

/-- A world is what another one comes to by taking some textures. -/
structure World.Took (w : World σ) (hs : List Holding) (w' : World σ) : Prop where
  stocked : ∃ calls, w.Stocked calls w' ∧ Calls.Make calls (Holding.natives hs)
  pool : Holds w.textures hs w'.textures

/-- A world has the textures of another one, and what was made in between, which are textures, was
    deleted in the end. -/
structure World.Restored (w w' : World σ) : Prop where
  stocked : ∃ calls more xs ys, w.Stocked (calls ++ more) w' ∧ Calls.Make calls xs ∧
    Calls.Remove more ys ∧ xs.Perm ys ∧ ∀ x ∈ xs, x.kind = .texture
  pool : ∀ r, w'.textures.slot? r = w.textures.slot? r

namespace World

theorem took_refl (w : World σ) : w.Took [] w :=
  ⟨⟨[], .refl w, Calls.make_nil⟩, .refl w.textures⟩

theorem Took.noted (h : w.Took hs w') (e : Entry) : w.Took hs (HasJournal.note e w') := by
  obtain ⟨⟨calls, hstocked, hmake⟩, hpool⟩ := h
  exact ⟨⟨calls, hstocked.noted e, hmake⟩, hpool⟩

theorem Restored.noted (h : w.Restored w') (e : Entry) : w.Restored (HasJournal.note e w') := by
  obtain ⟨⟨calls, more, xs, ys, hstocked, hchange⟩, hpool⟩ := h
  exact ⟨⟨calls, more, xs, ys, hstocked.noted e, hchange⟩, hpool⟩

theorem Restored.get?_eq (h : w.Restored w') (r : Ref Texture) :
    w'.textures.get? r = w.textures.get? r := by
  rw [Pool.get?, h.pool, Pool.get?]

theorem restored_refl (w : World σ) : w.Restored w :=
  ⟨⟨[], [], [], [], .refl w, Calls.make_nil, Calls.remove_nil, .refl [], by simp⟩, fun _ => rfl⟩

end World

/-! ## Giving up -/

section Release

variable [GraphicsDevice σ] {p : Pool Texture} {E : World σ → Prop}

/-- With the last owner a texture is deleted. -/
theorem runs_release_texture {r : Ref Texture} :
    Runs (release r) w
      (fun _ w' => w'.textures = (w.textures.release r).2 ∧ ∃ calls, w.Stocked calls w' ∧
        Calls.Remove calls ((w.textures.release r).1.toList.map fun t => t.handle.native)) E := by
  have hleft : w.Stocked [] { w with textures := (w.textures.release r).2 } :=
    (World.Stocked.refl w).restocked _
  have hleave : Runs (leave r) w
      (fun last w' => last = (w.textures.release r).1 ∧
        w' = { w with textures := (w.textures.release r).2 }) E :=
    Runs.bind_get (Runs.bind_set (Runs.pure ⟨rfl, rfl⟩))
  refine Runs.bind hleave ?_
  rintro _ _ ⟨rfl, rfl⟩
  rcases (w.textures.release r).1 with _ | t
  · exact Runs.pure ⟨rfl, [], hleft, Calls.remove_nil⟩
  · refine runs_ask.imp ?_
    rintro reply _ ⟨rfl, hreply⟩
    exact ⟨rfl, _, hleft.trans (.asked hreply), rfl, rfl⟩

theorem runs_release_held {x : Holding} (h : Holds p (x :: hs) w.textures) :
    Runs (release x.ref) w
      (fun _ w' => Holds p hs w'.textures ∧
        ∃ calls, w.Stocked calls w' ∧ Calls.Remove calls x.native?.toList) E := by
  refine runs_release_texture.imp ?_
  rintro - w' ⟨hpool, hcalls⟩
  cases x with
  | given r =>
      obtain ⟨hlast, hholds⟩ := h.release_given
      rw [Holding.ref, hlast] at hcalls
      exact ⟨hpool ▸ hholds, hcalls⟩
  | made r t =>
      obtain ⟨hlast, hholds⟩ := h.release_made
      rw [Holding.ref, hlast] at hcalls
      exact ⟨hpool ▸ hholds, hcalls⟩

/-- Some of the textures that are held are given up. Those that were made are deleted. -/
theorem runs_releaseAll_held {xs : List Holding} (h : Holds p (xs ++ hs) w.textures) :
    Runs (releaseAll (xs.map Holding.ref)) w
      (fun _ w' => Holds p hs w'.textures ∧
        ∃ calls, w.Stocked calls w' ∧ Calls.Remove calls (Holding.natives xs)) E := by
  induction xs generalizing w with
  | nil => exact Runs.pure ⟨h, [], .refl w, Calls.remove_nil⟩
  | cons x rest ih =>
      refine Runs.bind (runs_release_held h) ?_
      rintro - w₁ ⟨h₁, calls₁, hstocked₁, hremove₁⟩
      refine (ih h₁).imp ?_
      rintro - w₂ ⟨h₂, calls₂, hstocked₂, hremove₂⟩
      rw [Holding.natives_cons]
      exact ⟨h₂, _, hstocked₁.trans hstocked₂, hremove₁.append hremove₂⟩

theorem releaseAll_append {α : Type} [Owned α] (rs ss : List (Ref α)) :
    (releaseAll (rs ++ ss) : Render σ Unit) = releaseAll rs >>= fun _ => releaseAll ss := by
  induction rs with
  | nil => exact (pure_bind _ _).symm
  | cons r rest ih =>
      show (release r >>= fun _ => releaseAll (rest ++ ss)) = _
      rw [ih, ← bind_assoc]
      rfl

/-- Everything is given up again, in whatever order. -/
theorem restored_releaseAll {xs : List Holding} (h : w.Took hs w') (hperm : xs.Perm hs) :
    Runs (releaseAll (xs.map Holding.ref)) w' (fun _ w'' => w.Restored w'') E := by
  obtain ⟨⟨calls, hstocked, hmake⟩, hpool⟩ := h
  have hall : Holds w.textures (xs ++ []) w'.textures := by
    rw [List.append_nil]
    exact hpool.perm hperm.symm
  refine (runs_releaseAll_held hall).imp ?_
  rintro - w'' ⟨hnone, more, hmore, hremove⟩
  exact ⟨⟨calls, more, _, _, hstocked.trans hmore, hmake, hremove, hperm.symm.filterMap _,
    fun _ => Holding.kind_of_mem_natives⟩, hnone.slot?_eq⟩

/-- What is deleted has left the pool, and a texture with another owner has not. -/
theorem runs_releaseAll_textures {rs : List (Ref Texture)} :
    Runs (releaseAll rs) w
      (fun _ w' => w.textures.GivenUp rs w'.textures ∧
        ∃ calls xs, w.Stocked calls w' ∧ Calls.Remove calls xs ∧
          ∀ x ∈ xs, ∃ r ∈ rs, ∃ t, w.textures.get? r = some t ∧ w'.textures.slot? r = none ∧
            t.handle.native = x) E := by
  induction rs generalizing w with
  | nil =>
      refine Runs.pure ⟨⟨fun r s hslot _ => ?_, fun r hslot => hslot⟩, [], [], .refl w,
        Calls.remove_nil, by simp⟩
      simpa using hslot
  | cons r rest ih =>
      refine Runs.bind runs_release_texture ?_
      rintro - w₁ ⟨hpool, calls₁, hstocked₁, hremove₁⟩
      refine ih.imp ?_
      rintro - w₂ ⟨hgiven, calls₂, xs, hstocked₂, hremove₂, hxs⟩
      rw [hpool] at hgiven
      refine ⟨hgiven.cons, _, _, hstocked₁.trans hstocked₂, hremove₁.append hremove₂, ?_⟩
      -- it was the first that had its last owner here, or one of the rest
      intro x hx
      rcases List.mem_append.mp hx with hx | hx
      · obtain ⟨t, ht, rfl⟩ := List.mem_map.mp hx
        obtain ⟨hget, hnone⟩ := Pool.of_release (Option.mem_toList.mp ht)
        exact ⟨r, List.mem_cons_self, t, hget, hgiven.gone r hnone, rfl⟩
      · obtain ⟨r', hr', t, hget, hnone, rfl⟩ := hxs x hx
        exact ⟨r', List.mem_cons_of_mem _ hr', t, Pool.get?_of_release (hpool ▸ hget), hnone, rfl⟩

end Release

/-! ## Taking -/

/-- More owners for textures that are there. -/
theorem stocked_holdAll {rs : List (Ref Texture)} {E : World σ → Prop}
    (h : ∀ r ∈ rs, (w.textures.get? r).isSome) :
    Runs (holdAll rs) w
      (fun _ w' => w.Stocked [] w' ∧ (∀ r, w'.textures.get? r = w.textures.get? r) ∧
        ∀ r, w'.textures.owners r = w.textures.owners r + rs.count r) E := by
  induction rs generalizing w with
  | nil => exact Runs.pure ⟨.refl w, fun _ => rfl, fun _ => rfl⟩
  | cons r rest ih =>
      have hr := h r List.mem_cons_self
      have hget := Pool.get?_retain w.textures r
      have howners := Pool.owners_retain hr
      refine Runs.bind_modify ((ih fun r' hr' => ?_).imp ?_)
      · exact (congrArg Option.isSome (hget r')).trans (h r' (List.mem_cons_of_mem _ hr'))
      · rintro - w' ⟨hstocked, hget', howners'⟩
        refine ⟨((World.Stocked.refl w).restocked _).trans hstocked,
          fun r' => (hget' r').trans (hget r'), fun r' => (howners' r').trans ?_⟩
        have hcount : (r :: rest).count r' = [r].count r' + rest.count r' := by
          rw [← List.count_append, List.singleton_append]
        rw [hcount, ← Nat.add_assoc]
        exact congrArg (· + rest.count r') (howners r')

/-- The format an attachment is drawn to in: that of the texture it brings, or the one for which a
    texture is made. -/
def Attachment.formatIn (p : Pool Texture) (a : Attachment) : TextureFormat :=
  ((a.texture.bind p.get?).map fun t => t.desc.format).getD a.format

namespace Framebuffer

variable [GraphicsDevice σ] {width height : UInt32}

/-- What is held for an attachment: the texture it brings, or a new one. It has the size that was
    asked for. -/
structure Serves (p : Pool Texture) (width height : UInt32) (a : Attachment) (x : Holding) :
    Prop where
  texture : ∃ t, x.texture? p = some t ∧ t.desc.width = width ∧ t.desc.height = height
  format : ∀ t, x.texture? p = some t → t.desc.format = a.formatIn p
  given : ∀ r, a.texture = some r → x = .given r

/-- The textures that some attachments bring have owners. -/
def Given (p : Pool Texture) (as : List Attachment) : Prop :=
  ∀ r ∈ as.flatMap Attachment.owned, 0 < p.owners r

theorem given_append {p : Pool Texture} {as bs : List Attachment} :
    Given p (as ++ bs) ↔ Given p as ∧ Given p bs := by
  simp only [Given, List.flatMap_append, List.forall_mem_append]

theorem given_cons {p : Pool Texture} {a : Attachment} {as : List Attachment} :
    Given p (a :: as) ↔ Given p [a] ∧ Given p as := by
  rw [← given_append, List.singleton_append]

theorem took_create {desc : TextureDesc} (h : w.Took hs w') :
    Runs (Texture.create desc none) w'
      (fun r w'' => ∃ t, t.desc = desc ∧ w.Took (hs ++ [.made r t]) w'') (w.Took hs) := by
  obtain ⟨⟨calls, hstocked, hmake⟩, hpool⟩ := h
  unfold Texture.create
  refine Runs.reject_if ⟨⟨calls, hstocked.noted _, hmake⟩, hpool⟩ fun _ => ?_
  refine Runs.bind runs_ask ?_
  rintro reply _ ⟨rfl, hreply⟩
  have hasked := hstocked.trans (.asked hreply)
  refine Runs.bind_settle ?_ ?_
  · rintro handle rfl
    refine Runs.bind_note (Runs.bind_get (Runs.bind_set (Runs.pure ?_)))
    have hmake' : Calls.Make
        [⟨.createTexture desc none, some (.ok handle : Except Error TextureHandle)⟩]
        [handle.native] := ⟨rfl, rfl⟩
    refine ⟨⟨handle, desc⟩, rfl, ⟨_, (hasked.noted _).restocked _, ?_⟩, hpool.add _⟩
    rw [Holding.natives_append]
    exact hmake.append hmake'
  · rintro e rfl
    have hmake' : Calls.Make
        [⟨.createTexture desc none, some (.error e : Except Error TextureHandle)⟩] [] := ⟨rfl, rfl⟩
    exact ⟨⟨_, hasked, by simpa using hmake.append hmake'⟩, hpool⟩

theorem took_target {a : Attachment} (h : w.Took hs w') (hgiven : Given w.textures [a]) :
    Runs (target width height a) w'
      (fun r w'' => ∃ x, x.ref = r ∧ Serves w.textures width height a x ∧ w.Took (hs ++ [x]) w'')
      (w.Took hs) := by
  unfold target
  split
  · rename_i hnone
    refine (took_create h).imp ?_
    rintro r w'' ⟨t, hdesc, h'⟩
    refine ⟨.made r t, rfl, ⟨⟨t, rfl, by rw [hdesc], by rw [hdesc]⟩, ?_, by simp [hnone]⟩, h'⟩
    rintro _ ⟨⟩
    simp [Attachment.formatIn, hnone, hdesc]
  · rename_i r hsome
    have howners : 0 < w.textures.owners r := hgiven r (by simp [Attachment.owned, hsome])
    obtain ⟨s, hslot, -⟩ := Pool.exists_slot_of_owners howners
    refine Runs.bind runs_view ?_
    rintro t w' ⟨rfl, hget⟩
    obtain rfl : s.value = t := by
      have hkept := h.pool.get?_of_some (Pool.get?_of_slot? hslot)
      exact Option.some.inj (hkept.symm.trans hget)
    refine Runs.reject_if (h.noted _) fun hsize => ?_
    refine Runs.bind_modify (Runs.pure ?_)
    obtain ⟨⟨calls, hstocked, hmake⟩, hpool⟩ := h
    have hnatives : Holding.natives (hs ++ [.given r]) = Holding.natives hs := by
      rw [Holding.natives_append]
      exact List.append_nil _
    refine ⟨.given r, rfl, ⟨⟨s.value, Pool.get?_of_slot? hslot, ?_⟩, fun t ht => ?_, ?_⟩,
      ⟨calls, hstocked.restocked _, hnatives ▸ hmake⟩, hpool.retain howners⟩
    · simpa [not_or] using hsize
    · have hget : w.textures.get? r = some t := ht
      simp [Attachment.formatIn, hsome, hget]
    · intro r' hr'
      rw [hsome] at hr'
      cases hr'
      rfl

theorem took_targets {done : List (Ref Texture)} {as : List Attachment} (h : w.Took hs w')
    (hdone : done = hs.map Holding.ref) (hgiven : Given w.textures as) :
    Runs (targets width height done as) w'
      (fun rs w'' => ∃ xs, rs = done ++ xs.map Holding.ref ∧
        List.Forall₂ (Serves w.textures width height) as xs ∧ w.Took (hs ++ xs) w'')
      w.Restored := by
  -- along the attachments, `hs` is what is held for those that are done
  induction as generalizing done hs w' with
  | nil => exact Runs.pure ⟨[], by simp, .nil, by rwa [List.append_nil]⟩
  | cons a rest ih =>
      obtain ⟨ha, hrest⟩ := given_cons.mp hgiven
      refine Runs.bind (runs_attempt (took_target h ha)) ?_
      rintro (e | r) w₁ h₁
      · rw [hdone]
        refine Runs.bind (restored_releaseAll h₁ (.refl hs)) fun _ w₂ h₂ => runs_raise h₂
      · obtain ⟨x, rfl, hserves, h₁⟩ := h₁
        refine (ih h₁ (by simp [hdone]) hrest).imp ?_
        rintro _ w₂ ⟨xs, rfl, hall, h₂⟩
        exact ⟨x :: xs, by simp, .cons hserves hall, by simpa using h₂⟩

theorem took_depthTarget {a : Option Attachment} (h : w.Took hs w')
    (hgiven : Given w.textures a.toList) :
    Runs (depthTarget width height (hs.map Holding.ref) a) w'
      (fun r w'' => ∃ xs, r.toList = xs.map Holding.ref ∧
        List.Forall₂ (Serves w.textures width height) a.toList xs ∧ w.Took (hs ++ xs) w'')
      w.Restored := by
  unfold depthTarget
  split
  · exact Runs.pure ⟨[], rfl, .nil, by rwa [List.append_nil]⟩
  · refine Runs.bind (runs_attempt (took_target h hgiven)) ?_
    rintro (e | r) w₁ h₁
    · exact Runs.bind (restored_releaseAll h₁ (.refl hs)) fun _ w₂ h₂ => runs_raise h₂
    · obtain ⟨x, rfl, hserves, h₁⟩ := h₁
      exact Runs.pure ⟨[x], rfl, .cons hserves .nil, h₁⟩

/-- The object of the device, once the textures are held. -/
theorem took_createFramebuffer {colors : List TextureHandle}
    {depth : Option (TextureHandle × AttachmentPoint)} (h : w.Took hs w') :
    Runs (do settle (← ask (.createFramebuffer colors depth)) : Render σ FramebufferHandle) w'
      (fun handle w'' => w''.textures = w'.textures ∧ ∃ calls,
        w.Stocked (calls ++ [⟨.createFramebuffer colors depth, some (.ok handle)⟩]) w'' ∧
        Calls.Make calls (Holding.natives hs))
      (w.Took hs) := by
  obtain ⟨⟨calls, hstocked, hmake⟩, hpool⟩ := h
  refine Runs.bind runs_ask ?_
  rintro (e | handle) _ ⟨rfl, hreply⟩
  · have hmake' : Calls.Make
        [⟨.createFramebuffer colors depth, some (.error e : Except Error FramebufferHandle)⟩] [] :=
      ⟨rfl, rfl⟩
    exact runs_raise
      ⟨⟨_, hstocked.trans (.asked hreply), by simpa using hmake.append hmake'⟩, hpool⟩
  · exact Runs.pure ⟨rfl, calls, hstocked.trans (.asked hreply), hmake⟩

/-- Everything that belongs to one size: a texture for each attachment, and an object of the device
    that was made of them, in their order. -/
structure Stands (w : World σ) (width height : UInt32) (colors : List Attachment)
    (depth : Option Attachment) (made : Targets) (xs ys : List Holding) (w' : World σ) : Prop where
  colorsServed : List.Forall₂ (Serves w.textures width height) colors xs
  depthServed : List.Forall₂ (Serves w.textures width height) depth.toList ys
  colorRefs : made.colors = xs.map Holding.ref
  depthRefs : made.depth.toList = ys.map Holding.ref
  pool : Holds w.textures (xs ++ ys) w'.textures
  created : ∃ calls colorHandles depthHandle,
    w.Stocked (calls ++ [⟨.createFramebuffer colorHandles depthHandle, some (.ok made.handle)⟩])
      w' ∧
    Calls.Make calls (Holding.natives (xs ++ ys)) ∧
    HandlesOf w' made.colors colorHandles ∧
    HandlesOf w' made.depth.toList (depthHandle.toList.map (·.1)) ∧
    depthHandle.map (·.2) = depth.map fun a => depthPoint a.point

theorem stands_createTargets {colors : List Attachment} {depth : Option Attachment}
    (hgiven : Given w.textures (colors ++ depth.toList)) :
    Runs (createTargets width height colors depth) w
      (fun made w' => ∃ xs ys, Stands w width height colors depth made xs ys w') w.Restored := by
  obtain ⟨hcolors, hdepth⟩ := given_append.mp hgiven
  refine Runs.bind (took_targets w.took_refl rfl hcolors) ?_
  rintro _ w₁ ⟨xs, rfl, hxs, h₁⟩
  rw [List.nil_append] at h₁
  refine Runs.bind (took_depthTarget h₁ hdepth) ?_
  rintro depthTexture w₂ ⟨ys, hrefs, hys, h₂⟩
  refine Runs.bind runs_handles ?_
  rintro colorHandles w₂ ⟨rfl, hcolorHandles⟩
  extract_lets make
  have hmake : ∀ depthHandle : Option (TextureHandle × AttachmentPoint),
      HandlesOf w₂ depthTexture.toList (depthHandle.toList.map (·.1)) →
      depthHandle.map (·.2) = depth.map (fun a => depthPoint a.point) →
      Runs (make depthHandle) w₂
        (fun made w' => ∃ xs ys, Stands w width height colors depth made xs ys w')
        w.Restored := by
    intro depthHandle hdepths hpoint
    refine Runs.bind (runs_attempt (took_createFramebuffer h₂)) ?_
    rintro (e | handle) w₃ h₃
    · -- the textures are given up, those of the depth first
      show Runs (releaseAll depthTexture.toList >>= fun _ => _) w₃ _ _
      rw [← bind_assoc, ← releaseAll_append, hrefs, List.nil_append, ← List.map_append]
      exact Runs.bind (restored_releaseAll h₃ List.perm_append_comm) fun _ w₄ h₄ => runs_raise h₄
    · obtain ⟨htextures, calls, hstocked, hcalls⟩ := h₃
      refine Runs.pure ⟨xs, ys, hxs, hys, by simp, hrefs, htextures ▸ h₂.pool, calls, colorHandles,
        depthHandle, hstocked, hcalls, ?_, ?_, hpoint⟩
      · simpa [HandlesOf, htextures] using hcolorHandles
      · simpa [HandlesOf, htextures] using hdepths
  split
  · rename_i a r
    refine Runs.bind runs_view ?_
    rintro t w₂ ⟨rfl, hget⟩
    exact hmake _ (.cons ⟨t, hget, rfl⟩ .nil) rfl
  · rename_i hnot
    -- without an attachment there is no texture, and the other way round
    have hlength : depth.toList.length = depthTexture.toList.length := by
      rw [hrefs, List.length_map]
      exact hys.length_eq
    rcases depth with _ | a
    · rcases depthTexture with _ | r
      · exact hmake none .nil rfl
      · cases hlength
    · rcases depthTexture with _ | r
      · cases hlength
      · exact absurd rfl (hnot a r rfl)

end Framebuffer

end RenderKit
