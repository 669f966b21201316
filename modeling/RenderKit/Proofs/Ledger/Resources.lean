import RenderKit.Proofs.Ledger.Books
import RenderKit.Proofs.Quiet

set_option autoImplicit false

/-! # Books of buffers, textures and samplers

These stand for one object of the device each and refer to nothing. -/

namespace RenderKit

variable {σ : Type} [GraphicsDevice σ] {g : Guard σ} {ext : Multiset Node} {air : Body}
  {left : Multiset Native} {w : World σ} {E : World σ → Prop}

/-- Quiet tasks leave the books alone. -/
theorem Quiet.books {α : Type} {t : Render σ α} (ht : Quiet t) (hb : Books g ext air left w) :
    Runs t w (fun _ => Books g ext air left) (Books g ext air left) :=
  ht _ (fun e _ h => h.noted e) w hb

/-- An object that is taken apart by one request. -/
theorem runs_ask_bury {r : Request} {x : Native} (hb : Buries g ext (.single x) w)
    (hdeleted : r.deleted = [x]) (hnamed : r.named = [x]) (hallows : g.allows r) :
    Runs (ask r) w (fun _ w' => w' = w.asked r ∧ Owns g ext w') E := by
  have hb : Books g ext ⟨x ::ₘ 0, 0⟩ {x} w := hb
  refine (runs_ask_delete hb hdeleted hnamed hallows).imp ?_
  rintro - w' ⟨hw, hb'⟩
  simpa [Owns, Body.empty, Body.single] using And.intro hw hb'

namespace Buffer

instance : Interred Buffer where
  runs_discard hb := by
    refine (runs_ask_bury ?_ rfl rfl (Guard.allows_resource _ rfl)).imp fun _ _ h => h.2
    simpa [Traced.body, Traced.others] using hb

theorem runs_create {kind : BufferKind} {usage : BufferUsage} {size? : Option UInt64}
    {data? : Option (List UInt8)} (hb : Owns g ext w) :
    Runs (create kind usage size? data?) w (fun r => Owns g (.buffer r ::ₘ ext)) (Owns g ext) := by
  unfold create
  extract_lets size make check
  have hmake : Runs (make ()) w (fun r => Owns g (.buffer r ::ₘ ext)) (Owns g ext) := by
    refine Runs.bind (runs_ask_create hb rfl (g.allows_resource rfl) (by simp [Request.named])) ?_
    rintro reply w' ⟨-, hb'⟩
    refine Runs.bind_settle ?_ ?_
    · rintro h rfl
      refine Runs.bind_note ((runs_share ext (Books.noted hb' _) ?_ rfl).imp fun _ _ h => h.2.2)
      simp [Traced.body, Traced.others]
    · rintro e rfl
      exact hb'
  have hcheck : Runs (check ()) w (fun r => Owns g (.buffer r ::ₘ ext)) (Owns g ext) := by
    unfold check
    split
    · exact Runs.reject_if (hb.noted _) fun _ => hmake
    · exact hmake
  exact Runs.reject_if (hb.noted _) fun _ => hcheck

theorem runs_write {r : Ref Buffer} {offset : UInt64} {data : List UInt8} (hb : Owns g ext w) :
    Runs (write r offset data) w (fun _ => Owns g ext) (Owns g ext) := by
  refine Runs.bind_same runs_view fun b hget => ?_
  refine Runs.reject_if (hb.noted _) fun _ => ?_
  refine Runs.bind (runs_ask_plain hb rfl (g.allows_resource rfl) (hb.names_single hget rfl)) ?_
  rintro reply w' ⟨-, hb'⟩
  rcases reply with e | -
  · exact runs_raise hb'
  · exact Runs.pure hb'

theorem runs_read {r : Ref Buffer} {offset length : UInt64} (hb : Owns g ext w) :
    Runs (read r offset length) w (fun _ => Owns g ext) (Owns g ext) := by
  refine Runs.bind_same runs_view fun b hget => ?_
  refine Runs.reject_if (hb.noted _) fun _ => ?_
  refine Runs.bind (runs_ask_plain hb rfl (g.allows_resource rfl) (hb.names_single hget rfl)) ?_
  rintro reply w' ⟨-, hb'⟩
  rcases reply with e | bytes
  · exact runs_raise hb'
  · exact Runs.pure hb'

theorem runs_bind {r : Ref Buffer} (hb : Owns g ext w) (hallows : ∀ r, g.allows r) :
    Runs (bind r) w (fun _ => Owns g ext) E := by
  refine Runs.bind_same runs_view fun b hget => ?_
  refine (runs_ask_plain hb rfl (hallows _) ?_).imp fun _ _ h => h.2
  exact hb.names_single hget rfl

theorem runs_unbind {r : Ref Buffer} (hb : Owns g ext w) (hallows : ∀ r, g.allows r) :
    Runs (unbind r) w (fun _ => Owns g ext) E := by
  refine Runs.bind_same runs_view fun b _ => ?_
  exact (runs_ask_plain hb rfl (hallows _) (by simp [Request.named])).imp fun _ _ h => h.2

end Buffer

namespace Texture

instance : Interred Texture where
  runs_discard hb := by
    refine (runs_ask_bury ?_ rfl rfl (Guard.allows_resource _ rfl)).imp fun _ _ h => h.2
    simpa [Traced.body, Traced.others] using hb

/-- A new texture leaves the framebuffers alone. -/
theorem runs_create {desc : TextureDesc} {data? : Option (List UInt8)} (hb : Owns g ext w) :
    Runs (create desc data?) w
      (fun r w' => Owns g (.texture r ::ₘ ext) w' ∧ w'.framebuffers = w.framebuffers)
      (Owns g ext) := by
  unfold create
  extract_lets make check
  have hmake : Runs (make ()) w
      (fun r w' => Owns g (.texture r ::ₘ ext) w' ∧ w'.framebuffers = w.framebuffers)
      (Owns g ext) := by
    refine Runs.bind (runs_ask_create hb rfl (g.allows_resource rfl) (by simp [Request.named])) ?_
    rintro reply w' ⟨rfl, hb'⟩
    refine Runs.bind_settle ?_ ?_
    · rintro h rfl
      refine Runs.bind_note ((runs_share ext (Books.noted hb' _) ?_ rfl).imp ?_)
      · simp [Traced.body, Traced.others]
      · rintro r w'' ⟨-, rfl, hb''⟩
        exact ⟨hb'', rfl⟩
    · rintro e rfl
      exact hb'
  have hcheck : Runs (check ()) w
      (fun r w' => Owns g (.texture r ::ₘ ext) w' ∧ w'.framebuffers = w.framebuffers)
      (Owns g ext) := by
    unfold check
    split
    · exact hmake
    · split
      · exact Runs.bind runs_abort fun _ _ h => h
      · exact Runs.reject_if (hb.noted _) fun _ => hmake
  exact Runs.reject_if (hb.noted _) fun _ => hcheck

theorem runs_ofFile [ImageCodec] {files : Files} {path : String} {srgb mipmaps : Bool}
    (hb : Owns g ext w) :
    Runs (ofFile files path srgb mipmaps) w (fun r => Owns g (.texture r ::ₘ ext))
      (Owns g ext) := by
  refine Runs.bind ((quiet_loadImage files path).books hb) ?_
  rintro ⟨width, height, format, bytes⟩ w' hb'
  exact (runs_create hb').imp fun _ _ h => h.1

theorem runs_bind {r : Ref Texture} {slot : UInt32} (hb : Owns g ext w)
    (hallows : ∀ r, g.allows r) :
    Runs (bind r slot) w
      (fun _ w' =>
        (∃ t, w.textures.get? r = some t ∧ w' = w.asked (.bindTexture slot (some t.handle))) ∧
          Owns g ext w') E := by
  refine Runs.bind_same runs_view fun t hget => ?_
  refine (runs_ask_plain hb rfl (hallows _) ?_).imp fun _ _ h => ⟨⟨t, hget, h.1⟩, h.2⟩
  exact hb.names_single hget rfl

theorem runs_unbind {slot : UInt32} (hb : Owns g ext w) (hallows : ∀ r, g.allows r) :
    Runs (unbind slot) w (fun _ => Owns g ext) E :=
  (runs_ask_plain hb rfl (hallows _) (by simp [Request.named])).imp fun _ _ h => h.2

/-- Releasing a texture leaves the framebuffers alone. -/
theorem runs_release {r : Ref Texture} (hb : Owns g (.texture r ::ₘ ext) w) :
    Runs (release r) w (fun _ w' => Owns g ext w' ∧ w'.framebuffers = w.framebuffers) E := by
  refine Runs.bind (runs_leave hb) ?_
  rintro (_ | t) _ ⟨⟨p, rfl⟩, hb'⟩
  · exact Runs.pure ⟨hb', rfl⟩
  · have hburies : Buries g ext (.single t.handle.native) (Pooled.setPool w p) := by
      simpa [Traced.body, Traced.others] using hb'.2
    refine (runs_ask_bury hburies rfl rfl (g.allows_resource rfl)).imp ?_
    rintro - _ ⟨rfl, hb''⟩
    exact ⟨hb'', rfl⟩

theorem runs_releaseAll {rs : List (Ref Texture)}
    (hb : Owns g (↑(rs.map Node.texture) + ext) w) :
    Runs (releaseAll rs) w
      (fun _ w' => Owns g ext w' ∧ w'.framebuffers = w.framebuffers) E := by
  induction rs generalizing w with
  | nil => exact Runs.pure ⟨by simpa using hb, rfl⟩
  | cons r rest ih =>
      rw [List.map_cons, ← Multiset.cons_coe, Multiset.cons_add] at hb
      refine Runs.bind (runs_release hb) ?_
      rintro - w' ⟨hb', hsame⟩
      exact (ih hb').imp fun _ _ h => ⟨h.1, h.2.trans hsame⟩

end Texture

namespace Sampler

instance : Interred Sampler where
  runs_discard hb := by
    refine (runs_ask_bury ?_ rfl rfl (Guard.allows_resource _ rfl)).imp fun _ _ h => h.2
    simpa [Traced.body, Traced.others] using hb

theorem runs_create {desc : SamplerDesc} (hb : Owns g ext w) :
    Runs (create desc) w (fun r => Owns g (.sampler r ::ₘ ext)) (Owns g ext) := by
  refine Runs.bind (runs_ask_create hb rfl (g.allows_resource rfl) (by simp [Request.named])) ?_
  rintro reply w' ⟨-, hb'⟩
  refine Runs.bind_settle ?_ ?_
  · rintro h rfl
    refine Runs.bind_note ((runs_share ext (Books.noted hb' _) ?_ rfl).imp fun _ _ h => h.2.2)
    simp [Traced.body, Traced.others]
  · rintro e rfl
    exact hb'

theorem runs_bind {r : Ref Sampler} {slot : UInt32} (hb : Owns g ext w)
    (hallows : ∀ r : Request, r.isSteady → g.allows r) :
    Runs (bind r slot) w (fun _ => Owns g ext) E := by
  refine Runs.bind_same runs_view fun s hget => ?_
  refine (runs_ask_plain hb rfl (hallows _ rfl) ?_).imp fun _ _ h => h.2
  exact hb.names_single hget rfl

theorem runs_unbind {slot : UInt32} (hb : Owns g ext w) (hallows : ∀ r, g.allows r) :
    Runs (unbind slot) w (fun _ => Owns g ext) E :=
  (runs_ask_plain hb rfl (hallows _) (by simp [Request.named])).imp fun _ _ h => h.2

end Sampler

end RenderKit
