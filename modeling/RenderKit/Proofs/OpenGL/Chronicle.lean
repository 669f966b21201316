import RenderKit.OpenGL.Recorder
import RenderKit.Proofs.OpenGL.Tasks

set_option autoImplicit false

/-! # What a driver was told and asked

A transcript has only the commands. Whether everything that was made is handed out or deleted again
also takes the replies, as it is a reply that tells what was made. So here a driver keeps both in
one chronicle. Any driver can be made to do so, which changes nothing about its answers. -/

namespace RenderKit

/-! ## Events -/

/-- A shader that is attached to a program. -/
structure ShaderUse where
  program : GlName
  shader : GlName
deriving DecidableEq

namespace GlEvent

/-- The object that an event brings into being. -/
def made? : GlEvent → Option Native
  | .query (.create object) name =>
      let name : GlName := name
      if name = 0 then none else some ⟨object.kind, name⟩
  | _ => none

/-- The object that an event deletes. -/
def deleted? : GlEvent → Option Native
  | .command (.delete kind name) => some ⟨kind, name⟩
  | _ => none

/-- What is attached after an event. Nothing is attached to a program that is new or gone. -/
def attachedAfter (uses : List ShaderUse) : GlEvent → List ShaderUse
  | .query (.create .program) name =>
      let name : GlName := name
      uses.filter (·.program ≠ name)
  | .command (.delete .program name) => uses.filter (·.program ≠ name)
  | .command (.attachShader program shader) => ⟨program, shader⟩ :: uses
  | .command (.detachShader program shader) => uses.filter (· ≠ ⟨program, shader⟩)
  | _ => uses

/-- The objects that were made, in their order. -/
def made (events : List GlEvent) : List Native := events.filterMap made?

/-- The objects that were deleted, in their order. -/
def deleted (events : List GlEvent) : List Native := events.filterMap deleted?

/-- What is attached after some events. -/
def attached (uses : List ShaderUse) (events : List GlEvent) : List ShaderUse :=
  events.foldl attachedAfter uses

variable {a b : List GlEvent} {uses : List ShaderUse}

@[simp] theorem made_append : made (a ++ b) = made a ++ made b := List.filterMap_append

@[simp] theorem deleted_append : deleted (a ++ b) = deleted a ++ deleted b :=
  List.filterMap_append

@[simp] theorem attached_append : attached uses (a ++ b) = attached (attached uses a) b :=
  List.foldl_append

/-- Nothing else attaches shaders. -/
theorem attachedAfter_subset {e : GlEvent}
    (h : ∀ program shader, e ≠ .command (.attachShader program shader)) :
    attachedAfter uses e ⊆ uses := by
  cases e with
  | command c =>
      cases c with
      | attachShader program shader => exact absurd rfl (h program shader)
      | detachShader => exact List.filter_subset_self _
      | delete kind =>
          cases kind with
          | program => exact List.filter_subset_self _
          | _ => exact List.Subset.refl _
      | _ => exact List.Subset.refl _
  | query q =>
      cases q with
      | create object =>
          cases object with
          | program => exact List.filter_subset_self _
          | _ => exact List.Subset.refl _
      | _ => exact List.Subset.refl _

/-- Events that neither make nor delete anything, nor attach or detach a shader. -/
def isIdle : GlEvent → Bool
  | .query (.create _) _ => false
  | .query _ _ => true
  | .command c => !(c matches .delete _ _ | .attachShader _ _ | .detachShader _ _)

variable {e : GlEvent}

theorem made?_of_isIdle (h : e.isIdle) : e.made? = none := by
  cases e with
  | command c => rfl
  | query q reply => cases q <;> first | rfl | cases h

theorem deleted?_of_isIdle (h : e.isIdle) : e.deleted? = none := by
  cases e with
  | command c => cases c <;> first | rfl | cases h
  | query q reply => rfl

theorem attachedAfter_of_isIdle (h : e.isIdle) : attachedAfter uses e = uses := by
  cases e with
  | command c => cases c <;> first | rfl | cases h
  | query q reply => cases q <;> first | rfl | cases h

end GlEvent

/-! ## Drivers -/

/-- A driver that keeps the commands it was told and the questions it was asked, with its replies. -/
class Chronicling (δ : Type) [GlDriver δ] where
  events : δ → List GlEvent
  events_run (c : GlCommand) (d : δ) : events (GlDriver.run c d) = events d ++ [.command c]
  events_ask (q : GlQuery) (d : δ) :
    events (GlDriver.ask q d).2 = events d ++ [.query q (GlDriver.ask q d).1]

/-- A driver with a chronicle beside it. -/
structure Chronicled (δ : Type) where
  driver : δ
  events : List GlEvent

namespace Chronicled

variable {δ : Type}

instance [GlDriver δ] : GlDriver (Chronicled δ) where
  versionText d := GlDriver.versionText d.driver
  renderer d := GlDriver.renderer d.driver
  extensions d := GlDriver.extensions d.driver
  limit which d := GlDriver.limit which d.driver
  maxAnisotropy d := GlDriver.maxAnisotropy d.driver
  run c d := ⟨GlDriver.run c d.driver, d.events ++ [.command c]⟩
  ask q d :=
    let (reply, driver) := GlDriver.ask q d.driver
    (reply, ⟨driver, d.events ++ [.query q reply]⟩)

instance [GlDriver δ] : Chronicling (Chronicled δ) where
  events := events
  events_run _ _ := rfl
  events_ask _ _ := rfl

instance [GlDriver δ] [Conforming δ] : Conforming (Chronicled δ) where
  context d := Conforming.context d.driver
  context_run c d := Conforming.context_run c d.driver
  context_ask q d := Conforming.context_ask q d.driver
  agrees q d := Conforming.agrees q d.driver

end Chronicled

namespace GlDevice

variable {δ : Type} [GlDriver δ] [Chronicling δ] {w : Work δ} {E : Work δ → Prop}

def Work.events (w : Work δ) : List GlEvent := Chronicling.events w.driver

theorem logs_tell {c : GlCommand} :
    Runs (tell c) w (fun _ w' => w'.events = w.events ++ [.command c]) E :=
  Runs.modify (Chronicling.events_run c w.driver)

theorem logs_tellAll {cs : List GlCommand} :
    Runs (tellAll cs) w (fun _ w' => w'.events = w.events ++ cs.map .command) E := by
  induction cs generalizing w with
  | nil => exact Runs.pure (List.append_nil _).symm
  | cons c rest ih =>
      refine Runs.bind logs_tell fun _ w₁ h₁ => ih.imp fun _ w₂ h₂ => ?_
      rw [h₂, h₁, List.append_assoc]
      rfl

theorem logs_query {q : GlQuery} :
    Runs (query q) w (fun reply w' => w'.events = w.events ++ [.query q reply]) E :=
  Runs.bind_get (Runs.bind_set (Runs.pure (Chronicling.events_ask q w.driver)))

end GlDevice

end RenderKit
