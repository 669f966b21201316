import RenderKit.OpenGL.Device
import RenderKit.OpenGL.Recorder
import RenderKit.Proofs.Task

set_option autoImplicit false

/-! # What a driver was told

Questions change nothing about a driver, so all that there is to know about its settings follows
from the commands it was told, in their order. A driver that keeps them has a transcript. -/

namespace RenderKit

/-- A driver that keeps the commands it was told. -/
class Transcribing (δ : Type) [GlDriver δ] where
  told : δ → List GlCommand
  told_run (c : GlCommand) (d : δ) : told (GlDriver.run c d) = told d ++ [c]
  told_ask (q : GlQuery) (d : δ) : told (GlDriver.ask q d).2 = told d

def GlEvent.command? : GlEvent → Option GlCommand
  | .command c => some c
  | .query _ _ => none

namespace GlRecorder

def commands (d : GlRecorder) : List GlCommand := d.history.toList.filterMap GlEvent.command?

theorem history_effect (c : GlCommand) (d : GlRecorder) : (effect c d).history = d.history := by
  cases c <;> rfl

theorem history_answer (q : GlQuery) (d : GlRecorder) : (d.answer q).2.history = d.history := by
  cases q with
  | create object =>
      show (d.create object).2.history = d.history
      unfold create
      split
      · rfl
      · rfl
  | _ => rfl

instance : Transcribing GlRecorder where
  told := commands
  told_run c d := by
    show commands (effect c { d with history := d.history.push (.command c) }) = _
    simp [commands, history_effect, GlEvent.command?]
  told_ask q d := by
    show commands (d.ask q).2 = _
    simp [commands, ask, history_answer, GlEvent.command?]

end GlRecorder

namespace GlDevice

variable {δ α : Type} [GlDriver δ] [Transcribing δ] {w : Work δ} {E : Work δ → Prop}

def told (d : GlDevice δ) : List GlCommand := Transcribing.told d.driver

def Work.told (w : Work δ) : List GlCommand := Transcribing.told w.driver

theorem told_tell {c : GlCommand} : Runs (tell c) w (fun _ w' => w'.told = w.told ++ [c]) E :=
  Runs.modify (Transcribing.told_run c w.driver)

/-- Commands never fail. -/
theorem run_tellAll (cs : List GlCommand) (w : Work δ) :
    ∃ w', (tellAll cs : Task δ Unit).run.run w = (.ok (), w') ∧ w'.told = w.told ++ cs := by
  induction cs generalizing w with
  | nil => exact ⟨w, rfl, (List.append_nil _).symm⟩
  | cons c rest ih =>
      obtain ⟨w', hrun, htold⟩ := ih { w with driver := GlDriver.run c w.driver }
      refine ⟨w', hrun, ?_⟩
      rw [htold, Work.told, Transcribing.told_run, List.append_assoc]
      rfl

theorem told_tellAll {cs : List GlCommand} :
    Runs (tellAll cs) w (fun _ w' => w'.told = w.told ++ cs) E := by
  obtain ⟨w', hrun, htold⟩ := run_tellAll cs w
  unfold Runs
  rw [hrun]
  exact htold

theorem told_query {q : GlQuery} : Runs (query q) w (fun _ w' => w'.told = w.told) E :=
  Runs.bind_get (Runs.bind_set (Runs.pure (Transcribing.told_ask q w.driver)))

theorem told_create {kind : ObjectKind} {object : GlObject} {what : String} :
    Runs (create kind object what) w (fun _ w' => w'.told = w.told)
      (fun w' => w'.told = w.told) := by
  refine Runs.bind told_query fun name w₁ h₁ => ?_
  split
  · exact Runs.pure h₁
  · exact runs_reject h₁

end GlDevice

/-- A device on a driver that records. -/
def GlDevice.recording : GlDevice GlRecorder :=
  let profile : GlProfile :=
    { version := "4.6.0"
      renderer := "Recorder"
      extensions := []
      maxTextureSize := 16
      maxTextureUnits := 16
      maxVertexAttributes := 16
      maxUniformLocations := 16
      maxColorAttachments := 8
      maxAnisotropy := .one }
  let driver : GlRecorder := .new profile .standard
  { driver := driver
    version := ⟨4, 6, false⟩
    capabilities := capabilitiesOf ⟨4, 6, false⟩ driver
    debugOutput := false
    counts := .zero }

/-- The commands that the driver of a world was told. -/
def World.told {δ : Type} [GlDriver δ] [Transcribing δ] (w : World (GlDevice δ)) :
    List GlCommand :=
  w.device.told

end RenderKit
