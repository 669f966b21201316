import RenderKit.Proofs.Modes.Lockstep

set_option autoImplicit false

/-! # Runs in both modes

An application that carries out one instruction after the other and goes on after errors sees the
same in both modes, apart from the errors of the commands that were skipped. -/

namespace RenderKit

/-- A command buffer and the world it works in. -/
structure Bench (σ : Type) where
  buffer : CommandBuffer
  world : World σ

/-- An instruction as seen from outside. -/
structure Turn (σ : Type) where
  before : Bench σ
  result : Except Halt Unit
  after : Bench σ

namespace Bench

variable {σ : Type}

/-- The same work in both modes; what is in the journals does not count. -/
structure Alike (b b' : Bench σ) : Prop where
  silent : b.buffer = b'.buffer.under .silent
  report : b'.buffer = b.buffer.under .report
  world : b.world.unlogged = b'.world.unlogged

/-- Neither the buffer has changed nor the world, except for the journal. -/
structure Untouched (b b' : Bench σ) : Prop where
  buffer : b'.buffer = b.buffer
  world : b'.world.unlogged = b.world.unlogged

theorem alike_new (w : World σ) : Alike ⟨.new .silent, w⟩ ⟨.new .report, w⟩ :=
  ⟨rfl, rfl, rfl⟩

variable [GraphicsDevice σ]

/-- Carry out an instruction. A failed one leaves the buffer as it was. -/
def turn (b : Bench σ) (i : Instruction) : Turn σ :=
  match (i.perform b.buffer).run.run b.world with
  | (.ok c, w) => ⟨b, .ok (), ⟨c, w⟩⟩
  | (.error h, w) => ⟨b, .error h, ⟨b.buffer, w⟩⟩

/-- Carry out instructions, also after errors. Nothing comes after an abort. -/
def turns (b : Bench σ) : List Instruction → List (Turn σ)
  | [] => []
  | i :: rest =>
      let t := b.turn i
      t :: match t.result with
        | .error .abort => []
        | _ => t.after.turns rest

end Bench

namespace Turn

variable {σ : Type}

/-- Turns of an instruction that was skipped. -/
structure Skips (t t' : Turn σ) : Prop where
  silent : t.result = .ok ()
  report : ∃ command reason, t'.result = .error (.error (skipError command reason))
  untouched : t.before.Untouched t.after
  untouched' : t'.before.Untouched t'.after

/-- Turns of an instruction in both modes that differ in nothing but the result of a skip. -/
structure Agrees (t t' : Turn σ) : Prop where
  before : t.before.Alike t'.before
  after : t.after.Alike t'.after
  result : t.result = t'.result ∨ Skips t t'

end Turn

namespace Bench

variable {σ : Type} [GraphicsDevice σ] {b b' : Bench σ}

theorem turn_agrees (h : b.Alike b') (i : Instruction) : (b.turn i).Agrees (b'.turn i) := by
  obtain ⟨c, w⟩ := b
  obtain ⟨c', w'⟩ := b'
  obtain ⟨hsilent, hreport, hw⟩ := h
  simp only at hsilent hreport hw
  subst hreport
  have hmode : c.under .silent = c := hsilent.symm
  have hlock := i.lockstep_perform (c := c) w w' hw
  simp only [ParallelAt, SkippedAt, hmode] at hlock
  unfold turn
  rcases ht : (i.perform c).run.run w with ⟨r, w₁⟩
  rcases ht' : (i.perform (c.under .report)).run.run w' with ⟨r', w₁'⟩
  rw [ht, ht'] at hlock
  have hbefore : Alike ⟨c, w⟩ ⟨c.under .report, w'⟩ := ⟨hsilent, rfl, hw⟩
  rcases hlock with ⟨hworld, outcome, hr, hr'⟩ | ⟨command, reason, hr, hr', hkept, hkept'⟩
  · simp only at hr hr' hworld
    subst hr hr'
    rcases outcome with e | d
    · exact ⟨hbefore, ⟨hsilent, rfl, hworld⟩, .inl rfl⟩
    · exact ⟨hbefore, ⟨rfl, rfl, hworld⟩, .inl rfl⟩
  · simp only at hr hr' hkept hkept'
    subst hr hr'
    have hafter : Alike ⟨c, w₁⟩ ⟨c.under .report, w₁'⟩ :=
      ⟨hsilent, rfl, hkept.trans (hw.trans hkept'.symm)⟩
    exact ⟨hbefore, hafter, .inr ⟨rfl, ⟨command, reason, rfl⟩, ⟨rfl, hkept⟩, ⟨rfl, hkept'⟩⟩⟩

theorem turns_agree (h : b.Alike b') (is : List Instruction) :
    List.Forall₂ Turn.Agrees (b.turns is) (b'.turns is) := by
  induction is generalizing b b' with
  | nil => exact .nil
  | cons i rest ih =>
      have hturn := turn_agrees h i
      refine .cons hturn ?_
      rcases hturn.result with hsame | hskips
      · rw [← hsame]
        split
        · exact .nil
        · exact ih hturn.after
      · obtain ⟨command, reason, hreport⟩ := hskips.report
        rw [hskips.silent, hreport]
        exact ih hturn.after

/-- The two modes simulate each other, whatever the device and the instructions are. -/
theorem modes_agree (w : World σ) (is : List Instruction) :
    List.Forall₂ Turn.Agrees (turns ⟨.new .silent, w⟩ is) (turns ⟨.new .report, w⟩ is) :=
  turns_agree (alike_new w) is

end Bench

end RenderKit
