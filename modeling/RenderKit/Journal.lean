import RenderKit.Error

set_option autoImplicit false

/-! # The journal

Whatever happens leaves an entry in the journal: what was created, what was skipped, and every
error before it is returned. Entries are only ever added at the end. -/

namespace RenderKit

inductive Severity where
  | trace
  | debug
  | info
  | warn
  | error
deriving DecidableEq, Repr

namespace Severity

def all : List Severity := [.trace, .debug, .info, .warn, .error]

def name : Severity → String
  | .trace => "Trace"
  | .debug => "Debug"
  | .info => "Info"
  | .warn => "Warn"
  | .error => "Error"

/-- The label of a console line, padded to five characters. -/
def label : Severity → String
  | .trace => "TRACE"
  | .debug => "DEBUG"
  | .info => "INFO "
  | .warn => "WARN "
  | .error => "ERROR"

/-- Severities grow from traces to errors. -/
def rank : Severity → Nat
  | .trace => 0
  | .debug => 1
  | .info => 2
  | .warn => 3
  | .error => 4

instance : Ord Severity := ⟨fun a b => compare a.rank b.rank⟩

end Severity

/-- One entry: how serious it is, the part of the library it is about, and what it says. -/
structure Entry where
  severity : Severity
  source : String
  message : String
deriving DecidableEq, Repr

/-- The line of an entry: `Severity source: message`. -/
def Entry.line (e : Entry) : String :=
  e.severity.name ++ " " ++ e.source ++ ": " ++ e.message

abbrev Journal := Array Entry

/-! ## Stopping

An operation ends with a value, with an error, or by being cut off where it stands: a size left
the range of its word, or a name cannot be handed to the driver. What was done before stays
done in all three cases. -/

inductive Halt where
  | error (e : Error)
  | abort
deriving DecidableEq, Repr

/-- An operation that only writes to the journal. -/
abbrev Report := ExceptT Halt (StateM Journal)

/-- An operation with more state, of which the journal is a part. -/
class HasJournal (S : Type) where
  note : Entry → S → S

instance : HasJournal Journal := ⟨fun e journal => journal.push e⟩

/-- The operations on a state, with the two early ends. -/
abbrev TaskOn (S : Type) := ExceptT Halt (StateM S)

section Tasks

variable {S α : Type}

/-- Add an entry to the journal. -/
def note [HasJournal S] (severity : Severity) (source message : String) : TaskOn S Unit :=
  modify (HasJournal.note ⟨severity, source, message⟩)

/-- Stop with an error, without an entry. -/
def raise (e : Error) : TaskOn S α := throw (.error e)

/-- Stop without an error. -/
def abort : TaskOn S α := throw .abort

/-- Run to the end and give back the error, if there was one. An abort is passed on. -/
def attempt (t : TaskOn S α) : TaskOn S (Except Error α) :=
  tryCatch (do return .ok (← t)) fun
    | .error e => return .error e
    | .abort => throw .abort

/-- Make a change on the way out if the task is cut off. -/
def unwinding (t : TaskOn S α) (change : S → S) : TaskOn S α :=
  tryCatch t fun
    | .error e => raise e
    | .abort => do
        modify change
        abort

/-- Give an outcome back to the caller. -/
def settle : Except Error α → TaskOn S α
  | .ok a => return a
  | .error e => raise e

end Tasks

/-! ## Causes

Every part of the library names the causes of its errors. A cause has a kind, a message and a
source, and failing with it writes the message to the journal before the error is returned. -/

class Cause (c : Type) where
  source : c → String
  kind : c → ErrorKind
  message : c → String

/-- The error of a cause. -/
def Cause.error {c : Type} [Cause c] (cause : c) : Error :=
  .of (Cause.kind cause) (Cause.message cause)

/-- Fail with a cause: note its message, then stop with its error. -/
def reject {S α c : Type} [HasJournal S] [Cause c] (cause : c) : TaskOn S α := do
  note .error (Cause.source cause) (Cause.message cause)
  raise (Cause.error cause)

/-- The value of a result, or the failure with its cause. -/
def accept {S α c : Type} [HasJournal S] [Cause c] : Except c α → TaskOn S α
  | .ok a => return a
  | .error cause => reject cause

end RenderKit
