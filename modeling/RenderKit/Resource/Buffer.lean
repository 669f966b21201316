import RenderKit.World

set_option autoImplicit false

/-! # Buffers

A buffer has a size that never changes. It can be created with data at its front, and parts of it
can be written and read; whatever would leave the buffer is refused before the device hears of
it. -/

namespace RenderKit

inductive BufferError where
  | noSize
  | dataTooLong (length : Nat) (size : UInt64)
  | writePastEnd (length : Nat) (offset size : UInt64)
  | readPastEnd (length offset size : UInt64)
deriving DecidableEq, Repr

instance : Cause BufferError where
  source _ := "cbox::buffer"
  kind _ := .invalidState
  message
    | .noSize => "Buffer size cannot be 0"
    | .dataTooLong length size =>
        "Initial data (" ++ toString length ++ " bytes) exceeds buffer size "
          ++ toString size.toNat
    | .writePastEnd length offset size =>
        "Write of " ++ toString length ++ " bytes at offset " ++ toString offset.toNat
          ++ " exceeds buffer size " ++ toString size.toNat
    | .readPastEnd length offset size =>
        "Read of " ++ toString length.toNat ++ " bytes at offset " ++ toString offset.toNat
          ++ " exceeds buffer size " ++ toString size.toNat

namespace Buffer

/-- Whether some bytes from an offset on lie in the buffer. -/
def holds (b : Buffer) (offset : UInt64) (length : Nat) : Bool :=
  offset.toNat + length ≤ b.size.toNat

def debugText (b : Buffer) : String :=
  recordText "Buffer"
    [("handle", b.handle.debugText), ("kind", nameOf b.kind), ("usage", nameOf b.usage),
     ("size", toString b.size.toNat)]

variable {σ : Type} [GraphicsDevice σ]

instance : Owned Buffer where
  discard b := ask (.deleteBuffer b.handle)

/-- Create a buffer. Without a size it is as large as its data. -/
def create (kind : BufferKind) (usage : BufferUsage) (size? : Option UInt64)
    (data? : Option (List UInt8)) : Render σ (Ref Buffer) := do
  let size := (size?.or (data?.map fun d => d.length.toUInt64)).getD 0
  if size = 0 then reject BufferError.noSize
  match data? with
  | some data =>
      if data.length > size.toNat then reject (BufferError.dataTooLong data.length size)
  | none => pure ()
  let handle ← settle (← ask (.createBuffer kind usage size data?))
  note .debug "cbox::buffer"
    ("Created " ++ nameOf kind ++ " buffer " ++ handle.text ++ " (" ++ toString size.toNat
      ++ " bytes, " ++ nameOf usage ++ ")")
  share { handle := handle, kind := kind, usage := usage, size := size }

/-- Write some bytes. -/
def write (r : Ref Buffer) (offset : UInt64) (data : List UInt8) : Render σ Unit := do
  let b ← view r
  if !b.holds offset data.length then
    reject (BufferError.writePastEnd data.length offset b.size)
  settle (← ask (.writeBuffer b.handle b.kind offset data))

/-- Read some bytes. -/
def read (r : Ref Buffer) (offset length : UInt64) : Render σ (List UInt8) := do
  let b ← view r
  if !b.holds offset length.toNat then reject (BufferError.readPastEnd length offset b.size)
  settle (← ask (.readBuffer b.handle b.kind offset length))

def bind (r : Ref Buffer) : Render σ Unit := do
  let b ← view r
  ask (.bindBuffer b.kind (some b.handle))

/-- Bind nothing in place of buffers of this kind. -/
def unbind (r : Ref Buffer) : Render σ Unit := do
  let b ← view r
  ask (.bindBuffer b.kind none)

/-- The bytes of some words, the lowest byte of each first. -/
def wordBytes (words : List UInt32) : List UInt8 :=
  words.flatMap fun (w : UInt32) =>
    [w.toUInt8, (w >>> 8).toUInt8, (w >>> 16).toUInt8, (w >>> 24).toUInt8]

end Buffer

end RenderKit
