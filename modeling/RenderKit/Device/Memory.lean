set_option autoImplicit false

/-! # Memory of buffers

What was written to the buffers of a device. Bytes that were never written are zero, and the last
write to a byte counts. -/

namespace RenderKit

structure MemoryWrite where
  buffer : UInt32
  offset : Nat
  data : List UInt8
deriving DecidableEq, Repr

/-- The writes so far, the newest first. -/
structure Memory where
  writes : List MemoryWrite

namespace Memory

def empty : Memory := ⟨[]⟩

def write (m : Memory) (buffer : UInt32) (offset : Nat) (data : List UInt8) : Memory :=
  ⟨⟨buffer, offset, data⟩ :: m.writes⟩

/-- Forget what was written to a buffer. -/
def forget (m : Memory) (buffer : UInt32) : Memory :=
  ⟨m.writes.filter fun w => w.buffer ≠ buffer⟩

/-- The byte a write puts at a place, if it reaches there. -/
def MemoryWrite.byte? (w : MemoryWrite) (buffer : UInt32) (place : Nat) : Option UInt8 :=
  if w.buffer = buffer && w.offset ≤ place then w.data[place - w.offset]? else none

def byte (m : Memory) (buffer : UInt32) (place : Nat) : UInt8 :=
  (m.writes.findSome? fun w => MemoryWrite.byte? w buffer place).getD 0

def read (m : Memory) (buffer : UInt32) (offset length : Nat) : List UInt8 :=
  (List.range length).map fun i => m.byte buffer (offset + i)

end Memory

end RenderKit
