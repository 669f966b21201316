set_option autoImplicit false

/-! # Chunks with checksums

The body of an image file is a row of chunks. Each has a length, a kind of four letters, its data
and a checksum of kind and data. A chunk whose kind begins with a lowercase letter may be left
out when its checksum is wrong. -/

namespace RenderKit.Png

/-! ## Checksums -/

/-- One step of the cyclic redundancy check: divide by the reflected polynomial. -/
def checkStep (c : UInt32) : UInt32 :=
  if c &&& 1 = 1 then (c >>> 1) ^^^ 0xedb88320 else c >>> 1

/-- Take in one byte. -/
def checkByte (c : UInt32) (b : UInt8) : UInt32 :=
  let x := c ^^^ b.toUInt32
  checkStep (checkStep (checkStep (checkStep (checkStep (checkStep (checkStep (checkStep x)))))))

/-- The cyclic redundancy check of some bytes. -/
def checksum (bytes : List UInt8) : UInt32 := bytes.foldl checkByte 0xffffffff ^^^ 0xffffffff

/-! ## Chunks -/

/-- A number, its highest byte first. -/
def bigEndian (bytes : List UInt8) : Nat := bytes.foldl (fun n b => 256 * n + b.toNat) 0

structure Chunk where
  kind : List UInt8
  data : List UInt8
  /-- Whether the checksum is right. -/
  intact : Bool
deriving DecidableEq, Repr

/-- The four letters of a kind. -/
def kindOf (letters : String) : List UInt8 := letters.toUTF8.toList

/-- Whether a chunk can be done without. -/
def Chunk.optional (c : Chunk) : Bool :=
  match c.kind with
  | first :: _ => first &&& 0x20 != 0
  | [] => false

/-- The length and the kind of the next chunk. -/
def head? (bytes : List UInt8) : Option (Nat × List UInt8) :=
  if bytes.length < 8 then none
  else some (bigEndian (bytes.take 4), (bytes.drop 4).take 4)

/-- The next chunk and the bytes behind it. -/
def chunk? (bytes : List UInt8) : Option (Chunk × List UInt8) :=
  match head? bytes with
  | none => none
  | some (length, kind) =>
      let rest := bytes.drop 8
      if rest.length < length + 4 then none
      else
        let data := rest.take length
        let check := bigEndian ((rest.drop length).take 4)
        some (⟨kind, data, (checksum (kind ++ data)).toNat == check⟩, rest.drop (length + 4))

end RenderKit.Png
