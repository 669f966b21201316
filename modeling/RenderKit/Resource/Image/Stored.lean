set_option autoImplicit false

/-! # Data in stored blocks

A compressed stream whose blocks are all stored: a header of two bytes, blocks with a length and
its complement in front, and a checksum behind the last block, which is not looked at. Blocks of
other kinds are not understood. -/

namespace RenderKit.Png

/-- The blocks of a stream. Fuel bounds their number by the number of bytes. -/
def storedBlocks : Nat → List UInt8 → Option (List UInt8)
  | 0, _ => none
  | fuel + 1, bytes =>
      match bytes with
      | head :: a :: b :: c :: d :: rest =>
          let length := a.toNat + 256 * b.toNat
          let complement := c.toNat + 256 * d.toNat
          if head &&& 6 ≠ 0 || length + complement ≠ 65535 || rest.length < length then none
          else if head &&& 1 = 1 then
            if rest.length < length + 4 then none else some (rest.take length)
          else (storedBlocks fuel (rest.drop length)).map (rest.take length ++ ·)
      | _ => none

/-- Whether two bytes can be the header of a stream: the method and the window are known, no
    dictionary is asked for, and the check bits are right. -/
def streamHeader (method flags : UInt8) : Bool :=
  method &&& 15 == 8 && method >>> 4 ≤ 7 && flags &&& 32 == 0
    && (256 * method.toNat + flags.toNat) % 31 == 0

/-- The data of a stream. -/
def storedData (bytes : List UInt8) : Option (List UInt8) :=
  match bytes with
  | method :: flags :: rest =>
      if streamHeader method flags then storedBlocks bytes.length rest else none
  | _ => none

end RenderKit.Png
