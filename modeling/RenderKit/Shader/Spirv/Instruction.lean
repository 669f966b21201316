set_option autoImplicit false

/-! # Instructions of the bytecode

Bytecode is a sequence of 32-bit words. The first word of an instruction holds its length in its
upper half and its operation in the lower one; the operands follow. Texts are operands too: their
bytes fill words from the lowest byte up, and a zero byte ends them. -/

namespace RenderKit.Spirv

structure Instruction where
  opcode : Nat
  operands : List UInt32
deriving DecidableEq, Repr

namespace Instruction

/-- The words of an instruction. -/
def words (i : Instruction) : List UInt32 :=
  ((i.operands.length + 1) * 65536 + i.opcode).toUInt32 :: i.operands

/-- Cut words into instructions. A length of zero and a length past the end are faults. -/
def split (words : List UInt32) : Option (List Instruction) :=
  match words with
  | [] => some []
  | first :: rest =>
      let length := first.toNat / 65536
      if length = 0 || rest.length < length - 1 then none
      else
        (split (rest.drop (length - 1))).map fun following =>
          { opcode := first.toNat % 65536, operands := rest.take (length - 1) } :: following
termination_by words.length
decreasing_by
  simp only [List.length_drop, List.length_cons]
  omega

end Instruction

/-! ## Texts -/

/-- The four bytes of a word, the lowest first. -/
def wordBytes (w : UInt32) : List UInt8 :=
  let n := w.toNat
  [n.toUInt8, (n / 256).toUInt8, (n / 65536).toUInt8, (n / 16777216).toUInt8]

/-- A word of four bytes, the lowest first. Missing bytes are zero. -/
def wordOf (bytes : List UInt8) : UInt32 :=
  (bytes.foldr (fun (b : UInt8) n => b.toNat + 256 * n) 0).toUInt32

/-- Bytes in groups of four, with at least one zero byte behind them. -/
def packBytes : List UInt8 → List UInt32
  | a :: b :: c :: d :: rest => wordOf [a, b, c, d] :: packBytes rest
  | rest => [wordOf rest]

def textWords (s : String) : List UInt32 := packBytes s.toUTF8.toList

/-- The bytes up to the first zero byte, and the words behind its word. -/
def textBytes : List UInt32 → Option (List UInt8 × List UInt32)
  | [] => none
  | w :: rest =>
      let kept := (wordBytes w).takeWhile (· != 0)
      if kept.length < 4 then some (kept, rest)
      else (textBytes rest).map fun r => (kept ++ r.1, r.2)

/-- The text at the front of some words, and the words behind it. -/
def readText (words : List UInt32) : Option (String × List UInt32) :=
  match textBytes words with
  | none => none
  | some (bytes, rest) => (String.fromUTF8? ⟨bytes.toArray⟩).map fun s => (s, rest)

/-- A text that fills all of some words. -/
def wholeText (words : List UInt32) : Option String :=
  match readText words with
  | some (s, []) => some s
  | _ => none

/-! ## Operations -/

namespace Op

def undef : Nat := 1
def source : Nat := 3
def sourceExtension : Nat := 4
def name : Nat := 5
def memberName : Nat := 6
def string : Nat := 7
def line : Nat := 8
def extension : Nat := 10
def extInstImport : Nat := 11
def memoryModel : Nat := 14
def entryPoint : Nat := 15
def executionMode : Nat := 16
def capability : Nat := 17
def typeVoid : Nat := 19
def typeBool : Nat := 20
def typeInt : Nat := 21
def typeFloat : Nat := 22
def typeVector : Nat := 23
def typeMatrix : Nat := 24
def typeImage : Nat := 25
def typeSampler : Nat := 26
def typeSampledImage : Nat := 27
def typeArray : Nat := 28
def typeRuntimeArray : Nat := 29
def typeStruct : Nat := 30
def typePointer : Nat := 32
def typeFunction : Nat := 33
def constantTrue : Nat := 41
def constantFalse : Nat := 42
def constant : Nat := 43
def constantComposite : Nat := 44
def constantNull : Nat := 46
def specConstantTrue : Nat := 48
def specConstantFalse : Nat := 49
def specConstant : Nat := 50
def specConstantComposite : Nat := 51
def function : Nat := 54
def functionParameter : Nat := 55
def functionEnd : Nat := 56
def functionCall : Nat := 57
def declareVariable : Nat := 59
def load : Nat := 61
def store : Nat := 62
def copyMemory : Nat := 63
def accessChain : Nat := 65
def inBoundsAccessChain : Nat := 66
def arrayLength : Nat := 68
def decorate : Nat := 71
def memberDecorate : Nat := 72
def copyObject : Nat := 83
def label : Nat := 248
def branch : Nat := 249
def branchConditional : Nat := 250
def switch : Nat := 251
def kill : Nat := 252
def returnVoid : Nat := 253
def returnValue : Nat := 254
def unreachable : Nat := 255
def noLine : Nat := 317
def moduleProcessed : Nat := 330

end Op

/-! ## Decorations and classes -/

namespace Decor

def block : UInt32 := 2
def bufferBlock : UInt32 := 3
def rowMajor : UInt32 := 4
def colMajor : UInt32 := 5
def arrayStride : UInt32 := 6
def matrixStride : UInt32 := 7
def builtIn : UInt32 := 11
def location : UInt32 := 30
def binding : UInt32 := 33
def descriptorSet : UInt32 := 34
def offset : UInt32 := 35

end Decor

namespace Class

def uniformConstant : UInt32 := 0
def input : UInt32 := 1
def uniform : UInt32 := 2
def output : UInt32 := 3
def workgroup : UInt32 := 4
def hidden : UInt32 := 6
def function : UInt32 := 7
def pushConstant : UInt32 := 9
def storageBuffer : UInt32 := 12

end Class

/-- The word that opens bytecode. -/
def magic : UInt32 := 0x07230203

end RenderKit.Spirv
