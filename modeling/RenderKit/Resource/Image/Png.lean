import RenderKit.Resource.Image.Chunk
import RenderKit.Resource.Image.Codec
import RenderKit.Resource.Image.Stored
import RenderKit.Text.Blank

set_option autoImplicit false

/-! # Reading images

An image file begins with a signature and a header chunk, may bring a palette and transparency,
and holds its rows in data chunks. Every row is filtered: its bytes are differences to bytes
beside and above them. Pixels have one to four channels of eight or of sixteen bits: grays of fewer
bits are stretched, palettes are looked up, and a transparent color becomes an alpha channel. -/

namespace RenderKit.Png

def signature : List UInt8 := [0x89, 0x50, 0x4e, 0x47, 0x0d, 0x0a, 0x1a, 0x0a]

/-! ## Header -/

/-- What the samples of a pixel mean. -/
inductive ColorKind where
  | gray
  | rgb
  | indexed
  | grayAlpha
  | rgba
deriving DecidableEq, Repr

namespace ColorKind

def ofCode? : UInt8 → Option ColorKind
  | 0 => some .gray
  | 2 => some .rgb
  | 3 => some .indexed
  | 4 => some .grayAlpha
  | 6 => some .rgba
  | _ => none

/-- The samples of a pixel in the file. -/
def samples : ColorKind → Nat
  | .gray | .indexed => 1
  | .grayAlpha => 2
  | .rgb => 3
  | .rgba => 4

/-- The bits a sample can have. -/
def depths : ColorKind → List Nat
  | .gray => [1, 2, 4, 8, 16]
  | .indexed => [1, 2, 4, 8]
  | .rgb | .grayAlpha | .rgba => [8, 16]

end ColorKind

structure Header where
  width : Nat
  height : Nat
  depth : Nat
  color : ColorKind
deriving DecidableEq, Repr

namespace Header

/-- The header in the data of its chunk. Interlaced images are not understood. -/
def read? (data : List UInt8) : Option Header :=
  match data.drop 8 with
  | [depth, color, 0, 0, 0] =>
      match ColorKind.ofCode? color with
      | none => none
      | some kind =>
          let width := bigEndian (data.take 4)
          let height := bigEndian ((data.drop 4).take 4)
          if width = 0 || height = 0 || !kind.depths.contains depth.toNat then none
          else some ⟨width, height, depth.toNat, kind⟩
  | _ => none

/-- The bytes of a row, without the byte that names its filter. -/
def rowBytes (h : Header) : Nat := (h.width * h.color.samples * h.depth + 7) / 8

/-- The distance to the byte that a byte is compared with on its left. -/
def step (h : Header) : Nat := max 1 (h.color.samples * h.depth / 8)

end Header

/-! ## Chunks -/

structure Contents where
  header : Header
  palette : Option (List UInt8)
  transparency : Option (List UInt8)
  data : List UInt8

/-- Take in one chunk. -/
def Contents.take (c : Contents) (chunk : Chunk) : Contents :=
  if chunk.kind = kindOf "PLTE" then { c with palette := some chunk.data }
  else if chunk.kind = kindOf "tRNS" then { c with transparency := some chunk.data }
  else if chunk.kind = kindOf "IDAT" then { c with data := c.data ++ chunk.data }
  else c

/-- Take in chunks up to the first one behind the data, of which only the head has to be there. -/
def Contents.collect : Nat → Bool → Contents → List UInt8 → Option Contents
  | 0, _, _, _ => none
  | fuel + 1, inData, c, bytes =>
      match head? bytes with
      | none => none
      | some (_, kind) =>
          if inData && kind ≠ kindOf "IDAT" then some c
          else if kind = kindOf "IEND" then none
          else
            match chunk? bytes with
            | none => none
            | some (chunk, rest) =>
                if chunk.intact then
                  collect fuel (kind = kindOf "IDAT") (c.take chunk) rest
                else if chunk.optional then collect fuel inData c rest
                else none

def contents? (bytes : List UInt8) : Option Contents :=
  if signature.isPrefixOf bytes then
    match chunk? (bytes.drop signature.length) with
    | none => none
    | some (chunk, rest) =>
        if chunk.kind = kindOf "IHDR" && chunk.intact then
          match Header.read? chunk.data with
          | none => none
          | some header =>
              Contents.collect bytes.length false
                { header := header, palette := none, transparency := none, data := [] } rest
        else none
  else none

/-! ## Rows -/

/-- Of the bytes on the left, above and in the corner, the one nearest to left + above - corner. -/
def nearest (left above corner : UInt8) : UInt8 :=
  let target : Int := left.toNat + above.toNat - corner.toNat
  let distance (b : UInt8) : Nat := (target - b.toNat).natAbs
  if distance left ≤ distance above && distance left ≤ distance corner then left
  else if distance above ≤ distance corner then above
  else corner

/-- What a filter adds to a byte. -/
def prediction? (filter : UInt8) : Option (UInt8 → UInt8 → UInt8 → UInt8) :=
  match filter with
  | 0 => some fun _ _ _ => 0
  | 1 => some fun left _ _ => left
  | 2 => some fun _ above _ => above
  | 3 => some fun left above _ => ((left.toNat + above.toNat) / 2).toUInt8
  | 4 => some nearest
  | _ => none

/-- Undo the filter of a row, given the row above. -/
def unfilter (step : Nat) (predict : UInt8 → UInt8 → UInt8 → UInt8) (above : Array UInt8)
    (row : List UInt8) : Array UInt8 :=
  row.foldl
    (fun done b =>
      let place := done.size
      let before (bytes : Array UInt8) : UInt8 :=
        if place < step then 0 else bytes.getD (place - step) 0
      done.push (b + predict (before done) (above.getD place 0) (before above)))
    #[]

/-- Some rows of a given length from the front of the data. -/
def rows? (step length : Nat) : Nat → Array UInt8 → List UInt8 → Option (List (List UInt8))
  | 0, _, _ => some []
  | count + 1, above, data =>
      match data with
      | [] => none
      | filter :: rest =>
          match prediction? filter with
          | none => none
          | some predict =>
              if rest.length < length then none
              else
                let row := unfilter step predict above (rest.take length)
                (rows? step length count row (rest.drop length)).map (row.toList :: ·)

/-! ## Samples -/

/-- The parts of a byte, the highest bits first. -/
def splitByte (depth : Nat) (b : UInt8) : List Nat :=
  (List.range (8 / depth)).map fun i => b.toNat / Nat.pow 2 (8 - depth * (i + 1)) % Nat.pow 2 depth

/-- The samples in some bytes. -/
def samplesOf (depth : Nat) : List UInt8 → List Nat
  | [] => []
  | high :: low :: rest =>
      if depth = 16 then (256 * high.toNat + low.toNat) :: samplesOf depth rest
      else splitByte depth high ++ samplesOf depth (low :: rest)
  | [b] => if depth = 16 then [] else splitByte depth b

/-- A sample of eight bits, or a deep one. -/
inductive Sample where
  | byte (value : UInt8)
  | deep (value : UInt16)
deriving DecidableEq, Repr

namespace Sample

/-- A sample of some depth, stretched if it is shallow. -/
def ofDepth (depth sample : Nat) : Sample :=
  if depth = 16 then .deep sample.toUInt16
  else .byte (sample * (255 / (Nat.pow 2 depth - 1))).toUInt8

/-- A sample brought to eight bits. Deep ones are rounded. -/
def toByte : Sample → UInt8
  | .byte value => value
  | .deep value => ((value.toNat + 128) / 257).toUInt8

end Sample

/-- The first pixels of some samples. -/
def pixels (size : Nat) : Nat → List Nat → List (List Nat)
  | 0, _ => []
  | count + 1, samples => samples.take size :: pixels size count (samples.drop size)

/-! ## Colors -/

/-- How the pixels of an image are to be read. -/
structure Reading where
  depth : Nat
  color : ColorKind
  palette : List UInt8
  /-- Alphas of the palette, or the samples of the transparent color. -/
  transparency : Option (List UInt8)

/-- The color that is transparent, as samples. Of shallow samples only the low bytes count. -/
def transparentColor (depth : Nat) (data : List UInt8) : List Nat :=
  let wide := samplesOf 16 data
  if depth = 16 then wide else wide.map (· % 256)

/-- The channels a pixel has in the end. -/
def Reading.channels (r : Reading) : Nat :=
  match r.color, r.transparency with
  | .indexed, none => 3
  | .indexed, some _ => 4
  | .gray, some _ => 2
  | .rgb, some _ => 4
  | color, _ => color.samples

/-- A color of the palette, black past its end. -/
def paletteColor (palette : List UInt8) (index : Nat) : List Sample :=
  let color :=
    if 3 * index + 3 ≤ palette.length then (palette.drop (3 * index)).take 3 else [0, 0, 0]
  color.map Sample.byte

/-- The channels of one pixel. -/
def Reading.pixel (r : Reading) (samples : List Nat) : List Sample :=
  match r.color, r.transparency with
  | .indexed, none => paletteColor r.palette (samples.headD 0)
  | .indexed, some alphas =>
      paletteColor r.palette (samples.headD 0) ++ [.byte (alphas.getD (samples.headD 0) 255)]
  | .gray, some data | .rgb, some data =>
      let hidden := samples = (transparentColor r.depth data).take samples.length
      let alpha := if hidden then 0 else Nat.pow 2 r.depth - 1
      samples.map (Sample.ofDepth r.depth) ++ [Sample.ofDepth r.depth alpha]
  | _, _ => samples.map (Sample.ofDepth r.depth)

/-- Whether everything that pixels refer to is there. -/
def Contents.complete (c : Contents) : Bool :=
  match c.header.color, c.palette, c.transparency with
  | .indexed, none, _ => false
  | .gray, _, some data => data.length ≥ 2
  | .rgb, _, some data => data.length ≥ 6
  | .grayAlpha, _, some _ | .rgba, _, some _ => false
  | _, _, _ => true

/-! ## The image -/

/-- The image in a file, unless the file is damaged or of a kind that is not understood. -/
def decode (bytes : List UInt8) : Option (Image Sample) := do
  let c ← contents? bytes
  let h := c.header
  if !c.complete then none
  let data ← storedData c.data
  let rows ← rows? h.step h.rowBytes h.height (Array.replicate h.rowBytes 0) data
  let reading : Reading :=
    { depth := h.depth
      color := h.color
      palette := c.palette.getD []
      transparency := c.transparency }
  Image.ofRows? h.width.toUInt32 h.height.toUInt32 reading.channels
    (rows.map fun row =>
      (pixels h.color.samples h.width (samplesOf h.depth row)).flatMap reading.pixel)

/-! ## The codec -/

/-- The extensions of files that can hold an image. -/
def extensions : List String := ["png", "apng"]

/-- The image in a file, chosen by its extension, in which case does not matter. -/
def read? (path : String) : FileNode → Option (Image Sample)
  | .directory => none
  | .file bytes => do
      let extension ← Files.extension? path
      if extensions.contains (String.ofList (extension.toList.map lowerAscii)) then decode bytes
      else none

instance : ImageCodec where
  Sample := Sample
  toByte := Sample.toByte
  decode path node :=
    match read? path node with
    | some i => .ok i
    | none => .error "no readable image"
  flip := Image.flipped
  -- an image is only asked for its own channels
  bytes _ i := i.samples.map Sample.toByte
  bytes_channels _ := rfl
  width_flip _ := rfl
  height_flip _ := rfl
  channels_flip _ := rfl
  sample?_flip i _ column channel h := i.sample?_flipped column channel h

theorem decode_of_read {path : String} {node : FileNode} {i : Image Sample}
    (h : read? path node = some i) : ImageCodec.decode path node = .ok i := by
  show (match read? path node with
    | some i => Except.ok i
    | none => Except.error "no readable image") = _
  rw [h]

end RenderKit.Png
