import ShaderShrink.Image.Inflate
import ShaderShrink.Image.Picture

/-!
# Portable network graphics

A file is a signature and a list of chunks, each with a name and a checksum.  The header tells the
size and the kind of the samples; the palette and the opacities follow, and then the compressed rows.
Each row tells with which neighbours its bytes were subtracted.  Interlaced files are not read.
-/

namespace ShaderShrink.Png

/-- What every file starts with. -/
def signature : List UInt8 := [137, 80, 78, 71, 13, 10, 26, 10]

/-- A chunk of a file. -/
structure Chunk where
  name : List UInt8
  content : ByteArray

/-- The number in four bytes at a position, the high byte first. -/
def word? (bytes : ByteArray) (position : Nat) : Option Nat :=
  if position + 4 ≤ bytes.size then
    some ((bytes.extract position (position + 4)).foldl (fun n byte => 256 * n + byte.toNat) 0)
  else none

/-- The name of the last chunk. -/
def endName : List UInt8 := "IEND".toUTF8.toList

/-- The chunks from a position up to the last one, or to one that is not whole; `fuel` bounds their
number. -/
def chunksFrom (bytes : ByteArray) : (fuel position : Nat) → List Chunk
  | 0, _ => []
  | fuel + 1, position =>
    match word? bytes position with
    | none => []
    | some length =>
      let named := bytes.extract (position + 4) (position + 8 + length)
      let chunk : Chunk := ⟨(named.extract 0 4).toList, named.extract 4 (4 + length)⟩
      if chunk.name.length < 4 || chunk.name = endName then []
      else chunk :: chunksFrom bytes fuel (position + 12 + length)

/-- What the samples of a pixel are. -/
inductive SampleKind where
  | gray
  | rgb
  | index
  | grayAlpha
  | rgba
  deriving DecidableEq, Repr

/-- The kind of samples with a number. -/
def SampleKind.ofNumber? : Nat → Option SampleKind
  | 0 => some gray
  | 2 => some rgb
  | 3 => some index
  | 4 => some grayAlpha
  | 6 => some rgba
  | _ => none

/-- The number of samples in a pixel. -/
def SampleKind.size : SampleKind → Nat
  | gray | index => 1
  | grayAlpha => 2
  | rgb => 3
  | rgba => 4

/-- The numbers of bits that a sample may have. -/
def SampleKind.depths : SampleKind → List Nat
  | gray => [1, 2, 4, 8, 16]
  | index => [1, 2, 4, 8]
  | _ => [8, 16]

/-- The header of a file. -/
structure Header where
  width : Nat
  height : Nat
  depth : Nat
  kind : SampleKind

/-- The header in a chunk's content. -/
def Header.ofContent? (content : ByteArray) : Option Header := do
  let width ← word? content 0
  let height ← word? content 4
  let kind ← SampleKind.ofNumber? (content[9]?.getD 255).toNat
  let depth := (content[8]?.getD 0).toNat
  if 13 ≤ content.size && kind.depths.contains depth && (content.toList.drop 11).take 2 == [0, 0] then
    some ⟨width, height, depth, kind⟩
  else none

/-- The number of bits in a pixel. -/
def Header.pixelBits (header : Header) : Nat := header.kind.size * header.depth

/-- The number of bytes in a row. -/
def Header.rowBytes (header : Header) : Nat := (header.width * header.pixelBits + 7) / 8

/-- How far back the byte of the pixel before stands. -/
def Header.stride (header : Header) : Nat := Nat.max 1 (header.pixelBits / 8)

/-- Of three neighbours, the one nearest to what they predict together. -/
def predict (left above corner : Nat) : Nat :=
  let guess : Int := (left : Int) + above - corner
  let toLeft := (guess - left).natAbs
  let toAbove := (guess - above).natAbs
  let toCorner := (guess - corner).natAbs
  if toLeft ≤ toAbove && toLeft ≤ toCorner then left else if toAbove ≤ toCorner then above else corner

/-- What was subtracted from a byte. -/
def subtracted? (filter left above corner : Nat) : Option Nat :=
  match filter with
  | 0 => some 0
  | 1 => some left
  | 2 => some above
  | 3 => some ((left + above) / 2)
  | 4 => some (predict left above corner)
  | _ => none

/-- The byte at a position that may lie before the row. -/
def byteBefore (row : ByteArray) (stride position : Nat) : Nat :=
  if position < stride then 0 else (row[position - stride]?.getD 0).toNat

/-- Adds to the bytes of a row what was subtracted from them. -/
def restoreRow? (stride filter : Nat) (previous : ByteArray) (row : List UInt8) : Option ByteArray :=
  row.foldlM (fun done byte => do
    let position := done.size
    let amount ← subtracted? filter (byteBefore done stride position)
      ((previous[position]?.getD 0).toNat) (byteBefore previous stride position)
    some (done.push (UInt8.ofNat (byte.toNat + amount)))) ByteArray.empty

/-- The rows of a picture with `count` of them, from the compressed rows' bytes. -/
def rows? (header : Header) (bytes : ByteArray) : (count position : Nat) → ByteArray →
    Option (List ByteArray)
  | 0, _, _ => some []
  | count + 1, position, previous => do
    let next := position + 1 + header.rowBytes
    if bytes.size < next then none
    else
      let row := (bytes.extract (position + 1) next).toList
      let restored ← restoreRow? header.stride (bytes[position]?.getD 0).toNat previous row
      let rest ← rows? header bytes count next restored
      some (restored :: rest)

/-- The samples of a row, from the byte's high bits to its low bits. -/
def samples (depth : Nat) (row : List UInt8) : List Nat :=
  match depth, row with
  | 16, high :: _ :: rest => high.toNat :: samples 16 rest
  | 16, _ => []
  | _, [] => []
  | depth, byte :: rest =>
    ((List.range (8 / depth)).map fun i =>
      (byte.toNat >>> (8 - depth * (i + 1))) % (1 <<< depth)) ++ samples depth rest

/-- A grey sample in eight bits. -/
def fullScale (depth sample : Nat) : UInt8 :=
  if 8 ≤ depth then UInt8.ofNat sample else UInt8.ofNat (sample * 255 / ((1 <<< depth) - 1))

/-- The colours that indices stand for, and the opacities of the first ones. -/
structure Palette where
  colours : ByteArray
  opacities : ByteArray

/-- The pixel of an index; black for an index without colour. -/
def Palette.pixel (palette : Palette) (i : Nat) : Pixel :=
  let part := fun k => palette.colours[3 * i + k]?.getD 0
  ⟨part 0, part 1, part 2, palette.opacities[i]?.getD 255⟩

/-- The pixels of a row's samples. -/
def pixels (header : Header) (palette : Palette) : List Nat → List Pixel
  | [] => []
  | a :: rest =>
    match header.kind, rest with
    | .gray, rest => Pixel.ofGray (fullScale header.depth a) :: pixels header palette rest
    | .index, rest => palette.pixel a :: pixels header palette rest
    | .grayAlpha, b :: rest =>
      { Pixel.ofGray (UInt8.ofNat a) with alpha := UInt8.ofNat b } :: pixels header palette rest
    | .rgb, b :: c :: rest =>
      ⟨UInt8.ofNat a, UInt8.ofNat b, UInt8.ofNat c, 255⟩ :: pixels header palette rest
    | .rgba, b :: c :: d :: rest =>
      ⟨UInt8.ofNat a, UInt8.ofNat b, UInt8.ofNat c, UInt8.ofNat d⟩ :: pixels header palette rest
    | _, _ => []

/-- The contents of all chunks of a name, one behind the other. -/
def contentOf (name : String) (chunks : List Chunk) : ByteArray :=
  (chunks.filter fun chunk => chunk.name = name.toUTF8.toList).foldl
    (fun content chunk => content ++ chunk.content) ByteArray.empty

/-- The picture of a header and the chunks; nothing if the rows cannot be read. -/
def ofChunks? (header : Header) (chunks : List Chunk) : Option Picture := do
  let bytes ← Inflate.inflate? (contentOf "IDAT" chunks)
  let rows ← rows? header bytes header.height 0 ByteArray.empty
  let palette : Palette := ⟨contentOf "PLTE" chunks, contentOf "tRNS" chunks⟩
  some {
    width := header.width
    height := header.height
    pixels := rows.flatMap fun row =>
      (pixels header palette (samples header.depth row.toList)).take header.width
  }

/-- Whether bytes start like a file of this kind. -/
def isSigned (bytes : ByteArray) : Bool := (bytes.extract 0 8).toList == signature

/-- How the chunks in front of the rows are. -/
inductive Opening where
  /-- All of them are whole. -/
  | whole
  /-- The content of one ends too early. -/
  | cut
  /-- One is none. -/
  | broken
  deriving DecidableEq, Repr

/-- Whether a byte may stand in the name of a chunk. -/
def isNameByte (byte : UInt8) : Bool :=
  (48 ≤ byte && byte ≤ 57) || (65 ≤ byte && byte ≤ 90) || byte == 95 || (97 ≤ byte && byte ≤ 122)

/-- How the chunks from a position up to the first rows are; `fuel` bounds their number. -/
def openingFrom (bytes : ByteArray) : (fuel position : Nat) → Opening
  | 0, _ => .broken
  | fuel + 1, position =>
    let name := (bytes.extract (position + 4) (position + 8)).toList
    match word? bytes position with
    | none => .broken
    | some length =>
      if name.length < 4 || !name.all isNameByte then .broken
      else if name = "IDAT".toUTF8.toList || name = endName then .whole
      else if bytes.size < position + 8 + length then .cut
      else
        match word? bytes (position + 8 + length) with
        | none => .broken
        | some checksum =>
          let named := bytes.extract (position + 4) (position + 8 + length)
          if (Checksum.cyclic named).toNat != checksum then .broken
          else openingFrom bytes fuel (position + 12 + length)

/-- Reads a file. -/
def read (bytes : ByteArray) : Picture.Reading :=
  if !isSigned bytes then .unknown
  else
    match openingFrom bytes (bytes.size + 1) 8 with
    | .broken => .unknown
    | .cut => .fault Picture.truncated
    | .whole =>
      let chunks := chunksFrom bytes (bytes.size + 1) 8
      match Header.ofContent? (contentOf "IHDR" chunks) with
      | none => .unknown
      | some header =>
        .sized header.width header.height fun _ =>
          match ofChunks? header chunks with
          | some picture => .picture picture
          | none => .fault Picture.truncated

end ShaderShrink.Png
