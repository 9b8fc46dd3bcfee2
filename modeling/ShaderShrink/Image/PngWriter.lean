import ShaderShrink.Image.Png

/-!
# Writing portable network graphics

The writer stores the rows as they are: no row is subtracted from another, and the data is put into
blocks without compression.
-/

namespace ShaderShrink.Png

/-- The four bytes of a number, the high byte first. -/
def wordBytes (n : Nat) : ByteArray :=
  ⟨#[UInt8.ofNat (n >>> 24), UInt8.ofNat (n >>> 16), UInt8.ofNat (n >>> 8), UInt8.ofNat n]⟩

/-- A chunk with its length and its checksum. -/
def chunkBytes (name : String) (content : ByteArray) : ByteArray :=
  let named := name.toUTF8 ++ content
  wordBytes content.size ++ named ++ wordBytes (Checksum.cyclic named).toNat

/-- The greatest number of bytes in a stored block. -/
def blockLimit : Nat := 65535

/-- A stored block. -/
def storedBlock (isLast : Bool) (part : ByteArray) : ByteArray :=
  let rest := blockLimit - part.size
  ⟨#[if isLast then 1 else 0, UInt8.ofNat part.size, UInt8.ofNat (part.size >>> 8), UInt8.ofNat rest,
    UInt8.ofNat (rest >>> 8)]⟩ ++ part

/-- Bytes in stored blocks; `fuel` bounds their number. -/
def storedBlocks (data : ByteArray) : (fuel : Nat) → ByteArray
  | 0 => storedBlock true ByteArray.empty
  | fuel + 1 =>
    if data.size ≤ blockLimit then storedBlock true data
    else
      storedBlock false (data.extract 0 blockLimit) ++
        storedBlocks (data.extract blockLimit data.size) fuel

/-- Compressed data that is only stored. -/
def storedData (data : ByteArray) : ByteArray :=
  ⟨#[120, 1]⟩ ++ storedBlocks data data.size ++ wordBytes (Checksum.sumPair data)

/-- The number of a kind of samples. -/
def SampleKind.number : SampleKind → UInt8
  | gray => 0
  | rgb => 2
  | index => 3
  | grayAlpha => 4
  | rgba => 6

/-- The content of a header. -/
def Header.content (header : Header) : ByteArray :=
  wordBytes header.width ++ wordBytes header.height ++
    ⟨#[UInt8.ofNat header.depth, header.kind.number, 0, 0, 0]⟩

/-- Rows with a byte in front of each that says that nothing was subtracted. -/
def plainRows (header : Header) (samples : ByteArray) : ByteArray :=
  (List.range header.height).foldl (fun data row =>
    data.push 0 ++ samples.extract (row * header.rowBytes) ((row + 1) * header.rowBytes)) ByteArray.empty

/-- The file with the given samples, which fill up each row to whole bytes. -/
def write (header : Header) (colours samples : ByteArray) : ByteArray :=
  ⟨signature.toArray⟩ ++ chunkBytes "IHDR" header.content ++
    (if colours.isEmpty then ByteArray.empty else chunkBytes "PLTE" colours) ++
    chunkBytes "IDAT" (storedData (plainRows header samples)) ++
    chunkBytes "IEND" ByteArray.empty

end ShaderShrink.Png
