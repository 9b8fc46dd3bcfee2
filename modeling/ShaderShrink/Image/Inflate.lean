import ShaderShrink.Image.Checksum

/-!
# Compressed data

Compressed data is a series of blocks of bits, the low bit of each byte first.  A block is stored as
it is, or it holds symbols in a prefix code: bytes, the end of the block, and references to what stands
some distance back.  The code is fixed or described at the start of the block.
-/

namespace ShaderShrink.Inflate

/-- Some bytes, and how many of their bits have been read. -/
structure Input where
  bytes : ByteArray
  position : Nat

/-- Reads bits; there is no result when they end early or mean nothing. -/
abbrev Reading := StateT Input Option

/-- The next bit. -/
def bit : Reading Nat := fun input =>
  input.bytes[input.position / 8]?.map fun byte =>
    ((byte.toNat >>> (input.position % 8)) % 2, { input with position := input.position + 1 })

/-- The next bits as a number, the low bit first. -/
def bits : Nat → Reading Nat
  | 0 => pure 0
  | n + 1 => do
    let low ← bit
    let rest ← bits n
    return low + 2 * rest

/-- Leaves out the rest of a byte that has been read in part. -/
def alignByte : Reading Unit :=
  modify fun input => { input with position := (input.position + 7) / 8 * 8 }

/-- The next whole bytes. -/
def wholeBytes (count : Nat) : Reading ByteArray := fun input =>
  let first := input.position / 8
  if first + count ≤ input.bytes.size then
    some (input.bytes.extract first (first + count), { input with position := 8 * (first + count) })
  else none

/-- The lengths that the words of a code may have. -/
def wordLengths : List Nat := List.range' 1 15

/-- A prefix code in which words of one length are consecutive numbers. -/
structure Code where
  /-- For each length, the number of words. -/
  counts : List Nat
  /-- The symbols, by length and then by size. -/
  symbols : Array Nat

/-- The code in which each symbol's word has the given length; length zero stands for no word. -/
def Code.ofLengths (lengths : List Nat) : Code where
  counts := wordLengths.map fun length => lengths.count length
  symbols := (wordLengths.flatMap fun length =>
    (lengths.zipIdx.filter fun entry => entry.1 = length).map (·.2)).toArray

/-- Reads the rest of a word: `first` is the first word of the present length, and `index` the number
of shorter words. -/
def Code.readFrom (symbols : Array Nat) : List Nat → (word first index : Nat) → Reading Nat
  | [], _, _, _ => failure
  | count :: counts, word, first, index => do
    let word := word + (← bit)
    if word < first + count then
      match symbols[index + (word - first)]? with
      | some symbol => pure symbol
      | none => failure
    else readFrom symbols counts (2 * word) (2 * (first + count)) (index + count)

/-- Reads a symbol. -/
def Code.read (code : Code) : Reading Nat := readFrom code.symbols code.counts 0 0 0

/-- For each symbol of a length, the least length and the number of bits that are added to it. -/
def lengthRows : List (Nat × Nat) :=
  [(3, 0), (4, 0), (5, 0), (6, 0), (7, 0), (8, 0), (9, 0), (10, 0), (11, 1), (13, 1), (15, 1),
    (17, 1), (19, 2), (23, 2), (27, 2), (31, 2), (35, 3), (43, 3), (51, 3), (59, 3), (67, 4), (83, 4),
    (99, 4), (115, 4), (131, 5), (163, 5), (195, 5), (227, 5), (258, 0)]

/-- For each symbol of a distance, the least distance and the number of bits that are added to it. -/
def distanceRows : List (Nat × Nat) :=
  [(1, 0), (2, 0), (3, 0), (4, 0), (5, 1), (7, 1), (9, 2), (13, 2), (17, 3), (25, 3), (33, 4), (49, 4),
    (65, 5), (97, 5), (129, 6), (193, 6), (257, 7), (385, 7), (513, 8), (769, 8), (1025, 9), (1537, 9),
    (2049, 10), (3073, 10), (4097, 11), (6145, 11), (8193, 12), (12289, 12), (16385, 13), (24577, 13)]

/-- Reads the number that a symbol and the bits behind it stand for. -/
def readRow (rows : List (Nat × Nat)) (symbol : Nat) : Reading Nat :=
  match rows[symbol]? with
  | some (least, extra) => return least + (← bits extra)
  | none => failure

/-- Repeats `count` bytes from some distance back; what is repeated may be repeated again. -/
def copyBack (distance : Nat) : Nat → ByteArray → ByteArray
  | 0, output => output
  | count + 1, output => copyBack distance count (output.push (output[output.size - distance]?.getD 0))

/-- Reads the symbols of a block; `fuel` bounds their number. -/
def readSymbols (literals distances : Code) : (fuel : Nat) → ByteArray → Reading ByteArray
  | 0, _ => failure
  | fuel + 1, output => do
    let symbol ← literals.read
    if symbol < 256 then readSymbols literals distances fuel (output.push (UInt8.ofNat symbol))
    else if symbol = 256 then pure output
    else
      let count ← readRow lengthRows (symbol - 257)
      let distance ← readRow distanceRows (← distances.read)
      if output.size < distance then failure
      else readSymbols literals distances fuel (copyBack distance count output)

/-- The fixed code of bytes and lengths. -/
def fixedLiterals : Code :=
  Code.ofLengths (List.replicate 144 8 ++ List.replicate 112 9 ++ List.replicate 24 7 ++
    List.replicate 8 8)

/-- The fixed code of distances. -/
def fixedDistances : Code := Code.ofLengths (List.replicate 30 5)

/-- The order in which the lengths of the code of lengths are given. -/
def lengthOrder : List Nat := [16, 17, 18, 0, 8, 7, 9, 6, 10, 5, 11, 4, 12, 3, 13, 2, 14, 1, 15]

/-- Reads `count` lengths of three bits each. -/
def readShortLengths : Nat → Reading (List Nat)
  | 0 => pure []
  | count + 1 => do
    let length ← bits 3
    return length :: (← readShortLengths count)

/-- Reads lengths until there are `count`, the last one first; `fuel` bounds the symbols. -/
def readLengths (code : Code) (count : Nat) : (fuel : Nat) → List Nat → Reading (List Nat)
  | 0, _ => failure
  | fuel + 1, lengths => do
    if lengths.length = count then pure lengths
    else if count < lengths.length then failure
    else
      let symbol ← code.read
      if symbol < 16 then readLengths code count fuel (symbol :: lengths)
      else if symbol = 16 then
        match lengths with
        | [] => failure
        | last :: _ =>
          let times ← bits 2
          readLengths code count fuel (List.replicate (3 + times) last ++ lengths)
      else if symbol = 17 then
        let times ← bits 3
        readLengths code count fuel (List.replicate (3 + times) 0 ++ lengths)
      else
        let times ← bits 7
        readLengths code count fuel (List.replicate (11 + times) 0 ++ lengths)

/-- Reads the two codes at the start of a block. -/
def readCodes : Reading (Code × Code) := do
  let literalCount := 257 + (← bits 5)
  let distanceCount := 1 + (← bits 5)
  let shortCount := 4 + (← bits 4)
  let short ← readShortLengths shortCount
  let given := lengthOrder.zip short
  let code := Code.ofLengths ((List.range 19).map fun symbol =>
    ((given.find? fun entry => entry.1 = symbol).map (·.2)).getD 0)
  let count := literalCount + distanceCount
  let lengths := (← readLengths code count (count + 1) []).reverse
  return (Code.ofLengths (lengths.take literalCount), Code.ofLengths (lengths.drop literalCount))

/-- Reads a block that is stored as it is. -/
def readStored (output : ByteArray) : Reading ByteArray := do
  alignByte
  let count ← bits 16
  let complement ← bits 16
  if count + complement = 65535 then return output ++ (← wholeBytes count) else failure

/-- Reads blocks up to the last one; `fuel` bounds the number of blocks and of the symbols in each. -/
def readBlocks (symbolFuel : Nat) : (fuel : Nat) → ByteArray → Reading ByteArray
  | 0, _ => failure
  | fuel + 1, output => do
    let last ← bit
    let kind ← bits 2
    let output ←
      match kind with
      | 0 => readStored output
      | 1 => readSymbols fixedLiterals fixedDistances symbolFuel output
      | 2 => do
        let (literals, distances) ← readCodes
        readSymbols literals distances symbolFuel output
      | _ => failure
    if last = 1 then pure output else readBlocks symbolFuel fuel output

/-- Reads a number of four bytes, the high byte first. -/
def readWord : Reading Nat := do
  let bytes ← wholeBytes 4
  return bytes.foldl (fun n byte => 256 * n + byte.toNat) 0

/-- Reads compressed data between its two bytes in front and its checksum behind. -/
def readData : Reading ByteArray := do
  let method ← bits 8
  let flags ← bits 8
  if method % 16 != 8 || (256 * method + flags) % 31 != 0 || (flags >>> 5) % 2 = 1 then failure
  else
    let fuel := 8 * (← get).bytes.size + 1
    let output ← readBlocks fuel fuel ByteArray.empty
    alignByte
    if (← readWord) = Checksum.sumPair output then pure output else failure

/-- The bytes that compressed data stands for. -/
def inflate? (bytes : ByteArray) : Option ByteArray := (readData ⟨bytes, 0⟩).map (·.1)

end ShaderShrink.Inflate
