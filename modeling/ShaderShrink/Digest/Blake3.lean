/-!
# BLAKE3

The digest of a byte string is the root of a binary tree over chunks of 1024 bytes.  A chunk chains
its 64-byte blocks through the compression function; a parent compresses the values of its two
children.  The left child of a parent covers the largest power of two of chunks that leaves
something for the right child.
-/

namespace ShaderShrink.Blake3

/-- The initial chaining value. -/
def initial : Array UInt32 :=
  #[0x6a09e667, 0xbb67ae85, 0x3c6ef372, 0xa54ff53a, 0x510e527f, 0x9b05688c, 0x1f83d9ab, 0x5be0cd19]

/-- Where each message word goes between two rounds. -/
def schedule : Array Nat := #[2, 6, 3, 10, 7, 0, 4, 13, 1, 11, 12, 5, 9, 14, 15, 8]

/-- The four columns and then the four diagonals of the state. -/
def lanes : List (Nat × Nat × Nat × Nat) :=
  [(0, 4, 8, 12), (1, 5, 9, 13), (2, 6, 10, 14), (3, 7, 11, 15),
    (0, 5, 10, 15), (1, 6, 11, 12), (2, 7, 8, 13), (3, 4, 9, 14)]

/-- Marks the first block of a chunk. -/
def chunkStart : UInt32 := 1

/-- Marks the last block of a chunk. -/
def chunkEnd : UInt32 := 2

/-- Marks a parent. -/
def parent : UInt32 := 4

/-- Marks the root. -/
def root : UInt32 := 8

/-- Rotation to the right by less than the width. -/
def rotateRight (word count : UInt32) : UInt32 := (word >>> count) ||| (word <<< (32 - count))

/-- Mixes two message words into four words of the state. -/
def mix (state : Array UInt32) (lane : Nat × Nat × Nat × Nat) (x y : UInt32) : Array UInt32 :=
  let (ia, ib, ic, id) := lane
  let a := state.getD ia 0 + state.getD ib 0 + x
  let d := rotateRight (state.getD id 0 ^^^ a) 16
  let c := state.getD ic 0 + d
  let b := rotateRight (state.getD ib 0 ^^^ c) 12
  let a := a + b + y
  let d := rotateRight (d ^^^ a) 8
  let c := c + d
  let b := rotateRight (b ^^^ c) 7
  (((state.setIfInBounds ia a).setIfInBounds ib b).setIfInBounds ic c).setIfInBounds id d

/-- One round: each lane takes two message words, in order. -/
def roundWith (message state : Array UInt32) : Array UInt32 :=
  lanes.zipIdx.foldl
    (fun state (lane, i) => mix state lane (message.getD (2 * i) 0) (message.getD (2 * i + 1) 0)) state

/-- The message words in the order of the next round. -/
def permute (message : Array UInt32) : Array UInt32 := schedule.map fun i => message.getD i 0

/-- Rounds with a permutation of the message after each. -/
def rounds : Nat → Array UInt32 → Array UInt32 → Array UInt32
  | 0, _, state => state
  | n + 1, message, state => rounds n (permute message) (roundWith message state)

/-- What the compression function takes. -/
structure Node where
  chaining : Array UInt32
  block : Array UInt32
  counter : Nat
  length : UInt32
  flags : UInt32

/-- The chaining value of a node with further flags. -/
def Node.value (node : Node) (flags : UInt32) : Array UInt32 :=
  let state := node.chaining ++ initial.take 4 ++
    #[UInt32.ofNat node.counter, UInt32.ofNat (node.counter >>> 32), node.length, node.flags ||| flags]
  let state := rounds 7 node.block state
  Array.ofFn fun i : Fin 8 => state.getD i 0 ^^^ state.getD (i + 8) 0

/-- The little-endian words of the block at an offset, filled up with zeros. -/
def blockWords (bytes : ByteArray) (offset : Nat) : Array UInt32 :=
  Array.ofFn fun i : Fin 16 =>
    let byte (k : Nat) : UInt32 := (bytes.data.getD (offset + 4 * i + k) 0).toUInt32
    byte 0 ||| (byte 1 <<< 8) ||| (byte 2 <<< 16) ||| (byte 3 <<< 24)

/-- The last block of a chunk, from the block at `offset` on; `blocks` blocks follow it. -/
def chunkFrom (bytes : ByteArray) (counter : Nat) : Nat → Nat → Array UInt32 → UInt32 → Node
  | 0, offset, chaining, flags =>
    ⟨chaining, blockWords bytes offset, counter, UInt32.ofNat (bytes.size - offset), flags ||| chunkEnd⟩
  | blocks + 1, offset, chaining, flags =>
    let node : Node := ⟨chaining, blockWords bytes offset, counter, 64, flags⟩
    chunkFrom bytes counter blocks (offset + 64) (node.value 0) 0

/-- The node of a chunk of at most 1024 bytes. -/
def chunk (bytes : ByteArray) (counter : Nat) : Node :=
  chunkFrom bytes counter ((bytes.size - 1) / 64) 0 initial chunkStart

/-- The node over all the bytes, whose first chunk has the number `counter`. -/
def tree : Nat → ByteArray → Nat → Node
  | 0, bytes, counter => chunk bytes counter
  | fuel + 1, bytes, counter =>
    if bytes.size ≤ 1024 then chunk bytes counter
    else
      let chunks := 1 <<< Nat.log2 ((bytes.size - 1) / 1024)
      let left := tree fuel (bytes.extract 0 (1024 * chunks)) counter
      let right := tree fuel (bytes.extract (1024 * chunks) bytes.size) (counter + chunks)
      ⟨initial, left.value 0 ++ right.value 0, 0, 64, parent⟩

/-- The 32 bytes of a chaining value. -/
def wordBytes (words : Array UInt32) : List UInt8 :=
  words.toList.flatMap fun (w : UInt32) => [w.toUInt8, (w >>> 8).toUInt8, (w >>> 16).toUInt8, (w >>> 24).toUInt8]

/-- Two lower-case hexadecimal digits for each byte. -/
def hex (bytes : List UInt8) : String :=
  String.ofList (bytes.flatMap fun b => [Nat.digitChar (b.toNat / 16), Nat.digitChar (b.toNat % 16)])

/-- The digest of a byte string in hexadecimal. -/
def digest (bytes : ByteArray) : String :=
  hex (wordBytes ((tree (Nat.log2 bytes.size + 1) bytes 0).value root))

end ShaderShrink.Blake3
