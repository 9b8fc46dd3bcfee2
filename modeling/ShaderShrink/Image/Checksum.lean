/-!
# Checksums of images

Each chunk of an image file ends with a cyclic redundancy check of 32 bits, and compressed data ends
with two sums modulo the greatest prime below 65536.
-/

namespace ShaderShrink.Checksum

/-- One bit of the cyclic redundancy check. -/
def shiftBit (sum : UInt32) : UInt32 :=
  if sum &&& 1 = 1 then (sum >>> 1) ^^^ 0xEDB88320 else sum >>> 1

/-- One byte of the cyclic redundancy check. -/
def shiftByte (sum : UInt32) (byte : UInt8) : UInt32 := Nat.repeat shiftBit 8 (sum ^^^ byte.toUInt32)

/-- The cyclic redundancy check of some bytes. -/
def cyclic (bytes : ByteArray) : UInt32 := bytes.foldl shiftByte 0xFFFFFFFF ^^^ 0xFFFFFFFF

/-- The greatest prime below 65536. -/
def modulus : Nat := 65521

/-- The two sums over some bytes: of the bytes, and of the first sum at each of them. -/
def sums (bytes : ByteArray) : Nat × Nat :=
  bytes.foldl (fun (low, high) byte =>
    let low := (low + byte.toNat) % modulus
    (low, (high + low) % modulus)) (1, 0)

/-- The two sums in one number. -/
def sumPair (bytes : ByteArray) : Nat :=
  let (low, high) := sums bytes
  high * 65536 + low

end ShaderShrink.Checksum
