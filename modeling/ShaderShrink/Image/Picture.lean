import ShaderShrink.Fault

/-!
# Pictures

A picture has a width, a height and its pixels by rows.  A pixel has three colours and an opacity.
-/

namespace ShaderShrink

/-- A pixel. -/
structure Pixel where
  red : UInt8
  green : UInt8
  blue : UInt8
  alpha : UInt8
  deriving DecidableEq, Repr, Inhabited

/-- A picture. -/
structure Picture where
  width : Nat
  height : Nat
  pixels : List Pixel
  deriving DecidableEq, Repr

namespace Picture

/-- What a file may be. -/
inductive Reading where
  | picture (picture : Picture)
  /-- A picture that cannot be read. -/
  | fault (fault : Fault)
  /-- No picture of this kind. -/
  | unknown

/-- The fault of a picture whose data ends too early. -/
def truncated : Fault := .system .other "image file is truncated"

/-- The greatest number of pixels that are looked at. -/
def maxPixels : Nat := 178956970

/-- What a file is whose header tells the size; `rest` reads what follows. -/
def Reading.sized (width height : Nat) (rest : Unit → Reading) : Reading :=
  if width = 0 || height = 0 then unknown
  else if maxPixels < width * height then fault .tooManyPixels
  else rest ()

end Picture

namespace Pixel

/-- An opaque grey pixel. -/
def ofGray (value : UInt8) : Pixel := ⟨value, value, value, 255⟩

/-- The parts of a pixel. -/
def channels : List (Pixel → UInt8) := [red, green, blue, alpha]

end Pixel

end ShaderShrink
