import ShaderShrink.Image.Picture

/-!
# The distance of histograms

The histogram of a picture says for each channel and each value how many pixels have it there.  The
distance of two pictures adds up, over all channels and values, the square of the difference of the
two counts divided by their sum; values that neither picture has add nothing.
-/

namespace ShaderShrink.Picture

/-- The values of a channel. -/
def values (channel : Pixel → UInt8) (picture : Picture) : List Nat :=
  picture.pixels.map fun pixel => (channel pixel).toNat

/-- What the two counts of one value add to the distance. -/
def countDistance (left right : Nat) : Rat :=
  if left + right = 0 then 0
  else
    let difference : Int := (left : Int) - right
    mkRat (difference * difference) (left + right)

/-- The number of values of a channel. -/
def channelSize : Nat := 256

/-- The distance of two lists of values. -/
def valuesDistance (left right : List Nat) : Rat :=
  (List.range channelSize).foldl (fun sum value =>
    sum + countDistance (left.count value) (right.count value)) 0

/-- The distance of two pictures. -/
def distance (left right : Picture) : Rat :=
  Pixel.channels.foldl (fun sum channel =>
    sum + valuesDistance (left.values channel) (right.values channel)) 0

end ShaderShrink.Picture
