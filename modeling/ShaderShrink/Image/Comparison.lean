import ShaderShrink.Files.World
import ShaderShrink.Image.Distance
import ShaderShrink.Image.Pixmap
import ShaderShrink.Image.Png
import ShaderShrink.Number.Double

/-!
# Comparing images

A candidate's image is compared with the reference image: by being the same, pixel for pixel, or by
the distance of the histograms, which has to be below a threshold or else not below it.
-/

namespace ShaderShrink

/-- The picture of a file's content. -/
def Picture.ofBytes (content : ByteArray) : Except Fault Picture :=
  let reading :=
    match Pixmap.read content with
    | .unknown => Png.read content
    | reading => reading
  match reading with
  | .picture picture => .ok picture
  | .fault fault => .error fault
  | .unknown => .error (.system .noImage "cannot identify image file")

/-- The picture in a file. -/
def Picture.load {σ : Type} (path : Path) : Action σ Picture := do
  Action.ofExcept (Picture.ofBytes (← Action.readBytes path))

/-- A limit for the distance of two pictures. -/
structure Threshold where
  limit : Double
  /-- Whether distances from the limit on are accepted, and not those below it. -/
  above : Bool

namespace Threshold

/-- The threshold with a limit that is not negative. -/
def ofLimit (limit : Double) (above : Bool) : Except Fault Threshold :=
  if limit.less (Double.ofInt 0) then .error (.value "threshold must be non-negative")
  else .ok ⟨limit, above⟩

/-- Whether a distance given as a double is accepted. -/
def accepts (threshold : Threshold) (distance : Double) : Bool :=
  if threshold.above then threshold.limit.atMost distance else distance.less threshold.limit

/-- Whether an exact distance is accepted. -/
def acceptsExact (threshold : Threshold) (distance : Rat) : Bool :=
  if threshold.above then
    !threshold.limit.isNan && !Double.ratLess distance threshold.limit
  else Double.ratLess distance threshold.limit

end Threshold

/-- What is asked of a candidate's picture. -/
inductive Comparison where
  /-- Whether it is the same as the reference. -/
  | sameness (expected : Bool)
  /-- How far it is from the reference. -/
  | distance (threshold : Threshold)

namespace Comparison

/-- Whether a picture is accepted beside a reference. -/
def accepts (picture reference : Picture) : Comparison → Bool
  | sameness expected => decide (picture = reference) == expected
  | distance threshold => threshold.acceptsExact (picture.distance reference)

/-- Whether the image in a file is accepted beside the reference in another one. -/
def acceptsFiles {σ : Type} (comparison : Comparison) (image reference : Path) : Action σ Bool := do
  let picture ← Picture.load image
  let other ← Picture.load reference
  return comparison.accepts picture other

end Comparison

end ShaderShrink
