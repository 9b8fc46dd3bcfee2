import Mathlib.Tactic.Positivity
import ShaderShrink.Proofs.Effect
import ShaderShrink.Proofs.Files.Frame
import ShaderShrink.Proofs.Image.Histogram
import ShaderShrink.Proofs.Image.Size

/-!
# Comparisons of images

What is asked of two images does not contradict itself: where the images have to be the same, their distance is below
every positive threshold, and where it is not below one, they differ.  All of it rests on the laws of the distance,
which hold for whatever two pictures are read from files.
-/

namespace ShaderShrink

open Effect

/-! ## Thresholds -/

namespace Double

/-- What is less than another double is not greater than it. -/
theorem less_asymm {a b : Double} (less : a.less b = true) : b.less a = false := by
  cases a with
  | nan => cases less
  | infinite negative =>
    cases b with
    | nan => cases less
    | infinite negative' =>
      cases negative <;> cases negative' <;> first | rfl | cases less
    | finite => simpa [Double.less] using less
  | finite =>
    cases b with
    | nan => cases less
    | infinite negative => simpa [Double.less] using less
    | finite =>
      simp only [Double.less, decide_eq_true_eq, decide_eq_false_iff_not] at less ⊢
      omega

theorem isNan_of_less {a b : Double} (less : a.less b = true) : b.isNan = false := by
  cases b with
  | nan => cases a <;> cases less
  | infinite | finite => rfl

private theorem shift_pos (n : Nat) : 0 < 1 <<< n := by
  rw [Nat.shiftLeft_eq]
  positivity

/-- A double above zero is above the exact number zero. -/
theorem ratLess_zero {x : Double} (positive : (ofInt 0).less x = true) : ratLess 0 x = true := by
  have zero : ofInt 0 = .finite false 0 leastExponent := by decide
  rw [zero] at positive
  cases x with
  | nan => cases positive
  | infinite negative => exact positive
  | finite negative mantissa exponent =>
    obtain ⟨units, value⟩ : ∃ units, (finite negative mantissa exponent).units? = some units := ⟨_, rfl⟩
    have none : (finite false 0 leastExponent).units? = some 0 := by decide
    have units_pos : 0 < units := by simpa only [less, value, none, Option.getD_some, decide_eq_true_eq] using positive
    rw [ratLess, toRat?, value, Option.map_some, Option.getD_some, decide_eq_true_eq, Rat.mkRat_eq_div]
    exact div_pos (Int.cast_pos.mpr units_pos) (Nat.cast_pos.mpr (shift_pos 1074))

end Double

namespace Threshold

variable {limit : Double} (positive : (Double.ofInt 0).less limit = true)

include positive

/-- A positive limit makes a threshold. -/
theorem ofLimit_of_positive (above : Bool) : ofLimit limit above = .ok ⟨limit, above⟩ := by
  rw [ofLimit, Double.less_asymm positive]
  rfl

/-- The distance zero is below every positive limit. -/
theorem acceptsExact_zero : acceptsExact ⟨limit, false⟩ 0 = true := Double.ratLess_zero positive

/-- From a limit on a distance is accepted exactly where it is not accepted below the limit. -/
theorem acceptsExact_above (distance : Rat) :
    acceptsExact ⟨limit, true⟩ distance = !acceptsExact ⟨limit, false⟩ distance := by
  simp [acceptsExact, Double.isNan_of_less positive]

end Threshold

/-! ## Files -/

variable {σ : Type}

theorem Picture.load_of_read {world : World σ} {path : Path} {content : ByteArray} {picture : Picture}
    (found : world.files.read path = .ok content) (decoded : ofBytes content = .ok picture) :
    load path world = .ok picture world := by
  rw [load, bind_of_ok (Action.readBytes_of_read found), decoded]
  rfl

/-- A comparison of two images that can be read has an answer. -/
theorem Comparison.acceptsFiles_of_read (comparison : Comparison) {world : World σ} {image reference : Path}
    {content content' : ByteArray} {picture picture' : Picture} (found : world.files.read image = .ok content)
    (decoded : Picture.ofBytes content = .ok picture) (found' : world.files.read reference = .ok content')
    (decoded' : Picture.ofBytes content' = .ok picture') :
    comparison.acceptsFiles image reference world = .ok (comparison.accepts picture picture') world := by
  rw [acceptsFiles, bind_of_ok (Picture.load_of_read found decoded), bind_of_ok (Picture.load_of_read found' decoded')]
  rfl

/-! ## The laws of comparison -/

/-- The laws of the distance of two pictures. -/
structure Picture.Distances (left right : Picture) : Prop where
  symmetric : left.distance right = right.distance left
  orderless : ∀ left' right' : Picture, left'.pixels.Perm left.pixels → right'.pixels.Perm right.pixels →
    left'.distance right' = left.distance right
  nonnegative : 0 ≤ left.distance right
  bounded : left.distance right ≤ 4 * (left.width * left.height + right.width * right.height)
  size : left.histogram.length = 1024 ∧ right.histogram.length = 1024
  zero_iff : left.distance right = 0 ↔ left.histogram = right.histogram
  divides : ((Picture.filledBins left right).mapM Picture.quotient?).map List.sum = some (left.distance right)

theorem Picture.IsWhole.distances {left right : Picture} (whole : left.IsWhole) (whole' : right.IsWhole) :
    left.Distances right where
  symmetric := distance_comm left right
  orderless _ _ same same' := distance_congr (histogram_eq_of_perm same) (histogram_eq_of_perm same')
  nonnegative := distance_nonneg left right
  bounded := by
    have most := distance_le left right
    rw [whole, whole'] at most
    exact_mod_cast most
  size := ⟨length_histogram left, length_histogram right⟩
  zero_iff := distance_eq_zero_iff left right
  divides := mapM_quotient? left right

namespace Comparison

/-- What has to be the same is below every positive threshold. -/
theorem below_of_same {left right : Picture} {limit : Double} (positive : (Double.ofInt 0).less limit = true)
    (same : (sameness true).accepts left right = true) : (distance ⟨limit, false⟩).accepts left right = true := by
  have equal : left = right := by simpa [accepts] using same
  have none : left.distance right = 0 := (Picture.distance_eq_zero_iff left right).mpr (congrArg Picture.histogram equal)
  rw [accepts, none]
  exact Threshold.acceptsExact_zero positive

theorem above_eq {limit : Double} (positive : (Double.ofInt 0).less limit = true) (left right : Picture) :
    (distance ⟨limit, true⟩).accepts left right = !(distance ⟨limit, false⟩).accepts left right :=
  Threshold.acceptsExact_above positive _

theorem different_eq (left right : Picture) :
    (sameness false).accepts left right = !(sameness true).accepts left right := by
  simp [accepts]

/-- Every picture that is read from a file is whole.  The distance of whole pictures has its laws, and their comparisons
agree at every positive limit: the same picture is below it and not from it on, and what is from it on differs.  Comparing
the files that two pictures are read from has an answer, which is that for the pictures. -/
theorem comparisons_agree :
    (∀ content picture, Picture.ofBytes content = .ok picture → picture.IsWhole) ∧
    ∀ left right : Picture, left.IsWhole → right.IsWhole → left.Distances right ∧
      (∀ limit : Double, (Double.ofInt 0).less limit = true →
        (∀ above, Threshold.ofLimit limit above = .ok ⟨limit, above⟩) ∧
        ((sameness true).accepts left right = true →
          (distance ⟨limit, false⟩).accepts left right = true ∧ (distance ⟨limit, true⟩).accepts left right = false) ∧
        ((distance ⟨limit, true⟩).accepts left right = true → (sameness false).accepts left right = true)) ∧
      ∀ (σ : Type) (world : World σ) (image reference : Path) (content content' : ByteArray) (comparison : Comparison),
        world.files.read image = .ok content → Picture.ofBytes content = .ok left →
        world.files.read reference = .ok content' → Picture.ofBytes content' = .ok right →
        comparison.acceptsFiles image reference world = .ok (comparison.accepts left right) world := by
  refine ⟨fun _ _ => Picture.isWhole_of_ofBytes, fun left right whole whole' => ⟨whole.distances whole', ?_, ?_⟩⟩
  · intro limit positive
    refine ⟨Threshold.ofLimit_of_positive positive, fun same => ?_, fun above => ?_⟩
    · have below := below_of_same positive same
      exact ⟨below, by rw [above_eq positive, below]; rfl⟩
    · rw [different_eq, Bool.not_eq_true']
      by_contra same
      rw [above_eq positive, below_of_same positive (by simpa using same)] at above
      cases above
  · intro σ world image reference content content' comparison found decoded found' decoded'
    exact acceptsFiles_of_read comparison found decoded found' decoded'

/-- One black pixel. -/
def dot : Picture := ⟨1, 1, [⟨0, 0, 0, 255⟩]⟩

/-- A black pixel above a white one. -/
def twoDots : Picture := ⟨1, 2, [⟨0, 0, 0, 255⟩, ⟨255, 255, 255, 255⟩]⟩

/-- A directory with both pictures, the one as a bit and the other one as grey bytes. -/
def dotFiles : World Unit where
  files := ⟨[(["dot.pbm"], .file "P1 1 1 1".toUTF8), (["two.pgm"], .file ("P5 1 2 255\n".toUTF8 ++ ⟨#[0, 255]⟩))]⟩
  log := []
  scratch := ⟨"", []⟩
  nextJob := 0
  outside := ()

/-- The pictures are ten thirds apart, which is from the limit three on, so they differ; each is below it beside itself. -/
theorem comparisons_agree_dots :
    dot.distance twoDots ≤ 12 ∧ ((Picture.filledBins dot twoDots).mapM Picture.quotient?).map List.sum = some (10 / 3) ∧
      (sameness false).acceptsFiles ⟨"", ["dot.pbm"]⟩ ⟨"", ["two.pgm"]⟩ dotFiles = .ok true dotFiles ∧
      (distance ⟨.ofInt 3, false⟩).acceptsFiles ⟨"", ["dot.pbm"]⟩ ⟨"", ["dot.pbm"]⟩ dotFiles = .ok true dotFiles := by
  obtain ⟨whole, laws⟩ := comparisons_agree
  have decoded : Picture.ofBytes "P1 1 1 1".toUTF8 = .ok dot := by decide +kernel
  have decoded' : Picture.ofBytes ("P5 1 2 255\n".toUTF8 ++ ⟨#[0, 255]⟩) = .ok twoDots := by decide +kernel
  have found : dotFiles.files.read ⟨"", ["dot.pbm"]⟩ = .ok "P1 1 1 1".toUTF8 := by rfl
  have found' : dotFiles.files.read ⟨"", ["two.pgm"]⟩ = .ok ("P5 1 2 255\n".toUTF8 ++ ⟨#[0, 255]⟩) := by rfl
  have positive : (Double.ofInt 0).less (.ofInt 3) = true := by decide +kernel
  obtain ⟨distances, agree, answers⟩ := laws dot twoDots (whole _ _ decoded) (whole _ _ decoded')
  obtain ⟨-, agree', answers'⟩ := laws dot dot (whole _ _ decoded) (whole _ _ decoded)
  have apart := (agree _ positive).2.2 (by decide +kernel)
  have below := ((agree' _ positive).2.1 (by decide +kernel)).1
  refine ⟨distances.bounded.trans (by decide +kernel), distances.divides.trans (by decide +kernel), ?_, ?_⟩
  · rw [answers _ _ _ _ _ _ _ found decoded found' decoded', apart]
  · rw [answers' _ _ _ _ _ _ _ found decoded found decoded, below]

end Comparison

end ShaderShrink
