import Mathlib.Algebra.BigOperators.Ring.Finset
import Mathlib.Algebra.Order.BigOperators.Group.List
import Mathlib.Data.Rat.Cast.Order
import Mathlib.Tactic.Linarith
import Mathlib.Tactic.Positivity
import ShaderShrink.Image.Distance

/-!
# Histograms and their distance

The histogram of a picture has a bin for each value of each channel.  The distance of two pictures is a sum over the
bins of their two histograms, and the bins that neither picture fills are left out, so that no quotient divides by zero.
From this form of it follow the laws of the distance: it is symmetric, does not see the order of pixels, is not negative,
vanishes for equal histograms alone, and is at most the number of samples in both pictures.
-/

namespace ShaderShrink.Picture

/-- The bins of a picture: for each channel and each value the number of pixels that have it there. -/
def histogram (picture : Picture) : List Nat :=
  Pixel.channels.flatMap fun channel => (List.range channelSize).map fun value => (picture.values channel).count value

/-- The bins of two pictures, side by side. -/
def bins (left right : Picture) : List (Nat × Nat) := left.histogram.zip right.histogram

/-- The bins that are not empty in both pictures. -/
def filledBins (left right : Picture) : List (Nat × Nat) := (bins left right).filter fun bin => 0 < bin.1 + bin.2

/-- The square of the difference of two counts, divided by their sum; nothing if that is a division by zero. -/
def quotient? (bin : Nat × Nat) : Option Rat :=
  let total : Rat := bin.1 + bin.2
  if total = 0 then none else some ((bin.1 - bin.2) ^ 2 / total)

/-! ## The bins -/

theorem length_histogram (picture : Picture) : picture.histogram.length = 1024 := by
  simp [histogram, Pixel.channels, channelSize]

private theorem sum_count_range {found : List Nat} {size : Nat} (small : ∀ value ∈ found, value < size) :
    ((List.range size).map fun value => found.count value).sum = found.length := by
  have total : ∑ value ∈ Finset.range size, (found : Multiset Nat).count value = found.length :=
    Multiset.sum_count_eq_card fun value member => Finset.mem_range.mpr (small value (Multiset.mem_coe.mp member))
  simpa only [Finset.sum_eq_multiset_sum, Finset.range_val, Multiset.range, Multiset.map_coe, Multiset.sum_coe,
    Multiset.coe_count] using total

/-- Each pixel fills one bin of each channel. -/
theorem sum_count_values (picture : Picture) (channel : Pixel → UInt8) :
    ((List.range channelSize).map fun value => (picture.values channel).count value).sum = picture.pixels.length := by
  rw [sum_count_range, values, List.length_map]
  intro value member
  obtain ⟨pixel, -, rfl⟩ := List.mem_map.mp member
  exact (channel pixel).toNat_lt

theorem sum_histogram (picture : Picture) : picture.histogram.sum = 4 * picture.pixels.length := by
  simp only [histogram, Pixel.channels, List.flatMap_cons, List.flatMap_nil, List.sum_append, sum_count_values, List.sum_nil]
  omega

/-- The order of the pixels has no part in the histogram. -/
theorem histogram_eq_of_perm {picture picture' : Picture} (same : picture.pixels.Perm picture'.pixels) :
    picture.histogram = picture'.histogram := by
  have values : ∀ channel : Pixel → UInt8, (picture.values channel).Perm (picture'.values channel) := fun _ => same.map _
  simp only [histogram, (values _).count_eq]

/-! ## The distance as a sum over the bins -/

theorem bins_eq (left right : Picture) :
    bins left right = Pixel.channels.flatMap fun channel => (List.range channelSize).map fun value =>
      ((left.values channel).count value, (right.values channel).count value) := by
  simp only [bins, histogram, Pixel.channels, List.flatMap_cons, List.flatMap_nil]
  repeat rw [List.zip_append (by simp)]
  simp only [List.zip_map']
  rfl

private theorem foldl_add {α : Type} (f : α → Rat) (items : List α) (start : Rat) :
    items.foldl (fun sum item => sum + f item) start = start + (items.map f).sum := by
  induction items generalizing start with
  | nil => exact (add_zero start).symm
  | cons item rest ih => rw [List.foldl_cons, ih, List.map_cons, List.sum_cons, add_assoc]

/-- The distance is the sum of what the bins add. -/
theorem distance_eq_sum (left right : Picture) :
    left.distance right = ((bins left right).map fun bin => countDistance bin.1 bin.2).sum := by
  have channel : ∀ values values' : List Nat, valuesDistance values values' =
      ((List.range channelSize).map fun value => countDistance (values.count value) (values'.count value)).sum := by
    intro values values'
    rw [valuesDistance, foldl_add, zero_add]
  rw [distance, foldl_add, zero_add, bins_eq, List.map_flatMap, List.flatMap, List.sum_flatten, List.map_map]
  refine congrArg List.sum (List.map_congr_left fun part _ => ?_)
  rw [Function.comp_apply, channel, List.map_map]
  rfl

/-! ## What a bin adds -/

theorem countDistance_eq (l r : Nat) : countDistance l r = ((l : Rat) - r) ^ 2 / (l + r) := by
  unfold countDistance
  split_ifs with empty
  · obtain ⟨rfl, rfl⟩ : l = 0 ∧ r = 0 := by omega
    simp
  · dsimp only
    rw [Rat.mkRat_eq_div]
    push_cast
    rw [sq]

theorem countDistance_comm (l r : Nat) : countDistance l r = countDistance r l := by
  rw [countDistance_eq, countDistance_eq, add_comm, ← neg_sub, neg_sq]

theorem countDistance_nonneg (l r : Nat) : 0 ≤ countDistance l r := by
  rw [countDistance_eq]
  positivity

theorem countDistance_le (l r : Nat) : countDistance l r ≤ l + r := by
  rw [countDistance_eq]
  have left : (0 : Rat) ≤ l := Nat.cast_nonneg l
  have right : (0 : Rat) ≤ r := Nat.cast_nonneg r
  refine div_le_of_le_mul₀ (by positivity) (by positivity) ?_
  nlinarith [mul_nonneg left right]

theorem countDistance_eq_zero_iff (l r : Nat) : countDistance l r = 0 ↔ l = r := by
  rw [countDistance_eq, div_eq_zero_iff, sq_eq_zero_iff, sub_eq_zero, Nat.cast_inj, ← Nat.cast_add, Nat.cast_eq_zero]
  omega

theorem quotient?_of_filled {l r : Nat} (filled : 0 < l + r) : quotient? (l, r) = some (countDistance l r) := by
  have total : (l : Rat) + r ≠ 0 := by
    rw [← Nat.cast_add, Nat.cast_ne_zero]
    omega
  rw [quotient?, countDistance_eq]
  exact if_neg total

/-! ## The laws of the distance -/

variable (left right : Picture)

theorem distance_comm : left.distance right = right.distance left := by
  rw [distance_eq_sum, distance_eq_sum, bins, bins, ← List.zip_swap, List.map_map]
  exact congrArg List.sum (List.map_congr_left fun bin _ => countDistance_comm bin.2 bin.1)

theorem distance_nonneg : 0 ≤ left.distance right := by
  rw [distance_eq_sum]
  refine List.sum_nonneg fun _ member => ?_
  obtain ⟨bin, -, rfl⟩ := List.mem_map.mp member
  exact countDistance_nonneg bin.1 bin.2

theorem length_histogram_eq : left.histogram.length = right.histogram.length := by
  rw [length_histogram, length_histogram]

theorem map_fst_bins : (bins left right).map Prod.fst = left.histogram :=
  List.map_fst_zip (length_histogram_eq left right).le

theorem map_snd_bins : (bins left right).map Prod.snd = right.histogram :=
  List.map_snd_zip (length_histogram_eq right left).le

/-- The distance is at most the number of samples in both pictures. -/
theorem distance_le : left.distance right ≤ 4 * (left.pixels.length + right.pixels.length) := by
  have sums : ∀ (picture : Picture) (part : Nat × Nat → Nat), (bins left right).map part = picture.histogram →
      ((bins left right).map fun bin => (part bin : Rat)).sum = 4 * picture.pixels.length := by
    intro picture part same
    have cast : ((picture.histogram.sum : Nat) : Rat) = 4 * picture.pixels.length := by
      rw [sum_histogram]
      push_cast
      rfl
    rw [← cast, ← same, Nat.cast_list_sum, List.map_map]
    rfl
  calc left.distance right
      ≤ ((bins left right).map fun bin => (bin.1 : Rat) + bin.2).sum := by
        rw [distance_eq_sum]
        exact List.sum_le_sum fun bin _ => countDistance_le bin.1 bin.2
    _ = 4 * (left.pixels.length + right.pixels.length) := by
        rw [List.sum_map_add, sums left _ (map_fst_bins left right), sums right _ (map_snd_bins left right), mul_add]

/-- The distance is zero for equal histograms, and for no others. -/
theorem distance_eq_zero_iff : left.distance right = 0 ↔ left.histogram = right.histogram := by
  have vanishes : left.distance right = 0 ↔ ∀ bin ∈ bins left right, bin.1 = bin.2 := by
    rw [distance_eq_sum]
    simp only [← countDistance_eq_zero_iff]
    constructor
    · intro none bin member
      refine List.all_zero_of_le_zero_le_of_sum_eq_zero ?_ none (List.mem_map_of_mem member)
      rintro _ member
      obtain ⟨bin, -, rfl⟩ := List.mem_map.mp member
      exact countDistance_nonneg bin.1 bin.2
    · intro each
      refine List.sum_eq_zero fun _ member => ?_
      obtain ⟨bin, inside, rfl⟩ := List.mem_map.mp member
      exact each bin inside
  rw [vanishes]
  constructor
  · intro agree
    rw [← map_fst_bins left right, ← map_snd_bins left right]
    exact List.map_congr_left agree
  · intro same bin member
    rw [bins, same] at member
    obtain ⟨i, here⟩ := List.mem_iff_getElem?.mp member
    obtain ⟨first, second⟩ := List.getElem?_zip_eq_some.mp here
    exact Option.some.inj (first.symm.trans second)

/-- Pictures with the same histograms have the same distance. -/
theorem distance_congr {left left' right right' : Picture} (same : left.histogram = left'.histogram)
    (same' : right.histogram = right'.histogram) : left.distance right = left'.distance right' := by
  rw [distance_eq_sum, distance_eq_sum, bins, bins, same, same']

/-- No quotient of the distance divides by zero. -/
theorem mapM_quotient? : ((filledBins left right).mapM quotient?).map List.sum = some (left.distance right) := by
  rw [distance_eq_sum, filledBins]
  induction bins left right with
  | nil => rfl
  | cons bin rest ih =>
    obtain ⟨quotients, found, total⟩ := Option.map_eq_some_iff.mp ih
    rw [List.map_cons, List.sum_cons, ← total]
    by_cases filled : 0 < bin.1 + bin.2
    · rw [List.filter_cons_of_pos (by simpa using filled), List.mapM_cons, found, quotient?_of_filled filled]
      rfl
    · have same : bin.1 = bin.2 := by omega
      rw [List.filter_cons_of_neg (by simpa using filled), found, (countDistance_eq_zero_iff _ _).mpr same, zero_add]
      rfl

end ShaderShrink.Picture
