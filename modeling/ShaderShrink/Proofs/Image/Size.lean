import Mathlib.Data.List.Basic
import Mathlib.Tactic.SplitIfs
import ShaderShrink.Image.Comparison

/-!
# The size of decoded pictures

Whatever kind of file a picture is read from, and whatever its samples are, it has as many pixels as its width and its
height tell: a file with too few samples is not read, and what follows the last sample of a row is left out.
-/

namespace ShaderShrink

/-- Whether a picture has as many pixels as its size tells. -/
def Picture.IsWhole (picture : Picture) : Prop := picture.pixels.length = picture.width * picture.height

/-- Whether a file, if it is a picture, is a whole one. -/
def Picture.Reading.GivesWhole (reading : Picture.Reading) : Prop :=
  ∀ picture, reading = .picture picture → picture.IsWhole

theorem Picture.Reading.givesWhole_sized (width height : Nat) {rest : Unit → Picture.Reading}
    (whole : (rest ()).GivesWhole) : (sized width height rest).GivesWhole := by
  unfold sized
  split_ifs
  · exact fun _ => nofun
  · exact fun _ => nofun
  · exact whole

/-! ## Bytes -/

private theorem toList_loop (bytes : ByteArray) (i : Nat) (before : List UInt8) :
    ByteArray.toList.loop bytes i before = before.reverse ++ bytes.data.toList.drop i := by
  fun_induction ByteArray.toList.loop bytes i before with
  | case1 i before inside ih =>
    have here : bytes.get! i = bytes.data.toList[i] := getElem!_pos bytes.data i inside
    rw [ih, List.reverse_cons, List.append_assoc, List.drop_eq_getElem_cons inside, here]
    rfl
  | case2 i before behind =>
    have behind : bytes.data.toList.length ≤ i := Nat.le_of_not_lt behind
    rw [List.drop_eq_nil_of_le behind, List.append_nil]

/-- The list of some bytes is that of the array they are held in. -/
theorem toList_bytes (bytes : ByteArray) : bytes.toList = bytes.data.toList := toList_loop bytes 0 []

theorem length_toList_bytes (bytes : ByteArray) : bytes.toList.length = bytes.size := by
  rw [toList_bytes]
  rfl

/-! ## Portable network graphics -/

namespace Png

private theorem size_foldlM {step : ByteArray → UInt8 → Option ByteArray} {row : List UInt8} {done restored : ByteArray}
    (one : ∀ done byte new, step done byte = some new → new.size = done.size + 1)
    (found : row.foldlM step done = some restored) : restored.size = done.size + row.length := by
  induction row generalizing done with
  | nil =>
    cases found
    rfl
  | cons byte rest ih =>
    rw [List.foldlM_cons] at found
    obtain ⟨next, first, found⟩ := Option.bind_eq_some_iff.mp found
    rw [ih found, one done byte next first, List.length_cons]
    omega

/-- A row has as many bytes when they are restored as it had before. -/
theorem size_restoreRow? {stride filter : Nat} {previous restored : ByteArray} {row : List UInt8}
    (found : restoreRow? stride filter previous row = some restored) : restored.size = row.length := by
  refine (size_foldlM (fun done byte new step => ?_) found).trans (Nat.zero_add _)
  obtain ⟨amount, -, same⟩ := Option.bind_eq_some_iff.mp step
  cases same
  exact ByteArray.size_push

/-- There are as many rows as are asked for, all of the length that the header tells. -/
theorem length_rows? {header : Header} {bytes : ByteArray} {count position : Nat} {previous : ByteArray}
    {found : List ByteArray} (read : rows? header bytes count position previous = some found) :
    found.length = count ∧ ∀ row ∈ found, row.size = header.rowBytes := by
  induction count generalizing position previous found with
  | zero =>
    cases read
    exact ⟨rfl, fun _ member => (List.not_mem_nil member).elim⟩
  | succ count ih =>
    rw [rows?] at read
    dsimp only at read
    split_ifs at read with short
    obtain ⟨restored, first, read⟩ := Option.bind_eq_some_iff.mp read
    obtain ⟨rest, others, same⟩ := Option.bind_eq_some_iff.mp read
    cases same
    obtain ⟨counted, sized⟩ := ih others
    have size : restored.size = header.rowBytes := by
      rw [size_restoreRow? first, length_toList_bytes, ByteArray.size_extract]
      omega
    refine ⟨by rw [List.length_cons, counted], fun row member => ?_⟩
    rcases List.mem_cons.mp member with rfl | later
    · exact size
    · exact sized row later

/-- A byte holds as many samples as fit into eight bits, and a sample of sixteen bits takes two bytes. -/
theorem length_samples (depth : Nat) (row : List UInt8) :
    (samples depth row).length = if depth = 16 then row.length / 2 else row.length * (8 / depth) := by
  fun_induction samples depth row with
  | case1 high low rest ih =>
    rw [List.length_cons, ih]
    simp only [↓reduceIte, List.length_cons]
    omega
  | case2 row short =>
    match row, short with
    | [], _ => rfl
    | [_], _ => simp
    | high :: low :: rest, short => exact (short high low rest rfl).elim
  | case3 depth other => simp
  | case4 depth byte rest _ other ih =>
    rw [if_neg other] at ih ⊢
    rw [List.length_append, ih, List.length_map, List.length_range, List.length_cons, Nat.succ_mul]
    omega

/-- The bytes of a row hold the samples of all its pixels. -/
theorem le_length_samples {header : Header} (depth : header.depth ∈ header.kind.depths) {row : List UInt8}
    (size : row.length = header.rowBytes) : header.width * header.kind.size ≤ (samples header.depth row).length := by
  have depths : header.depth = 1 ∨ header.depth = 2 ∨ header.depth = 4 ∨ header.depth = 8 ∨ header.depth = 16 := by
    cases kind : header.kind <;> simp only [kind, SampleKind.depths, List.mem_cons, List.not_mem_nil, or_false] at depth <;>
      omega
  rw [length_samples, size, Header.rowBytes, Header.pixelBits, ← Nat.mul_assoc]
  generalize header.width * header.kind.size = count
  rcases depths with same | same | same | same | same <;> rw [same] <;> simp only [Nat.reduceEqDiff, ↓reduceIte] <;> omega

/-- A pixel takes as many samples as its kind has. -/
theorem le_length_pixels {header : Header} {palette : Palette} {found : List Nat} {count : Nat}
    (enough : count * header.kind.size ≤ found.length) : count ≤ (pixels header palette found).length := by
  fun_induction pixels header palette found generalizing count with
  | case1 =>
    have positive : 0 < header.kind.size := by cases header.kind <;> decide
    exact Nat.le_of_mul_le_mul_right (by simpa using enough) positive
  | case2 a rest kind ih | case3 a rest kind ih | case4 a b rest kind ih | case5 a b c rest kind ih
    | case6 a b c d rest kind ih =>
    simp only [kind, SampleKind.size, List.length_cons] at ih enough ⊢
    have others := @ih (count - 1) (by omega)
    omega
  | case7 a rest gray index grayAlpha rgb rgba =>
    -- Too few samples are left for a pixel.
    cases kind : header.kind with
    | gray => exact (gray kind).elim
    | index => exact (index kind).elim
    | grayAlpha =>
      match rest, grayAlpha with
      | [], _ => simp only [kind, SampleKind.size, List.length_cons, List.length_nil] at enough ⊢; omega
      | b :: rest, grayAlpha => exact (grayAlpha b rest kind rfl).elim
    | rgb =>
      match rest, rgb with
      | [], _ | [_], _ => simp only [kind, SampleKind.size, List.length_cons, List.length_nil] at enough ⊢; omega
      | b :: c :: rest, rgb => exact (rgb b c rest kind rfl).elim
    | rgba =>
      match rest, rgba with
      | [], _ | [_], _ | [_, _], _ => simp only [kind, SampleKind.size, List.length_cons, List.length_nil] at enough ⊢; omega
      | b :: c :: d :: rest, rgba => exact (rgba b c d rest kind rfl).elim

/-- A picture that is made of chunks is whole. -/
theorem isWhole_of_ofChunks? {header : Header} {chunks : List Chunk} {picture : Picture}
    (depth : header.depth ∈ header.kind.depths) (made : ofChunks? header chunks = some picture) : picture.IsWhole := by
  obtain ⟨bytes, -, made⟩ := Option.bind_eq_some_iff.mp made
  obtain ⟨rows, read, made⟩ := Option.bind_eq_some_iff.mp made
  cases made
  obtain ⟨counted, sized⟩ := length_rows? read
  have full : ∀ row ∈ rows, ((pixels header ⟨contentOf "PLTE" chunks, contentOf "tRNS" chunks⟩
      (samples header.depth row.toList)).take header.width).length = header.width := by
    intro row member
    rw [List.length_take]
    exact Nat.min_eq_left (le_length_pixels (le_length_samples depth (by rw [length_toList_bytes, sized row member])))
  rw [Picture.IsWhole, List.length_flatMap, List.map_congr_left full, List.map_const', List.sum_replicate_nat, counted,
    Nat.mul_comm]

theorem Header.depth_mem_of_ofContent? {content : ByteArray} {header : Header} (read : Header.ofContent? content = some header) :
    header.depth ∈ header.kind.depths := by
  obtain ⟨width, -, read⟩ := Option.bind_eq_some_iff.mp read
  obtain ⟨height, -, read⟩ := Option.bind_eq_some_iff.mp read
  obtain ⟨kind, -, read⟩ := Option.bind_eq_some_iff.mp read
  dsimp only at read
  split_ifs at read with fits
  cases read
  simp only [Bool.and_eq_true, List.contains_iff_mem] at fits
  exact fits.1.2

theorem givesWhole_read (bytes : ByteArray) : (read bytes).GivesWhole := by
  unfold read
  split
  · exact fun _ => nofun
  · split
    · exact fun _ => nofun
    · exact fun _ => nofun
    · dsimp only
      split
      · exact fun _ => nofun
      · rename_i header found
        refine Picture.Reading.givesWhole_sized _ _ ?_
        split
        · rename_i picture made
          rintro _ ⟨⟩
          exact isWhole_of_ofChunks? (Header.depth_mem_of_ofContent? found) made
        · exact fun _ => nofun

end Png

/-! ## Pixmaps -/

/-- Whether what a computation gives, if it gives anything, has a property. -/
private def Gives {ε α : Type} (holds : α → Prop) (result : Except ε α) : Prop := ∀ value, result = .ok value → holds value

namespace Gives

variable {ε α β : Type}

private theorem ok {holds : α → Prop} {value : α} (here : holds value) : Gives holds (.ok value : Except ε α) := by
  rintro _ ⟨⟩
  exact here

private theorem error (holds : α → Prop) (fault : ε) : Gives holds (.error fault : Except ε α) := nofun

private theorem bind {holds : α → Prop} {holds' : β → Prop} {first : Except ε α} {next : α → Except ε β}
    (begins : Gives holds first) (rest : ∀ value, holds value → Gives holds' (next value)) :
    Gives holds' (first >>= next) := by
  cases first with
  | ok value => exact rest value (begins value rfl)
  | error fault => exact error _ fault

private theorem mapM (f : α → Except ε β) (items : List α) :
    Gives (fun found => found.length = items.length) (items.mapM f) := by
  induction items with
  | nil => exact ok rfl
  | cons item rest ih =>
    rw [List.mapM_cons]
    have anything : Gives (fun _ => True) (f item) := fun _ _ => trivial
    exact anything.bind fun first _ => ih.bind fun others same => ok (congrArg (· + 1) same)

end Gives

namespace Pixmap

/-- A coloured pixel is made of three samples, and any other one of a single sample. -/
theorem length_pixels {kind : Kind} {found : List UInt8} {count : Nat}
    (enough : found.length = if kind = .colours then count * 3 else count) : (pixels kind found).length = count := by
  fun_induction pixels kind found generalizing count with
  | case1 =>
    rw [List.length_nil] at enough ⊢
    split_ifs at enough <;> omega
  | case2 sample green blue rest colours ih =>
    simp only [colours, ↓reduceIte, List.length_cons] at ih enough ⊢
    rw [@ih (count - 1) (by omega)]
    omega
  | case3 sample rest colours short =>
    rw [if_pos colours] at enough
    match rest, short with
    | [], _ | [_], _ => simp only [List.length_cons, List.length_nil] at enough; omega
    | green :: blue :: rest, short => exact (short green blue rest rfl).elim
  | case4 sample rest _ other ih =>
    simp only [if_neg other, List.length_cons] at ih enough ⊢
    rw [@ih (count - 1) (by omega)]
    omega

/-- Rows of bits have as many samples as there are pixels. -/
theorem length_bitRows? {width height : Nat} {bytes found : List UInt8} (read : bitRows? width height bytes = some found) :
    found.length = width * height := by
  induction height generalizing bytes found with
  | zero =>
    cases read
    rfl
  | succ height ih =>
    rw [bitRows?] at read
    split_ifs at read with short
    obtain ⟨rest, others, rfl⟩ := Option.map_eq_some_iff.mp read
    have bits : ((bytes.take ((width + 7) / 8)).flatMap bitSamples).length = (width + 7) / 8 * 8 := by
      have each : ∀ byte ∈ bytes.take ((width + 7) / 8), (bitSamples byte).length = 8 := fun _ _ => rfl
      rw [List.length_flatMap, List.map_congr_left each, List.map_const', List.sum_replicate_nat, List.length_take,
        Nat.min_eq_left (by omega)]
    rw [List.length_append, List.length_take, bits, ih others, Nat.min_eq_left (by omega), Nat.mul_succ, Nat.add_comm]

private theorem digitSamples_gives (area : Nat) (bytes : List UInt8) :
    Gives (fun found => found.length ≤ area) (digitSamples area bytes) := by
  unfold digitSamples
  dsimp only
  split
  · exact .error _ _
  · refine .ok ?_
    rw [List.length_map]
    exact List.length_take_le _ _

/-- There are as many samples as the pixels need. -/
private theorem samplesOf_gives (header : Header) (bytes : List UInt8) :
    Gives (fun found => found.length = header.area * header.bands) (samplesOf header bytes) := by
  have enough : ∀ found : List UInt8, found.length ≤ header.area * header.bands →
      Gives (fun found => found.length = header.area * header.bands)
        (if found.length < header.area * header.bands then throw (.value "not enough image data") else return found :
          Except Fault (List UInt8)) := by
    intro found most
    split_ifs with short
    · exact .error _ _
    · exact .ok (by omega)
  unfold samplesOf
  dsimp only
  split_ifs with plain bits
  · split
    · exact (digitSamples_gives _ bytes).bind enough
    · refine (Gives.mapM (numeralSample header) _).bind fun found same => enough found ?_
      rw [same]
      exact List.length_take_le _ _
  · split
    · rename_i found rows
      refine .ok ((length_bitRows? rows).trans ?_)
      rw [Header.area, Header.bands, bits, Nat.mul_one]
    · exact .error _ _
  · rename_i whole
    refine .ok ?_
    rw [List.length_map]
    exact Nat.le_antisymm (List.length_take_le _ _) whole
  · exact .error _ _
  · exact .error _ _

private theorem header_kind {kind : Kind} {plain : Bool} {bytes : List UInt8} :
    Gives (fun read => read.1.kind = kind) (header kind plain bytes) := by
  unfold header
  have anything : ∀ {α : Type} (result : Except Fault α), Gives (fun _ => True) result := fun _ _ _ => trivial
  refine (anything _).bind fun (width, rest) _ => (anything _).bind fun (height, rest) _ => ?_
  dsimp only
  split
  · exact .ok rfl
  · exact (anything _).bind fun _ _ => .ok rfl
  · refine (anything _).bind fun (greatest, rest) _ => ?_
    dsimp only
    split_ifs
    · exact .ok rfl
    · exact .error _ _

theorem givesWhole_read (bytes : ByteArray) : (read bytes).GivesWhole := by
  unfold read
  split
  · exact fun _ => nofun
  · rename_i kind plain rest _
    split
    · exact fun _ => nofun
    · rename_i header rest found
      have same := header_kind _ found
      refine Picture.Reading.givesWhole_sized _ _ ?_
      split
      · exact fun _ => nofun
      · rename_i samples read
        have counted := samplesOf_gives header rest samples read
        split
        · exact fun _ => nofun
        · exact fun _ => nofun
        · rename_i fractions others
          rintro _ ⟨⟩
          refine length_pixels ?_
          rw [counted, Header.bands, same, Header.area]
          cases kind with
          | bits | gray | colours => simp
          | fractions => exact (fractions rfl).elim
          | others count => exact (others count rfl).elim

end Pixmap

/-- A picture that is read from a file is whole. -/
theorem Picture.isWhole_of_ofBytes {content : ByteArray} {picture : Picture} (decoded : ofBytes content = .ok picture) :
    picture.IsWhole := by
  unfold ofBytes at decoded
  dsimp only at decoded
  split at decoded
  · rename_i found reading
    cases decoded
    split at reading
    · exact Png.givesWhole_read content _ reading
    · exact Pixmap.givesWhole_read content _ reading
  · cases decoded
  · cases decoded

end ShaderShrink
