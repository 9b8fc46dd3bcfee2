import Mathlib.Data.List.TakeWhile
import Mathlib.Data.Set.Function
import ShaderShrink.Judge.Fingerprint
import ShaderShrink.Proofs.Judge.Settling

/-!
# Which behaviours are the same

The document behind a fingerprint tells the status of a rendering, the digest of its image and its log without numbers
apart.  As long as no two of the contents in question share a digest, two renderings have the same fingerprint if and only
if they ended with the same status and either made the same image or, without images, logs that differ in numbers alone.
-/

namespace ShaderShrink

open Effect

variable {σ : Type}

/-! ## Logs without numbers -/

namespace Text

/-- Whether a text starts with an address: a zero, an x and a hexadecimal digit. -/
def StartsAddress (t : Text) : Prop := ∃ c rest, t = '0' :: 'x' :: c :: rest ∧ isHexDigit c = true

/-- What is left of a text when a mark stands in the place of every address and of every other run of digits. -/
inductive Masked : Text → Text → Prop
  | nil : Masked [] []
  | address {digits rest masked : Text} : digits ≠ [] → (∀ c ∈ digits, isHexDigit c = true) →
      (∀ c, rest.head? = some c → isHexDigit c = false) → Masked rest masked →
      Masked ('0' :: 'x' :: (digits ++ rest)) (numberMark :: masked)
  | digits {digits rest masked : Text} : digits ≠ [] → (∀ c ∈ digits, isDigit c = true) →
      (∀ c, rest.head? = some c → isDigit c = false) → ¬ StartsAddress (digits ++ rest) → Masked rest masked →
      Masked (digits ++ rest) (numberMark :: masked)
  | other {c : Char} {rest masked : Text} : isDigit c = false → Masked rest masked → Masked (c :: rest) (c :: masked)

private theorem takeWhile_run {p : Char → Bool} {run rest : Text} (inside : ∀ c ∈ run, p c = true)
    (behind : ∀ c, rest.head? = some c → p c = false) : (run ++ rest).takeWhile p = run := by
  rw [List.takeWhile_append_of_pos inside]
  cases rest with
  | nil => simp
  | cons c rest => rw [List.takeWhile_cons_of_neg (by simp [behind c rfl]), List.append_nil]

private theorem maskNumbersFrom_append (number rest : Text) :
    maskNumbersFrom number.length (number ++ rest) = maskNumbers rest := by
  induction number with
  | nil => rfl
  | cons c number ih => exact ih

/-- A number at the front becomes a mark. -/
private theorem maskNumbers_of_number {c : Char} {number rest : Text}
    (long : numberLength (c :: (number ++ rest)) = number.length + 1) :
    maskNumbers (c :: (number ++ rest)) = numberMark :: maskNumbers rest := by
  rw [maskNumbers, maskNumbersFrom, long]
  exact congrArg _ (maskNumbersFrom_append number rest)

private theorem numberLength_of_not_address {t : Text} (plain : ¬ StartsAddress t) :
    numberLength t = (t.takeWhile isDigit).length := by
  unfold numberLength
  split
  · rename_i rest
    cases rest with
    | nil => rfl
    | cons c rest =>
      have none : isHexDigit c ≠ true := fun hex => plain ⟨c, rest, rfl, hex⟩
      simp [List.takeWhile_cons_of_neg none]
  · rfl

private theorem maskNumbers_of_masked {t masked : Text} (isMasked : Masked t masked) : maskNumbers t = masked := by
  induction isMasked with
  | nil => rfl
  | @address digits rest masked filled inside behind _ ih =>
    have run := takeWhile_run inside behind
    have some : digits.length ≠ 0 := fun none => filled (List.length_eq_zero_iff.mp none)
    rw [← ih]
    refine @maskNumbers_of_number '0' ('x' :: digits) rest ?_
    rw [List.cons_append, numberLength, run, if_neg some, List.length_cons]
  | @digits digits rest masked filled inside behind plain _ ih =>
    have long := numberLength_of_not_address plain
    rw [takeWhile_run inside behind] at long
    obtain ⟨c, digits, rfl⟩ := List.exists_cons_of_ne_nil filled
    rw [← ih]
    exact maskNumbers_of_number long
  | @other c rest masked plain _ ih =>
    have start : ¬ StartsAddress (c :: rest) := by
      rintro ⟨_, _, same, -⟩
      obtain ⟨rfl, -⟩ := List.cons.inj same
      exact absurd plain (by decide)
    have none : numberLength (c :: rest) = 0 := by
      rw [numberLength_of_not_address start, List.takeWhile_cons_of_neg (by simp [plain]), List.length_nil]
    rw [← ih, maskNumbers, maskNumbersFrom, none]
    rfl

private theorem head?_dropWhile {p : Char → Bool} {t : Text} {c : Char} (found : (t.dropWhile p).head? = some c) :
    p c = false := by
  have stops := List.head?_dropWhile_not p t
  rw [found] at stops
  simpa using stops

private theorem exists_masked : ∀ (bound : Nat) (t : Text), t.length ≤ bound → ∃ masked, Masked t masked := by
  intro bound
  induction bound with
  | zero =>
    intro t short
    obtain rfl := List.length_eq_zero_iff.mp (Nat.le_zero.mp short)
    exact ⟨[], .nil⟩
  | succ bound ih =>
    intro t short
    by_cases start : StartsAddress t
    · obtain ⟨c, rest, rfl, hex⟩ := start
      obtain ⟨masked, isMasked⟩ := ih ((c :: rest).dropWhile isHexDigit) (by
        have := (List.dropWhile_sublist isHexDigit (l := c :: rest)).length_le
        simp only [List.length_cons] at short this
        omega)
      have filled : (c :: rest).takeWhile isHexDigit ≠ [] := by simp [List.takeWhile_cons_of_pos hex]
      have address := Masked.address filled (fun d member => List.mem_takeWhile_imp member) (fun d => head?_dropWhile) isMasked
      rw [List.takeWhile_append_dropWhile] at address
      exact ⟨_, address⟩
    · cases t with
      | nil => exact ⟨[], .nil⟩
      | cons c rest =>
        cases digit : isDigit c with
        | false =>
          obtain ⟨masked, isMasked⟩ := ih rest (Nat.le_of_succ_le_succ short)
          exact ⟨_, .other digit isMasked⟩
        | true =>
          obtain ⟨masked, isMasked⟩ := ih ((c :: rest).dropWhile isDigit) (by
            have := (List.dropWhile_sublist isDigit (l := rest)).length_le
            rw [List.dropWhile_cons_of_pos digit]
            simp only [List.length_cons] at short
            omega)
          have filled : (c :: rest).takeWhile isDigit ≠ [] := by simp [List.takeWhile_cons_of_pos digit]
          have whole : (c :: rest).takeWhile isDigit ++ (c :: rest).dropWhile isDigit = c :: rest :=
            List.takeWhile_append_dropWhile
          have run := Masked.digits filled (fun d member => List.mem_takeWhile_imp member) (fun d => head?_dropWhile)
            (by rwa [whole]) isMasked
          rw [whole] at run
          exact ⟨_, run⟩

/-- Masking puts a mark in the place of every address and of every other run of digits, and keeps the rest. -/
theorem masked_iff {t masked : Text} : Masked t masked ↔ masked = maskNumbers t := by
  constructor
  · exact fun isMasked => (maskNumbers_of_masked isMasked).symm
  · rintro rfl
    obtain ⟨masked, isMasked⟩ := exists_masked t.length t (Nat.le_refl _)
    rwa [maskNumbers_of_masked isMasked]

end Text

/-! ## Strings in documents -/

namespace Json

/-- The characters that are not written as they are. -/
private def escaped : List Char := '"' :: '\\' :: (List.range 32).map Char.ofNat

private theorem escapeChar_of_notMem {c : Char} (plain : c ∉ escaped) : escapeChar c = [c] := by
  have high : ¬ c.toNat < 32 := fun low => plain (List.mem_cons_of_mem _ (List.mem_cons_of_mem _
    (List.mem_map.mpr ⟨c.toNat, List.mem_range.mpr low, Char.ofNat_toNat c⟩)))
  unfold escapeChar
  split
  all_goals first | exact absurd (by decide) plain | skip
  rw [if_neg high]

private theorem startsEscape : (escaped.all fun c => (escapeChar c).head? == some '\\') = true := by decide +kernel

private theorem escapesDistinct : (escaped.all fun c => escaped.all fun other =>
    !(escapeChar c).isPrefixOf (escapeChar other) || c == other) = true := by decide +kernel

/-- The text of an escaped character starts with a backslash. -/
private theorem head?_escapeChar {c : Char} (member : c ∈ escaped) : (escapeChar c).head? = some '\\' :=
  beq_iff_eq.mp (List.all_eq_true.mp startsEscape c member)

/-- The text of an escaped character is the beginning of that of no other one. -/
private theorem eq_of_begins {c other : Char} (member : c ∈ escaped) (member' : other ∈ escaped)
    (begins : escapeChar c <+: escapeChar other) : c = other := by
  have distinct := List.all_eq_true.mp (List.all_eq_true.mp escapesDistinct c member) other member'
  rw [List.isPrefixOf_iff_prefix.mpr begins] at distinct
  simpa using distinct

/-- What is written for a character tells the character, whatever follows. -/
private theorem escapeChar_append_inj {c other : Char} {rest rest' : Text}
    (same : escapeChar c ++ rest = escapeChar other ++ rest') : c = other ∧ rest = rest' := by
  have apart : ∀ {a b : Char} {rest rest' : Text}, a ∈ escaped → b ∉ escaped → escapeChar a ++ rest ≠ [b] ++ rest' := by
    intro a b rest rest' member plain same
    obtain ⟨tail, starts⟩ := List.head?_eq_some_iff.mp (head?_escapeChar member)
    rw [starts] at same
    obtain ⟨isBackslash, -⟩ := List.cons.inj same
    exact plain (isBackslash ▸ List.mem_cons_of_mem _ List.mem_cons_self)
  by_cases member : c ∈ escaped
  · by_cases member' : other ∈ escaped
    · have first : escapeChar c <+: escapeChar other ++ rest' := ⟨rest, same⟩
      have second : escapeChar other <+: escapeChar other ++ rest' := List.prefix_append _ _
      obtain rfl : c = other := by
        rcases List.prefix_or_prefix_of_prefix first second with shorter | shorter
        · exact eq_of_begins member member' shorter
        · exact (eq_of_begins member' member shorter).symm
      exact ⟨rfl, List.append_cancel_left same⟩
    · rw [escapeChar_of_notMem member'] at same
      exact absurd same (apart member member')
  · rw [escapeChar_of_notMem member] at same
    by_cases member' : other ∈ escaped
    · exact absurd same.symm (apart member' member)
    · rw [escapeChar_of_notMem member'] at same
      exact List.cons.inj same

/-- No character is written with a quote in front. -/
private theorem escapeChar_ne_quote (c : Char) (rest rest' : Text) : escapeChar c ++ rest ≠ '"' :: rest' := by
  intro same
  by_cases member : c ∈ escaped
  · obtain ⟨tail, starts⟩ := List.head?_eq_some_iff.mp (head?_escapeChar member)
    rw [starts] at same
    exact absurd (List.cons.inj same).1 (by decide)
  · rw [escapeChar_of_notMem member] at same
    exact member ((List.cons.inj same).1 ▸ List.mem_cons_self)

/-- A string in quotes tells the string, whatever follows. -/
theorem quoted_append_inj {s t : String} {rest rest' : Text} (same : quoted s ++ rest = quoted t ++ rest') :
    s = t ∧ rest = rest' := by
  have chars : ∀ {a b : Text}, a.flatMap escapeChar ++ '"' :: rest = b.flatMap escapeChar ++ '"' :: rest' →
      a = b ∧ rest = rest' := by
    intro a
    induction a with
    | nil =>
      intro b same
      cases b with
      | nil => exact ⟨rfl, (List.cons.inj same).2⟩
      | cons c b =>
        rw [List.flatMap_cons, List.append_assoc] at same
        exact absurd same.symm (escapeChar_ne_quote c _ _)
    | cons c a ih =>
      intro b same
      cases b with
      | nil =>
        rw [List.flatMap_cons, List.append_assoc] at same
        exact absurd same (escapeChar_ne_quote c _ _)
      | cons d b =>
        rw [List.flatMap_cons, List.flatMap_cons, List.append_assoc, List.append_assoc] at same
        obtain ⟨rfl, further⟩ := escapeChar_append_inj same
        obtain ⟨rfl, isRest⟩ := ih further
        exact ⟨rfl, isRest⟩
  simp only [quoted, List.cons_append, List.append_assoc, List.nil_append, List.cons.injEq, true_and] at same
  obtain ⟨same, isRest⟩ := chars same
  exact ⟨String.toList_inj.mp same, isRest⟩

end Json

/-! ## The document of a behaviour -/

namespace RenderOutcome

private theorem sortFields_behaviour (status image log : Text) :
    Json.sortFields [("status", status), ("image", image), ("log", log)] =
      [("image", image), ("log", log), ("status", status)] := by
  have first : Text.precedes "image".toList "status".toList = true := by decide
  have second : Text.precedes "log".toList "image".toList = false := by decide
  have third : Text.precedes "log".toList "status".toList = true := by decide
  simp [Json.sortFields, List.mergeSort, List.MergeSort.Internal.splitInTwo, first, second, third, -String.reduceToList]

/-- What a document tells about the image. -/
def imageText (image : Option String) : Text := image.elim "null".toList Json.quoted

/-- What a document tells about the log. -/
def shownLog (outcome : RenderOutcome) (image : Option String) : String :=
  image.elim (String.ofList (Text.maskNumbers outcome.log)) fun _ => ""

/-- The document of a behaviour has its parts in a fixed order. -/
theorem write_behaviour (outcome : RenderOutcome) (image : Option String) :
    (outcome.behaviour image).write .compact 0 =
      '\x7b' :: (Json.quoted "image" ++ (':' :: (imageText image ++ (',' :: (Json.quoted "log" ++ (':' ::
        (Json.quoted (outcome.shownLog image) ++ (',' :: (Json.quoted "status" ++ (':' ::
          (Json.quoted outcome.status.name ++ ['\x7d'])))))))))))  := by
  cases image <;>
    simp only [behaviour, Json.write, Json.writeFields, sortFields_behaviour, List.map_cons, List.map_nil, Json.enclose,
      Json.joinWith, Json.Style.compact, imageText, shownLog, Option.elim, List.append_assoc, List.cons_append, List.nil_append,
      List.append_nil]

/-- A document tells the status, the digest of the image and the log. -/
private theorem write_behaviour_inj {outcome outcome' : RenderOutcome} {image image' : Option String}
    (same : (outcome.behaviour image).write .compact 0 = (outcome'.behaviour image').write .compact 0) :
    outcome.status = outcome'.status ∧ image = image' ∧ outcome.shownLog image = outcome'.shownLog image' := by
  rw [write_behaviour, write_behaviour] at same
  have same := List.cons.inj (List.append_cancel_left (List.cons.inj same).2)
  have images : ∀ {a b : Option String} {rest rest' : Text}, imageText a ++ ',' :: rest = imageText b ++ ',' :: rest' →
      a = b ∧ rest = rest' := by
    intro a b rest rest' same
    cases a with
    | none =>
      cases b with
      | none => exact ⟨rfl, (List.cons.inj (List.append_cancel_left same)).2⟩
      | some digest => exact absurd (List.cons.inj same).1 (by decide)
    | some digest =>
      cases b with
      | none => exact absurd (List.cons.inj same).1 (by decide)
      | some other =>
        have same : Json.quoted digest ++ ',' :: rest = Json.quoted other ++ ',' :: rest' := same
        obtain ⟨rfl, further⟩ := Json.quoted_append_inj same
        exact ⟨rfl, (List.cons.inj further).2⟩
  obtain ⟨rfl, same⟩ := images same.2
  have same := List.cons.inj (List.append_cancel_left same)
  obtain ⟨sameLog, same⟩ := Json.quoted_append_inj same.2
  have same := List.cons.inj (List.append_cancel_left (List.cons.inj same).2)
  obtain ⟨sameName, -⟩ := Json.quoted_append_inj same.2
  refine ⟨Option.some.inj ?_, rfl, sameLog⟩
  rw [← RenderStatus.ofName?_name, sameName, RenderStatus.ofName?_name]

/-- The bytes of the image that a rendering produced. -/
def imageBytes? (outcome : RenderOutcome) (tree : FileTree) : Option ByteArray :=
  (outcome.producedImage? tree).bind fun image => (tree.read image).toOption

/-- The bytes of the document behind a fingerprint. -/
def documentBytes (outcome : RenderOutcome) (tree : FileTree) : ByteArray :=
  Text.utf8 ((outcome.behaviour ((outcome.imageBytes? tree).map Blake3.digest)).write .compact 0)

/-- The fingerprint of a rendering is the digest of its document. -/
theorem fingerprint_apply (outcome : RenderOutcome) (world : World σ) :
    outcome.fingerprint world = .ok (Blake3.digest (outcome.documentBytes world.files)) world := by
  have digest : outcome.imageDigest world = .ok ((outcome.imageBytes? world.files).map Blake3.digest) world := by
    unfold imageDigest imageBytes?
    rw [bind_of_ok (Action.files_apply world)]
    cases produced : outcome.producedImage? world.files with
    | none => rfl
    | some image =>
      obtain ⟨bytes, found⟩ := exists_read produced
      simp only [Option.bind_some, found]
      exact bind_of_ok (Action.readBytes_of_read found) _
  exact bind_of_ok digest _

/-- What is digested for the fingerprint of a rendering: its image, if it made one, and its document. -/
def Digested (outcome : RenderOutcome) (tree : FileTree) : Set ByteArray :=
  {content | outcome.imageBytes? tree = some content ∨ content = outcome.documentBytes tree}

/-- Whether two renderings show the same behaviour: they ended with the same status, and either both made an image of the
same bytes, or neither made one and the logs are the same once all numbers are masked. -/
structure Alike (outcome outcome' : RenderOutcome) (tree tree' : FileTree) : Prop where
  status : outcome.status = outcome'.status
  shows : (∃ bytes, outcome.imageBytes? tree = some bytes ∧ outcome'.imageBytes? tree' = some bytes) ∨
    (outcome.imageBytes? tree = none ∧ outcome'.imageBytes? tree' = none ∧
      ∃ masked, Text.Masked outcome.log masked ∧ Text.Masked outcome'.log masked)

/-- Renderings of which no two contents share a digest have the same fingerprint if and only if they show the same
behaviour. -/
theorem digest_documentBytes_eq_iff {outcome outcome' : RenderOutcome} {tree tree' : FileTree}
    (distinct : Set.InjOn Blake3.digest (outcome.Digested tree ∪ outcome'.Digested tree')) :
    Blake3.digest (outcome.documentBytes tree) = Blake3.digest (outcome'.documentBytes tree') ↔
      outcome.Alike outcome' tree tree' := by
  have logs : ∀ {t t' : Text}, (∃ masked, Text.Masked t masked ∧ Text.Masked t' masked) ↔
      String.ofList (Text.maskNumbers t) = String.ofList (Text.maskNumbers t') := by
    intro t t'
    simp only [Text.masked_iff, String.ofList_inj]
    exact ⟨fun ⟨_, one, two⟩ => one.symm.trans two, fun same => ⟨_, rfl, same⟩⟩
  constructor
  · intro same
    have written := distinct (.inl (.inr rfl)) (.inr (.inr rfl)) same
    have texts := congrArg Text.ofUtf8? written
    rw [documentBytes, documentBytes, Text.ofUtf8?_utf8, Text.ofUtf8?_utf8, Option.some_inj] at texts
    obtain ⟨sameStatus, images, shown⟩ := write_behaviour_inj texts
    refine ⟨sameStatus, ?_⟩
    cases one : outcome.imageBytes? tree with
    | none =>
      rw [one] at images shown
      cases two : outcome'.imageBytes? tree' with
      | none =>
        rw [two] at shown
        exact .inr ⟨rfl, rfl, logs.mpr shown⟩
      | some bytes =>
        rw [two] at images
        cases images
    | some bytes =>
      rw [one] at images
      cases two : outcome'.imageBytes? tree' with
      | none =>
        rw [two] at images
        cases images
      | some bytes' =>
        rw [two] at images
        obtain rfl := distinct (.inl (.inl one)) (.inr (.inl two)) (Option.some.inj images)
        exact .inl ⟨bytes, rfl, rfl⟩
  · rintro ⟨sameStatus, ⟨bytes, one, two⟩ | ⟨one, two, masked⟩⟩
    · simp only [documentBytes, behaviour, one, two, sameStatus, Option.map_some]
    · simp only [documentBytes, behaviour, one, two, sameStatus, Option.map_none, logs.mp masked]

end RenderOutcome

end ShaderShrink
