import ShaderShrink.Text.Word
import Mathlib.Data.List.TakeWhile
import Mathlib.Tactic.SplitIfs

/-!
# Words and their replacement

A text is empty, or begins with a character that belongs to no word, or begins with a word.  What is proved
along these three cases is what happens to every word of a text: replacing a name goes through the words and
leaves everything between them as it is.
-/

namespace ShaderShrink.Text

/-! ## Word characters -/

/-- White space belongs to no word. -/
theorem isWord_of_isBlank {c : Char} (blank : isBlank c = true) : isWord c = false := by
  have outside : ∀ n ∈ [0x85, 0xa0, 0x1680, 0x2000, 0x2001, 0x2002, 0x2003, 0x2004, 0x2005, 0x2006, 0x2007, 0x2008,
      0x2009, 0x200a, 0x2028, 0x2029, 0x202f, 0x205f, 0x3000], inRanges letterRanges n = false := by decide +kernel
  simp only [isBlank, Bool.or_eq_true, Bool.and_eq_true, decide_eq_true_eq, beq_iff_eq] at blank
  unfold isWord
  split_ifs with ascii
  · have underscore : c ≠ '_' := by
      rintro rfl
      exact absurd blank (by decide)
    simp only [isAsciiLetter, isAsciiDigit, Bool.or_eq_false_iff, Bool.and_eq_false_iff, decide_eq_false_iff_not,
      beq_eq_false_iff_ne, ne_eq, underscore, not_false_eq_true, and_true]
    omega
  · refine outside c.toNat ?_
    simp only [List.mem_cons, List.not_mem_nil, or_false]
    omega

theorem isBlank_of_isWord {c : Char} (word : isWord c = true) : isBlank c = false := by
  cases blank : isBlank c with
  | false => rfl
  | true => rw [isWord_of_isBlank blank] at word; cases word

theorem isWord_of_startsIdentifier {c : Char} (starts : startsIdentifier c = true) : isWord c = true := by
  have ascii : c.toNat < 128 := by
    simp only [startsIdentifier, isAsciiLetter, Bool.or_eq_true, Bool.and_eq_true, decide_eq_true_eq,
      beq_iff_eq] at starts
    rcases starts with (letter | letter) | rfl
    · omega
    · omega
    · decide
  simp only [isWord, ascii, ↓reduceIte, Bool.or_eq_true]
  simp only [startsIdentifier, Bool.or_eq_true, beq_iff_eq] at starts
  rcases starts with letter | rfl
  · exact .inl (.inl letter)
  · exact .inr (by decide)

/-! ## The words of a text -/

/-- A word is not empty and consists of word characters. -/
structure IsWord (w : Text) : Prop where
  ne_nil : w ≠ []
  all : ∀ c ∈ w, isWord c = true

instance (w : Text) : Decidable (IsWord w) :=
  decidable_of_iff (w ≠ [] ∧ w.all isWord = true)
    ⟨fun ⟨filled, all⟩ => ⟨filled, List.all_eq_true.mp all⟩, fun ⟨filled, all⟩ => ⟨filled, List.all_eq_true.mpr all⟩⟩

theorem isWord_of_isIdentifier {w : Text} (identifier : isIdentifier w = true) : IsWord w := by
  cases w with
  | nil => cases identifier
  | cons c rest =>
    simp only [isIdentifier, Bool.and_eq_true, List.all_eq_true] at identifier
    refine ⟨List.cons_ne_nil _ _, fun d member => ?_⟩
    rcases List.mem_cons.mp member with rfl | later
    · exact isWord_of_startsIdentifier identifier.1
    · exact identifier.2 d later

/-- Whether a text does not go on with a word character. -/
abbrev Gap (t : Text) : Prop := t.head?.any isWord = false

theorem IsWord.not_gap {w : Text} (isWord : IsWord w) (t : Text) : ¬ Gap (w ++ t) := by
  cases w with
  | nil => exact absurd rfl isWord.ne_nil
  | cons c rest => simp [Gap, isWord.all c List.mem_cons_self]

theorem takeWhile_word {w t : Text} (wordy : IsWord w) (gap : Gap t) : (w ++ t).takeWhile isWord = w := by
  rw [List.takeWhile_append_of_pos wordy.all]
  cases t with
  | nil => simp
  | cons c rest =>
    have stop : isWord c = false := by simpa [Gap] using gap
    simp [stop]

theorem dropWhile_word {w t : Text} (wordy : IsWord w) (gap : Gap t) : (w ++ t).dropWhile isWord = t := by
  rw [List.dropWhile_append_of_pos wordy.all]
  cases t with
  | nil => rfl
  | cons c rest =>
    have stop : isWord c = false := by simpa [Gap] using gap
    simp [stop]

/-- A text is empty, or begins with a character of no word, or begins with a word. -/
theorem word_induction {motive : Text → Prop} (nil : motive [])
    (other : ∀ c rest, isWord c = false → motive rest → motive (c :: rest))
    (word : ∀ w rest, IsWord w → Gap rest → motive rest → motive (w ++ rest)) (t : Text) : motive t := by
  induction size : t.length using Nat.strong_induction_on generalizing t with
  | _ n ih =>
    cases t with
    | nil => exact nil
    | cons c rest =>
      cases inside : isWord c with
      | false => exact other c rest inside (ih rest.length (by simp at size; omega) rest rfl)
      | true =>
        have split := List.takeWhile_append_dropWhile (p := isWord) (l := c :: rest)
        have shorter : ((c :: rest).dropWhile isWord).length < n := by
          have part := (List.dropWhile_suffix (l := rest) isWord).length_le
          simp only [List.dropWhile_cons, inside, ↓reduceIte, List.length_cons] at size ⊢
          omega
        have gap : Gap ((c :: rest).dropWhile isWord) := by
          cases found : (c :: rest).dropWhile isWord with
          | nil => rfl
          | cons d others =>
            have stop := List.head?_dropWhile_not isWord (c :: rest)
            rw [found] at stop
            simpa [Gap] using stop
        have wordy : IsWord ((c :: rest).takeWhile isWord) :=
          ⟨by simp [inside], fun d member => (List.mem_takeWhile_imp member)⟩
        have whole := word _ _ wordy gap (ih _ shorter _ rfl)
        rwa [split] at whole

theorem words_cons {c : Char} (other : isWord c = false) (rest : Text) : words (c :: rest) = words rest := by
  simp only [words, other, Bool.false_eq_true, ↓reduceIte]

theorem words_append {w t : Text} (wordy : IsWord w) (gap : Gap t) : words (w ++ t) = w :: words t := by
  obtain ⟨filled, all⟩ := wordy
  induction w with
  | nil => exact absurd rfl filled
  | cons c rest ih =>
    have inside := all c List.mem_cons_self
    cases rest with
    | nil =>
      simp only [List.cons_append, List.nil_append, words, inside, ↓reduceIte, gap, Bool.false_eq_true]
      cases words t <;> rfl
    | cons d others =>
      have next := all d (List.mem_cons_of_mem c List.mem_cons_self)
      have rest := ih (List.cons_ne_nil _ _) fun e member => all e (List.mem_cons_of_mem c member)
      rw [List.cons_append, words, rest]
      simp [inside, next]

/-- The words on both sides of a gap are the words of the whole. -/
theorem words_append_of_gap (t : Text) {u : Text} (gap : Gap u) : words (t ++ u) = words t ++ words u := by
  induction t using word_induction with
  | nil => rfl
  | other c rest other ih => rw [List.cons_append, words_cons other, words_cons other, ih]
  | word w rest wordy gap' ih =>
    have further : Gap (rest ++ u) := by cases rest with
      | nil => exact gap
      | cons d others => simpa [Gap] using gap'
    rw [List.append_assoc, words_append wordy further, words_append wordy gap', ih, List.cons_append]

/-! ## Changing the words of a text -/

/-- The text with another word in place of each of its words. -/
def mapWords (change : Text → Text) : Text → Text
  | [] => []
  | c :: rest =>
    if isWord c then
      change ((c :: rest).takeWhile isWord) ++ mapWords change (rest.dropWhile isWord)
    else c :: mapWords change rest
termination_by t => t.length
decreasing_by
  · exact Nat.lt_succ_of_le (List.dropWhile_suffix isWord).length_le
  · exact Nat.lt_succ_self _

section MapWords

variable {change : Text → Text}

@[simp] theorem mapWords_nil (change : Text → Text) : mapWords change [] = [] := by rw [mapWords]

theorem mapWords_cons {c : Char} (other : isWord c = false) (change : Text → Text) (rest : Text) :
    mapWords change (c :: rest) = c :: mapWords change rest := by
  rw [mapWords]
  simp only [other, Bool.false_eq_true, ↓reduceIte]

theorem mapWords_append {w t : Text} (wordy : IsWord w) (gap : Gap t) (change : Text → Text) :
    mapWords change (w ++ t) = change w ++ mapWords change t := by
  obtain ⟨c, rest, rfl⟩ := List.exists_cons_of_ne_nil wordy.ne_nil
  have front := takeWhile_word wordy gap
  have back := dropWhile_word wordy gap
  have inside := wordy.all c List.mem_cons_self
  rw [List.cons_append] at front back ⊢
  rw [List.dropWhile_cons_of_pos inside] at back
  rw [mapWords, front, back]
  simp only [inside, ↓reduceIte]

theorem mapWords_of_isWord {w : Text} (wordy : IsWord w) (change : Text → Text) : mapWords change w = change w := by
  have alone := mapWords_append wordy (show Gap [] from rfl) change
  rwa [List.append_nil, mapWords_nil, List.append_nil] at alone

theorem mapWords_id_of {t : Text} (same : ∀ w ∈ words t, change w = w) : mapWords change t = t := by
  induction t using word_induction with
  | nil => exact mapWords_nil change
  | other c rest other ih => rw [mapWords_cons other, ih (words_cons other rest ▸ same)]
  | word w rest wordy gap ih =>
    rw [words_append wordy gap] at same
    rw [mapWords_append wordy gap, same w List.mem_cons_self,
      ih fun v member => same v (List.mem_cons_of_mem w member)]

end MapWords

/-- Whether a change of words makes words of words. -/
abbrev KeepsWords (change : Text → Text) : Prop := ∀ w, IsWord w → IsWord (change w)

section KeepsWords

variable {change : Text → Text}

theorem gap_mapWords (change : Text → Text) {t : Text} (gap : Gap t) : Gap (mapWords change t) := by
  cases t with
  | nil => rw [mapWords_nil]; rfl
  | cons c rest =>
    have other : isWord c = false := by simpa [Gap] using gap
    rw [mapWords_cons other]
    simpa [Gap] using other

/-- The words of a changed text are the changed words. -/
theorem words_mapWords (keeps : KeepsWords change) (t : Text) :
    words (mapWords change t) = (words t).map change := by
  induction t using word_induction with
  | nil => rw [mapWords_nil]; rfl
  | other c rest other ih => rw [mapWords_cons other, words_cons other, words_cons other, ih]
  | word w rest wordy gap ih =>
    rw [mapWords_append wordy gap, words_append (keeps w wordy) (gap_mapWords change gap),
      words_append wordy gap, List.map_cons, ih]

/-- One change after another changes every word twice. -/
theorem mapWords_mapWords (keeps : KeepsWords change) (further : Text → Text) (t : Text) :
    mapWords further (mapWords change t) = mapWords (further ∘ change) t := by
  induction t using word_induction with
  | nil => rw [mapWords_nil, mapWords_nil, mapWords_nil]
  | other c rest other ih => rw [mapWords_cons other, mapWords_cons other, mapWords_cons other, ih]
  | word w rest wordy gap ih =>
    rw [mapWords_append wordy gap, mapWords_append (keeps w wordy) (gap_mapWords change gap), mapWords_append wordy gap,
      ih, Function.comp_apply]

end KeepsWords

/-! ## What a change of words leaves alone -/

theorem mapWords_append_of_gap (change : Text → Text) (t : Text) {u : Text} (gap : Gap u) :
    mapWords change (t ++ u) = mapWords change t ++ mapWords change u := by
  induction t using word_induction with
  | nil => rw [mapWords_nil]; rfl
  | other c rest other ih => rw [List.cons_append, mapWords_cons other, mapWords_cons other, ih, List.cons_append]
  | word w rest wordy gap' ih =>
    have further : Gap (rest ++ u) := by cases rest with
      | nil => exact gap
      | cons d others => simpa [Gap] using gap'
    rw [List.append_assoc, mapWords_append wordy further, mapWords_append wordy gap', ih, List.append_assoc]

/-- Behind a character that belongs to no word a text is changed on its own. -/
theorem mapWords_append_of_end (change : Text → Text) {t : Text} (stop : t.getLast?.any isWord = false) (u : Text) :
    mapWords change (t ++ u) = mapWords change t ++ mapWords change u := by
  induction t using word_induction with
  | nil => rw [mapWords_nil]; rfl
  | other c rest other ih =>
    have stop : rest.getLast?.any isWord = false := by
      cases rest with
      | nil => rfl
      | cons d others => rwa [List.getLast?_cons_of_ne_nil (List.cons_ne_nil d others)] at stop
    rw [List.cons_append, mapWords_cons other, mapWords_cons other, ih stop, List.cons_append]
  | word w rest wordy gap ih =>
    rw [List.getLast?_append] at stop
    obtain ⟨d, others, rfl⟩ : ∃ d others, rest = d :: others := by
      refine List.exists_cons_of_ne_nil ?_
      rintro rfl
      rw [List.getLast?_nil, Option.none_or, List.getLast?_eq_some_getLast wordy.ne_nil, Option.any_some,
        wordy.all _ (List.getLast_mem _)] at stop
      cases stop
    have further : Gap (d :: others ++ u) := gap
    have stop : (d :: others).getLast?.any isWord = false := by
      rwa [List.getLast?_eq_some_getLast (List.cons_ne_nil d others), Option.some_or,
        ← List.getLast?_eq_some_getLast] at stop
    rw [List.append_assoc, mapWords_append wordy further, mapWords_append wordy gap, ih stop, List.append_assoc]

theorem gap_of_blank {t : Text} (blank : ∀ c ∈ t, isBlank c = true) : Gap t := by
  cases t with
  | nil => rfl
  | cons c rest => simpa [Gap] using isWord_of_isBlank (blank c List.mem_cons_self)

theorem mapWords_blank_append (change : Text → Text) {blanks : Text} (blank : ∀ c ∈ blanks, isBlank c = true)
    (t : Text) : mapWords change (blanks ++ t) = blanks ++ mapWords change t := by
  induction blanks with
  | nil => rfl
  | cons c rest ih =>
    rw [List.cons_append, mapWords_cons (isWord_of_isBlank (blank c List.mem_cons_self)),
      ih fun d member => blank d (List.mem_cons_of_mem c member), List.cons_append]

theorem mapWords_blank (change : Text → Text) {t : Text} (blank : ∀ c ∈ t, isBlank c = true) :
    mapWords change t = t := by
  have whole := mapWords_blank_append change blank []
  rwa [mapWords_nil, List.append_nil] at whole

theorem words_blank_append {blanks : Text} (blank : ∀ c ∈ blanks, isBlank c = true) (t : Text) :
    words (blanks ++ t) = words t := by
  induction blanks with
  | nil => rfl
  | cons c rest ih =>
    rw [List.cons_append, words_cons (isWord_of_isBlank (blank c List.mem_cons_self)),
      ih fun d member => blank d (List.mem_cons_of_mem c member)]

theorem words_blank {t : Text} (blank : ∀ c ∈ t, isBlank c = true) : words t = [] := by
  have whole := words_blank_append blank []
  rwa [List.append_nil] at whole

/-- A text is its white space in front and what is left without it. -/
theorem exists_trimLeft (t : Text) : ∃ blanks, (∀ c ∈ blanks, isBlank c = true) ∧ t = blanks ++ trimLeft t :=
  ⟨t.takeWhile isBlank, fun _ member => List.mem_takeWhile_imp member, (List.takeWhile_append_dropWhile).symm⟩

/-- A text is what is left without the white space behind it and that white space. -/
theorem exists_trimRight (t : Text) : ∃ blanks, (∀ c ∈ blanks, isBlank c = true) ∧ t = trimRight t ++ blanks := by
  refine ⟨(t.reverse.takeWhile isBlank).reverse, fun c member => ?_, ?_⟩
  · exact List.mem_takeWhile_imp (List.mem_reverse.mp member)
  · rw [trimRight, ← List.reverse_append, List.takeWhile_append_dropWhile, List.reverse_reverse]

theorem head?_trimLeft (t : Text) : (trimLeft t).head?.any isBlank = false := by
  have stop := List.head?_dropWhile_not isBlank t
  unfold trimLeft
  cases found : (t.dropWhile isBlank).head? with
  | none => rfl
  | some c => simpa [found] using stop

theorem getLast?_trimRight (t : Text) : (trimRight t).getLast?.any isBlank = false := by
  rw [trimRight, List.getLast?_reverse]
  exact head?_trimLeft t.reverse

theorem trimLeft_append {blanks t : Text} (blank : ∀ c ∈ blanks, isBlank c = true)
    (stop : t.head?.any isBlank = false) : trimLeft (blanks ++ t) = t := by
  rw [trimLeft, List.dropWhile_append_of_pos blank]
  cases t with
  | nil => rfl
  | cons c rest =>
    have stop : isBlank c = false := by simpa using stop
    rw [List.dropWhile_cons_of_neg (by simp [stop])]

theorem trimRight_append {t blanks : Text} (blank : ∀ c ∈ blanks, isBlank c = true)
    (stop : t.getLast?.any isBlank = false) : trimRight (t ++ blanks) = t := by
  have reversed : trimLeft (blanks.reverse ++ t.reverse) = t.reverse :=
    trimLeft_append (fun c member => blank c (List.mem_reverse.mp member)) (by rwa [List.head?_reverse])
  rw [trimRight, List.reverse_append, ← trimLeft, reversed, List.reverse_reverse]

theorem trimLeft_of_stop {t : Text} (stop : t.head?.any isBlank = false) : trimLeft t = t :=
  trimLeft_append (fun _ member => (List.not_mem_nil member).elim) stop

theorem trimRight_of_stop {t : Text} (stop : t.getLast?.any isBlank = false) : trimRight t = t := by
  have alone := trimRight_append (fun c member => (List.not_mem_nil member).elim) stop
  rwa [List.append_nil] at alone

/-- What ends a text without white space at its end has none there either. -/
theorem getLast?_of_append {front back : Text} (stop : (front ++ back).getLast?.any isBlank = false) :
    back.getLast?.any isBlank = false := by
  cases back with
  | nil => rfl
  | cons c rest =>
    rw [List.getLast?_append, List.getLast?_eq_some_getLast (List.cons_ne_nil c rest)] at stop
    rwa [List.getLast?_eq_some_getLast (List.cons_ne_nil c rest)]

theorem getLast?_trimLeft {t : Text} (stop : t.getLast?.any isBlank = false) : (trimLeft t).getLast?.any isBlank = false := by
  obtain ⟨blanks, -, whole⟩ := exists_trimLeft t
  exact getLast?_of_append (whole ▸ stop)

theorem trimRight_ne_nil {c : Char} (black : isBlank c = false) (rest : Text) : trimRight (c :: rest) ≠ [] := by
  intro empty
  obtain ⟨behind, white, whole⟩ := exists_trimRight (c :: rest)
  rw [empty, List.nil_append] at whole
  rw [white c (whole ▸ List.mem_cons_self)] at black
  cases black

/-- Nothing is left of a text exactly if all of it is white space. -/
theorem trim_eq_nil_iff (t : Text) : trim t = [] ↔ ∀ c ∈ t, isBlank c = true := by
  constructor
  · intro empty c member
    obtain ⟨front, white, whole⟩ := exists_trimLeft t
    obtain ⟨back, white', whole'⟩ := exists_trimRight (trimLeft t)
    change trimLeft t = trim t ++ back at whole'
    rw [whole, whole', empty, List.nil_append] at member
    exact (List.mem_append.mp member).elim (white c) (white' c)
  · intro blank
    rw [trim, trimLeft, List.dropWhile_eq_nil_iff.mpr blank]
    rfl

@[simp] theorem words_trimRight (t : Text) : words (trimRight t) = words t := by
  obtain ⟨blanks, blank, whole⟩ := exists_trimRight t
  have same := words_append_of_gap (trimRight t) (gap_of_blank blank)
  rw [← whole, words_blank blank, List.append_nil] at same
  exact same.symm

section KeepsWords

variable {change : Text → Text}

theorem mapWords_eq_nil (keeps : KeepsWords change) {t : Text} : mapWords change t = [] ↔ t = [] := by
  induction t using word_induction with
  | nil => simp
  | other c rest other ih => simp [mapWords_cons other]
  | word w rest wordy gap ih =>
    simp [mapWords_append wordy gap, wordy.ne_nil, (keeps w wordy).ne_nil]

/-- Whether a changed text begins with a character that belongs to no word is as before. -/
theorem head?_mapWords (keeps : KeepsWords change) {p : Char → Bool} (outside : ∀ c, p c = true → isWord c = false)
    (t : Text) : (mapWords change t).head?.any p = t.head?.any p := by
  induction t using word_induction with
  | nil => rw [mapWords_nil]
  | other c rest other ih => rw [mapWords_cons other]; rfl
  | word w rest wordy gap ih =>
    have inside : ∀ {v : Text} (u : Text), IsWord v → (v ++ u).head?.any p = false := by
      intro v u wordy
      obtain ⟨c, tail, rfl⟩ := List.exists_cons_of_ne_nil wordy.ne_nil
      cases found : p c with
      | false => simpa using found
      | true => exact absurd (outside c found) (by simp [wordy.all c List.mem_cons_self])
    rw [mapWords_append wordy gap, inside _ (keeps w wordy), inside _ wordy]

/-- Whether a changed text ends with a character that belongs to no word is as before. -/
theorem getLast?_mapWords (keeps : KeepsWords change) {p : Char → Bool} (outside : ∀ c, p c = true → isWord c = false)
    (t : Text) : (mapWords change t).getLast?.any p = t.getLast?.any p := by
  induction t using word_induction with
  | nil => rw [mapWords_nil]
  | other c rest other ih =>
    rw [mapWords_cons other]
    cases rest with
    | nil => rw [mapWords_nil]
    | cons d others =>
      have filled : mapWords change (d :: others) ≠ [] := fun empty => by simp [mapWords_eq_nil keeps] at empty
      rwa [List.getLast?_cons_of_ne_nil filled, List.getLast?_cons_of_ne_nil (List.cons_ne_nil _ _)]
  | word w rest wordy gap ih =>
    have inside : ∀ {v : Text}, IsWord v → v.getLast?.any p = false := by
      intro v wordy
      rw [List.getLast?_eq_some_getLast wordy.ne_nil]
      cases found : p (v.getLast wordy.ne_nil) with
      | false => simpa using found
      | true => exact absurd (outside _ found) (by simp [wordy.all _ (List.getLast_mem wordy.ne_nil)])
    rw [mapWords_append wordy gap, List.getLast?_append, List.getLast?_append]
    cases rest with
    | nil => simp [inside wordy, inside (keeps w wordy)]
    | cons d others =>
      have filled : mapWords change (d :: others) ≠ [] := fun empty => by simp [mapWords_eq_nil keeps] at empty
      rw [List.getLast?_eq_some_getLast filled, List.getLast?_eq_some_getLast (List.cons_ne_nil d others)] at ih ⊢
      simpa using ih

/-- A text that does not end with a word character still does not after a change. -/
theorem getLast?_mapWords_of_end (keeps : KeepsWords change) {t : Text} (stop : t.getLast?.any isWord = false) :
    (mapWords change t).getLast?.any isWord = false := by
  have same := getLast?_mapWords keeps (p := (!isWord ·)) (fun c other => by simpa using other) t
  cases last' : (mapWords change t).getLast? with
  | none => rfl
  | some d =>
    cases last : t.getLast? with
    | none =>
      rw [List.getLast?_eq_none_iff.mp last, mapWords_nil] at last'
      cases last'
    | some c =>
      rw [last] at stop same
      rw [last'] at same
      simpa [show isWord c = false from stop] using same

/-- A character of no word at the front of a changed text stood there before. -/
theorem mapWords_eq_cons (keeps : KeepsWords change) {c : Char} (other : isWord c = false) {t rest : Text}
    (changed : mapWords change t = c :: rest) : ∃ rest', t = c :: rest' ∧ rest = mapWords change rest' := by
  cases t using word_induction with
  | nil => rw [mapWords_nil] at changed; cases changed
  | other d rest' other' _ =>
    rw [mapWords_cons other'] at changed
    cases changed
    exact ⟨rest', rfl, rfl⟩
  | word w rest' wordy gap _ =>
    have inside := keeps w wordy
    rw [mapWords_append wordy gap] at changed
    obtain ⟨d, tail, listed⟩ := List.exists_cons_of_ne_nil inside.ne_nil
    rw [listed] at changed
    cases changed
    rw [inside.all c (listed ▸ List.mem_cons_self)] at other
    cases other

theorem trimLeft_mapWords (keeps : KeepsWords change) (t : Text) :
    trimLeft (mapWords change t) = mapWords change (trimLeft t) := by
  obtain ⟨blanks, blank, whole⟩ := exists_trimLeft t
  have stop : (mapWords change (trimLeft t)).head?.any isBlank = false := by
    rw [head?_mapWords keeps fun _ => isWord_of_isBlank, head?_trimLeft]
  have split : mapWords change t = blanks ++ mapWords change (trimLeft t) := by
    have split := mapWords_blank_append change blank (trimLeft t)
    rwa [← whole] at split
  rw [split, trimLeft_append blank stop]

theorem trimRight_mapWords (keeps : KeepsWords change) (t : Text) :
    trimRight (mapWords change t) = mapWords change (trimRight t) := by
  obtain ⟨blanks, blank, whole⟩ := exists_trimRight t
  have stop : (mapWords change (trimRight t)).getLast?.any isBlank = false := by
    rw [getLast?_mapWords keeps fun _ => isWord_of_isBlank, getLast?_trimRight]
  have split := mapWords_append_of_gap change (trimRight t) (gap_of_blank blank)
  rw [← whole, mapWords_blank change blank] at split
  rw [split, trimRight_append blank stop]

theorem trim_mapWords (keeps : KeepsWords change) (t : Text) : trim (mapWords change t) = mapWords change (trim t) := by
  rw [trim, trimLeft_mapWords keeps, trimRight_mapWords keeps, trim]

/-- The characters of a changed text that belong to no word are those of the text. -/
theorem filter_mapWords (keeps : KeepsWords change) {p : Char → Bool}
    (outside : ∀ c, p c = true → isWord c = false) (t : Text) : (mapWords change t).filter p = t.filter p := by
  have none : ∀ {w : Text}, IsWord w → w.filter p = [] := by
    intro w wordy
    refine List.filter_eq_nil_iff.mpr fun c member found => ?_
    have inside := wordy.all c member
    rw [outside c found] at inside
    cases inside
  induction t using word_induction with
  | nil => rw [mapWords_nil]
  | other c rest other ih => rw [mapWords_cons other, List.filter_cons, List.filter_cons, ih]
  | word w rest wordy gap ih =>
    rw [mapWords_append wordy gap, List.filter_append, List.filter_append, ih, none wordy, none (keeps w wordy)]

end KeepsWords

/-! ## Replacing a name -/

/-- The change that replaces one word. -/
def replacing (name new : Text) (w : Text) : Text := if w = name then new else w

theorem keepsWords_replacing {name new : Text} (wordy : IsWord new) : KeepsWords (replacing name new) := by
  intro w own
  unfold replacing
  split_ifs
  · exact wordy
  · exact own

section Replacement

variable {name new : Text}

private theorem replaceWordAfter_miss {before : Option Char} {c : Char} {rest : Text}
    (apart : wordAt name before (c :: rest) = false) :
    replaceWordAfter name new before 0 (c :: rest) = c :: replaceWordAfter name new (some c) 0 rest := by
  rw [replaceWordAfter.eq_def]
  simp only [apart, Bool.false_eq_true, ↓reduceIte]

/-- What belongs to a replaced occurrence is passed over. -/
private theorem replaceWordAfter_skip (before : Option Char) (w rest : Text) :
    replaceWordAfter name new before w.length (w ++ rest) = replaceWordAfter name new (w.getLast?.or before) 0 rest := by
  induction w generalizing before with
  | nil => rfl
  | cons c tail ih =>
    rw [List.length_cons, List.cons_append, replaceWordAfter, ih]
    cases tail <;> rfl

/-- A name stands in front of no character that belongs to no word. -/
theorem wordAt_other (isName : IsWord name) {c : Char} (other : isWord c = false) (before : Option Char)
    (rest : Text) : wordAt name before (c :: rest) = false := by
  obtain ⟨d, tail, rfl⟩ := List.exists_cons_of_ne_nil isName.ne_nil
  have differ : d ≠ c := by
    rintro rfl
    rw [isName.all d List.mem_cons_self] at other
    cases other
  simp [wordAt, startsWith, List.isPrefixOf, differ]

/-- No occurrence begins inside of a word. -/
private theorem replaceWordAfter_inside (w rest : Text) (all : ∀ c ∈ w, isWord c = true) (before : Char)
    (inside : isWord before = true) :
    replaceWordAfter name new (some before) 0 (w ++ rest) =
      w ++ replaceWordAfter name new (w.getLast?.or (some before)) 0 rest := by
  induction w generalizing before with
  | nil => rfl
  | cons c tail ih =>
    have here := all c List.mem_cons_self
    have apart : wordAt name (some before) (c :: (tail ++ rest)) = false := by
      simp [wordAt, boundary, inside, here]
    rw [List.cons_append, replaceWordAfter_miss apart,
      ih (fun d member => all d (List.mem_cons_of_mem c member)) c here]
    cases tail <;> rfl

/-- A name stands in front of a word exactly if it is the word. -/
theorem wordAt_word {w rest : Text} (isName : IsWord name) (wordy : IsWord w) (gap : Gap rest)
    {before : Option Char} (fresh : before.any isWord = false) :
    wordAt name before (w ++ rest) = decide (w = name) := by
  have front : boundary before (w ++ rest).head? = true := by
    have starts := wordy.not_gap rest
    simp only [Gap, Bool.not_eq_false] at starts
    rw [boundary, fresh, starts]
    rfl
  have last : (name.getLast?.or before).any isWord = true := by
    have inside := isName.all _ (List.getLast_mem isName.ne_nil)
    simp [List.getLast?_eq_some_getLast isName.ne_nil, inside]
  rw [wordAt, front, Bool.true_and]
  by_cases same : w = name
  · subst same
    simp only [startsWith, List.isPrefixOf_iff_prefix.mpr (List.prefix_append w rest), boundary, last, List.drop_left,
      decide_true, Bool.true_and]
    rw [show rest.head?.any isWord = false from gap]
    rfl
  · rw [decide_eq_false same, Bool.and_eq_false_iff, Bool.eq_false_iff, Bool.eq_false_iff]
    by_contra both
    simp only [startsWith, not_or, not_not, List.isPrefixOf_iff_prefix] at both
    obtain ⟨⟨tail, listed⟩, stops⟩ := both
    have stops : Gap tail := by
      rw [← listed, List.drop_left] at stops
      simpa [boundary, last, Gap] using stops
    have listed := congrArg words listed
    rw [words_append isName stops, words_append wordy gap] at listed
    exact same (List.cons.inj listed).1.symm

private theorem replaceWordAfter_eq (isName : IsWord name) (t : Text) {before : Option Char}
    (fresh : before.any isWord = true → Gap t) :
    replaceWordAfter name new before 0 t = mapWords (replacing name new) t := by
  induction t using word_induction generalizing before with
  | nil =>
    have filled : name.isEmpty = false := by simpa using isName.ne_nil
    simp [replaceWordAfter, filled]
  | other c rest other ih =>
    rw [replaceWordAfter_miss (wordAt_other isName other before rest), mapWords_cons other]
    rw [ih fun inside => by simp [other] at inside]
  | word w rest wordy gap ih =>
    have fresh : before.any isWord = false := by
      cases touching : before.any isWord with
      | false => rfl
      | true => exact absurd (fresh touching) (wordy.not_gap rest)
    have found := wordAt_word isName wordy gap fresh
    rw [mapWords_append wordy gap, replacing]
    obtain ⟨c, tail, rfl⟩ := List.exists_cons_of_ne_nil wordy.ne_nil
    split_ifs with same
    · subst same
      rw [decide_eq_true rfl, List.cons_append] at found
      rw [List.cons_append, replaceWordAfter, found]
      simp only [↓reduceIte]
      rw [replaceWordAfter_skip, ih fun _ => gap]
    · rw [decide_eq_false same, List.cons_append] at found
      rw [List.cons_append, replaceWordAfter_miss found,
        replaceWordAfter_inside tail rest (fun d member => wordy.all d (List.mem_cons_of_mem c member)) c
          (wordy.all c List.mem_cons_self), ih fun _ => gap, List.cons_append]

/-- Replacing a name changes the words that are the name. -/
theorem replaceWord_eq (isName : IsWord name) (t : Text) :
    replaceWord name new t = mapWords (replacing name new) t :=
  replaceWordAfter_eq isName t fun touching => by simp at touching

/-- A name that was replaced by a free one comes back. -/
theorem replaceWord_replaceWord (isName : IsWord name) (isNew : IsWord new) {t : Text} (free : new ∉ words t) :
    replaceWord new name (replaceWord name new t) = t := by
  rw [replaceWord_eq isNew, replaceWord_eq isName, mapWords_mapWords (keepsWords_replacing isNew)]
  refine mapWords_id_of fun w member => ?_
  have differs : w ≠ new := fun same => free (same ▸ member)
  rw [Function.comp_apply, replacing]
  by_cases same : w = name
  · rw [replacing, if_pos same, if_pos rfl, same]
  · rw [replacing, if_neg same, if_neg differs]

/-- Where another word than the name stands, it still stands between what comes of the text in front of it and of the
text behind it. -/
theorem replaceWord_append_word (isName : IsWord name) {front w back : Text} (wordy : IsWord w) (other : w ≠ name)
    (stop : front.getLast?.any isWord = false) (gap : Gap back) :
    replaceWord name new (front ++ (w ++ back)) = replaceWord name new front ++ (w ++ replaceWord name new back) := by
  simp only [replaceWord_eq isName]
  rw [mapWords_append_of_end _ stop, mapWords_append wordy gap, replacing, if_neg other]

end Replacement

end ShaderShrink.Text
