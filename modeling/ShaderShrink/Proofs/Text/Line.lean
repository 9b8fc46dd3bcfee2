import ShaderShrink.Proofs.Text.CarriageReturn
import ShaderShrink.Proofs.Text.Word

/-!
# Lines and their words

A line has no line breaks inside.  Joining lines and splitting the result gives the lines back, and the words
of a text are those of its lines.  A text made of lines has no carriage returns.
-/

namespace ShaderShrink.Text

/-- Whether a text has no line breaks. -/
def Unbroken (line : Text) : Prop := ∀ c ∈ line, isLineBreak c = false

instance (line : Text) : Decidable (Unbroken line) :=
  decidable_of_iff (line.any isLineBreak = false) (by simp only [List.any_eq_false, Bool.not_eq_true, Unbroken])

theorem Unbroken.append {a b : Text} (first : Unbroken a) (second : Unbroken b) : Unbroken (a ++ b) :=
  fun c member => (List.mem_append.mp member).elim (first c) (second c)

/-- A part of a text without line breaks has none. -/
theorem Unbroken.of_subset {a b : Text} (whole : Unbroken b) (part : a ⊆ b) : Unbroken a :=
  fun c member => whole c (part member)

theorem Unbroken.returnless {line : Text} (unbroken : Unbroken line) : Returnless line :=
  fun member => absurd (unbroken '\r' member) (by decide)

theorem unbroken_of_isWord {w : Text} (wordy : IsWord w) : Unbroken w := by
  intro c member
  cases ends : isLineBreak c with
  | false => rfl
  | true =>
    have other := isWord_of_isBlank (isBlank_of_isLineBreak ends)
    rw [wordy.all c member] at other
    cases other

/-- A line of a text has no line breaks. -/
theorem unbroken_of_mem_lines {t line : Text} (member : line ∈ lines t) : Unbroken line := by
  fun_induction lines t generalizing line with
  | case1 => cases member
  | case2 rest ih | case3 c rest _ ends ih =>
    rcases List.mem_cons.mp member with rfl | later
    · exact fun c inside => (List.not_mem_nil inside).elim
    · exact ih later
  | case4 c rest _ inside none ih =>
    obtain rfl := List.mem_singleton.mp member
    intro d last
    obtain rfl := List.mem_singleton.mp last
    exact Bool.eq_false_iff.mpr inside
  | case5 c rest _ inside first others listed ih =>
    rcases List.mem_cons.mp member with rfl | later
    · intro d part
      rcases List.mem_cons.mp part with rfl | part
      · exact Bool.eq_false_iff.mpr inside
      · exact ih (listed ▸ List.mem_cons_self) d part
    · exact ih (listed ▸ List.mem_cons_of_mem _ later)

/-- A character inside of a line belongs to the first line. -/
theorem lines_cons {c : Char} (inside : isLineBreak c = false) (rest : Text) :
    lines (c :: rest) = ((lines rest).head?.getD []).cons c :: (lines rest).tail := by
  rw [lines.eq_def]
  split
  · rename_i same
    cases same
  · rename_i same
    cases same
    exact absurd inside (by decide)
  · rename_i same
    cases same
    simp only [inside, Bool.false_eq_true, ↓reduceIte]
    cases lines rest <;> rfl

theorem lines_append_of_unbroken {t : Text} (filled : t ≠ []) (unbroken : Unbroken t) (rest : Text) :
    lines (t ++ rest) = (t ++ (lines rest).head?.getD []) :: (lines rest).tail := by
  induction t with
  | nil => exact absurd rfl filled
  | cons c tail ih =>
    rw [List.cons_append, lines_cons (unbroken c List.mem_cons_self)]
    cases tail with
    | nil => rfl
    | cons d others =>
      rw [ih (List.cons_ne_nil _ _) fun e member => unbroken e (List.mem_cons_of_mem c member)]
      rfl

/-- A line break opens a line; a carriage return and the line feed after it are one break. -/
theorem lines_of_isLineBreak {c : Char} (ends : isLineBreak c = true) (rest : Text) :
    ∃ below, lines (c :: rest) = [] :: lines below ∧ (below = rest ∨ rest = '\n' :: below) := by
  rw [lines.eq_def]
  split
  · rename_i same
    cases same
  · rename_i below same
    cases same
    exact ⟨below, rfl, .inr rfl⟩
  · rename_i same
    cases same
    simp only [ends, ↓reduceIte]
    exact ⟨rest, rfl, .inl rfl⟩

/-- A line break that is no carriage return ends the line in front of it. -/
theorem lines_append_of_isLineBreak {line : Text} {c : Char} (unbroken : Unbroken line) (ends : isLineBreak c = true)
    (single : c ≠ '\r') (rest : Text) : lines (line ++ c :: rest) = line :: lines rest := by
  have opens : lines (c :: rest) = [] :: lines rest := by
    rw [lines.eq_def]
    split
    · rename_i same
      cases same
    · rename_i same
      cases same
      exact absurd rfl single
    · rename_i same
      cases same
      rw [if_pos ends]
  cases line with
  | nil => exact opens
  | cons d tail =>
    rw [lines_append_of_unbroken (List.cons_ne_nil _ _) unbroken, opens]
    simp

theorem lines_append {line : Text} (unbroken : Unbroken line) (rest : Text) :
    lines (line ++ '\n' :: rest) = line :: lines rest :=
  lines_append_of_isLineBreak unbroken (by decide) (by decide) rest

/-- Joined lines are split again where they were joined. -/
theorem lines_unlines {ls : List Text} (unbroken : ∀ line ∈ ls, Unbroken line) : lines (unlines ls) = ls := by
  induction ls with
  | nil => rfl
  | cons line rest ih =>
    rw [unlines_cons, lines_append (unbroken line List.mem_cons_self),
      ih fun other member => unbroken other (List.mem_cons_of_mem line member)]

private theorem gap_head_lines {t : Text} (gap : Gap t) : Gap ((lines t).head?.getD []) := by
  cases t with
  | nil => rfl
  | cons c rest =>
    cases ends : isLineBreak c with
    | false =>
      rw [lines_cons ends]
      exact gap
    | true =>
      obtain ⟨below, listed, -⟩ := lines_of_isLineBreak ends rest
      rw [listed]
      rfl

/-- The words of a text are the words of its lines. -/
theorem words_eq_flatMap (t : Text) : words t = (lines t).flatMap words := by
  induction t using word_induction with
  | nil => rfl
  | other c rest other ih =>
    rw [words_cons other, ih]
    cases ends : isLineBreak c with
    | false =>
      rw [lines_cons ends, List.flatMap_cons, words_cons other]
      cases lines rest <;> rfl
    | true =>
      obtain ⟨below, listed, rfl | rfl⟩ := lines_of_isLineBreak ends rest <;> rw [listed] <;> rfl
  | word w rest wordy gap ih =>
    rw [words_append wordy gap, ih, lines_append_of_unbroken wordy.ne_nil (unbroken_of_isWord wordy),
      List.flatMap_cons, words_append wordy (gap_head_lines gap)]
    cases lines rest <;> rfl

end ShaderShrink.Text
