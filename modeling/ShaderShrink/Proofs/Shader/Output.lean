import ShaderShrink.Shader.Code
import ShaderShrink.Proofs.Text.Word

/-!
# Writes to outputs

The outputs of a shader are words, so that white space around the code of a line has no part in whether the line
writes one of them.  Nor has what the other names are: a line that writes an output still does when other names
are replaced.
-/

namespace ShaderShrink.Code

open ShaderShrink.Text

/-- The name of an output is a word. -/
theorem isWord_of_mem_outputs {lines : List Text} {name : Text} (member : name ∈ outputs lines) : IsWord name := by
  rcases List.mem_append.mp member with builtin | declared
  · have all : ∀ name ∈ builtinOutputs, IsWord name := by decide
    exact all name builtin
  · obtain ⟨line, -, found⟩ := List.mem_filterMap.mp declared
    unfold declaredOutput? at found
    obtain ⟨t₁, -, found⟩ := Option.bind_eq_some_iff.mp found
    obtain ⟨t₂, -, found⟩ := Option.bind_eq_some_iff.mp found
    dsimp only at found
    split_ifs at found
    obtain ⟨t₃, -, found⟩ := Option.bind_eq_some_iff.mp found
    split_ifs at found with empty ends
    cases found
    exact ⟨by simpa using empty, fun c member => List.mem_takeWhile_imp member⟩

section Writes

variable {name : Text}

/-- Of the character in front of a text it matters only whether it belongs to a word. -/
theorem writesAfter_congr (isName : IsWord name) (before before' : Option Char)
    (alike : before.any isWord = before'.any isWord) (t : Text) :
    writesAfter name before t = writesAfter name before' t := by
  cases t with
  | nil => rfl
  | cons c rest =>
    have last : ∀ before : Option Char, name.getLast?.or before = name.getLast? := by
      intro before
      rw [List.getLast?_eq_some_getLast isName.ne_nil]
      rfl
    simp only [writesAfter, wordAt, boundary, alike, last]

/-- White space in front of a text writes nothing. -/
theorem writesAfter_blank_append (isName : IsWord name) {blanks : Text} (blank : ∀ c ∈ blanks, isBlank c = true)
    (t : Text) : writesAfter name none (blanks ++ t) = writesAfter name none t := by
  induction blanks with
  | nil => rfl
  | cons c rest ih =>
    have other := isWord_of_isBlank (blank c List.mem_cons_self)
    rw [List.cons_append, writesAfter, wordAt_other isName other, Bool.false_and, Bool.false_or,
      writesAfter_congr isName (some c) none (by simpa using other)]
    exact ih fun d member => blank d (List.mem_cons_of_mem c member)

end Writes

/-- The code of a line has no white space at its end. -/
theorem trim_ofLine (line : Text) : trim (ofLine line) = trimLeft (ofLine line) := by
  have last : (ofLine line).getLast?.any isBlank = false := getLast?_trimRight _
  obtain ⟨blanks, -, whole⟩ := exists_trimLeft (ofLine line)
  refine trimRight_of_stop ?_
  cases listed : trimLeft (ofLine line) with
  | nil => rfl
  | cons c rest =>
    rw [whole, listed, List.getLast?_append, List.getLast?_eq_some_getLast (List.cons_ne_nil c rest)] at last
    rw [List.getLast?_eq_some_getLast (List.cons_ne_nil c rest)]
    exact last

/-- White space around the code of a line has no part in whether it writes an output. -/
theorem writesOutput_trim (lines : List Text) (line : Text) :
    writesOutput (outputs lines) (trim (ofLine line)) = writesOutput (outputs lines) (ofLine line) := by
  obtain ⟨blanks, blank, whole⟩ := exists_trimLeft (ofLine line)
  have each : ∀ name ∈ outputs lines, writesAfter name none (trimLeft (ofLine line)) = writesAfter name none (ofLine line) := by
    intro name member
    have same := writesAfter_blank_append (isWord_of_mem_outputs member) blank (trimLeft (ofLine line))
    rw [← whole] at same
    exact same.symm
  rw [trim_ofLine, writesOutput, writesOutput, Bool.eq_iff_iff, List.any_eq_true, List.any_eq_true]
  exact exists_congr fun name => and_congr_right fun member => by rw [each name member]

/-! ## Other names -/

/-- Up to an equals sign or a semicolon, an assignment may follow any characters. -/
theorem assigns_cons {c : Char} (semicolon : c ≠ ';') (equals : c ≠ '=') (before : Char) (t : Text) :
    assigns before (c :: t) = assigns c t := by
  have passed : (c != ';' && c != '=') = true := by simp [semicolon, equals]
  unfold assigns
  simp only [List.takeWhile_cons, List.dropWhile_cons, passed, ↓reduceIte]
  rw [List.getLast?_cons, Option.getD_some]

/-- An assignment may follow any word. -/
theorem assigns_congr {before before' : Char} (inside : isWord before = true) (inside' : isWord before' = true) (t : Text) :
    assigns before t = assigns before' t := by
  have differ : ∀ c, isWord c = false → ∀ d, isWord d = true → (d == c) = false := by
    intro c other d inside
    refine beq_false_of_ne ?_
    rintro rfl
    rw [inside] at other
    cases other
  have plain : ∀ d, isWord d = true → (d == '!' || d == '<' || d == '>' || d == '=') = false := by
    intro d inside
    rw [differ '!' rfl d inside, differ '<' rfl d inside, differ '>' rfl d inside, differ '=' rfl d inside]
    rfl
  unfold assigns
  dsimp only
  cases (t.takeWhile fun c => c != ';' && c != '=').getLast? with
  | none => simp only [Option.getD_none, plain before inside, plain before' inside']
  | some c => rfl

theorem assigns_append {w : Text} (wordy : IsWord w) (before : Char) (t : Text) :
    assigns before (w ++ t) = assigns (w.getLast wordy.ne_nil) t := by
  obtain ⟨filled, all⟩ := wordy
  induction w generalizing before with
  | nil => exact absurd rfl filled
  | cons c rest ih =>
    have inside := all c List.mem_cons_self
    have apart : ∀ d, isWord d = false → c ≠ d := by
      rintro d other rfl
      rw [inside] at other
      cases other
    rw [List.cons_append, assigns_cons (apart ';' (by decide)) (apart '=' (by decide))]
    cases rest with
    | nil => rfl
    | cons d others =>
      rw [ih c (List.cons_ne_nil _ _) fun e member => all e (List.mem_cons_of_mem c member)]
      rfl

section MapWords

variable {change : Text → Text} {name : Text}

/-- Whether an assignment follows does not depend on the words in front of it. -/
theorem assigns_mapWords (keeps : KeepsWords change) (before : Char) (t : Text) :
    assigns before (mapWords change t) = assigns before t := by
  induction t using word_induction generalizing before with
  | nil => rw [mapWords_nil]
  | other c rest other ih =>
    rw [mapWords_cons other]
    by_cases semicolon : c = ';'
    · subst semicolon
      rfl
    · by_cases equals : c = '='
      · subst equals
        have told : ∀ next : Option Char, (next != some '=') = !next.any (· == '=') := fun next => by cases next <;> rfl
        have next := head?_mapWords keeps (p := (· == '=')) (fun c found => (beq_iff_eq.mp found) ▸ by decide) rest
        unfold assigns
        simp only [List.takeWhile_cons, List.dropWhile_cons, bne_self_eq_false, Bool.and_false, Bool.false_eq_true,
          ↓reduceIte, List.getLast?_nil, Option.getD_none, told, next]
      · rw [assigns_cons semicolon equals, assigns_cons semicolon equals, ih]
  | word w rest wordy gap ih =>
    have inside : ∀ {v : Text} (wordy : IsWord v), isWord (v.getLast wordy.ne_nil) = true :=
      fun wordy => wordy.all _ (List.getLast_mem _)
    rw [mapWords_append wordy gap, assigns_append (keeps w wordy), assigns_append wordy, ih,
      assigns_congr (inside (keeps w wordy)) (inside wordy)]

/-- Nothing is written inside of a word. -/
private theorem writesAfter_inside (w t : Text) (all : ∀ c ∈ w, isWord c = true) (before : Char)
    (inside : isWord before = true) :
    writesAfter name (some before) (w ++ t) = writesAfter name (w.getLast?.or (some before)) t := by
  induction w generalizing before with
  | nil => rfl
  | cons c tail ih =>
    have here := all c List.mem_cons_self
    have apart : wordAt name (some before) (c :: (tail ++ t)) = false := by
      simp [wordAt, boundary, inside, here]
    rw [List.cons_append, writesAfter, apart, Bool.false_and, Bool.false_or,
      ih (fun d member => all d (List.mem_cons_of_mem c member)) c here]
    cases tail <;> rfl

/-- A word and what follows it write a name if the word is the name and an assignment follows, or if the rest
writes it. -/
theorem writesAfter_append (isName : IsWord name) {w t : Text} (wordy : IsWord w) (gap : Gap t) {before : Option Char}
    (fresh : before.any isWord = false) :
    writesAfter name before (w ++ t) =
      (decide (w = name) && assigns (w.getLast wordy.ne_nil) t || writesAfter name w.getLast? t) := by
  have found := wordAt_word isName wordy gap fresh
  obtain ⟨c, tail, rfl⟩ := List.exists_cons_of_ne_nil wordy.ne_nil
  rw [List.cons_append] at found ⊢
  rw [writesAfter, found,
    writesAfter_inside tail t (fun d member => wordy.all d (List.mem_cons_of_mem c member)) c
      (wordy.all c List.mem_cons_self)]
  congr 1
  · by_cases same : c :: tail = name
    · subst same
      rw [List.getLast?_eq_some_getLast (List.cons_ne_nil c tail), Option.getD_some, ← List.cons_append, List.drop_left]
    · rw [decide_eq_false same, Bool.false_and, Bool.false_and]
  · cases tail <;> rfl

/-- A text that writes a name still does after a change that keeps the name. -/
theorem writesAfter_mapWords (keeps : KeepsWords change) (isName : IsWord name) (same : change name = name) {t : Text}
    {before : Option Char} (fresh : before.any isWord = true → Gap t) (writes : writesAfter name before t = true) :
    writesAfter name before (mapWords change t) = true := by
  induction t using word_induction generalizing before with
  | nil => cases writes
  | other c rest other ih =>
    rw [writesAfter, wordAt_other isName other, Bool.false_and, Bool.false_or] at writes
    rw [mapWords_cons other, writesAfter, wordAt_other isName other, Bool.false_and, Bool.false_or]
    exact ih (fun inside => by simp [other] at inside) writes
  | word w rest wordy gap ih =>
    have fresh : before.any isWord = false := by
      cases touching : before.any isWord with
      | false => rfl
      | true => exact absurd (fresh touching) (wordy.not_gap rest)
    have isWord' := keeps w wordy
    have last : ∀ {v : Text} (wordy : IsWord v), isWord (v.getLast wordy.ne_nil) = true :=
      fun wordy => wordy.all _ (List.getLast_mem _)
    rw [writesAfter_append isName wordy gap fresh, Bool.or_eq_true, Bool.and_eq_true, decide_eq_true_eq] at writes
    rw [mapWords_append wordy gap, writesAfter_append isName isWord' (gap_mapWords change gap) fresh,
      Bool.or_eq_true, Bool.and_eq_true, decide_eq_true_eq, assigns_mapWords keeps]
    rcases writes with ⟨rfl, follows⟩ | later
    · exact .inl ⟨same, by rwa [assigns_congr (last isWord') (last wordy)]⟩
    · refine .inr ?_
      rw [writesAfter_congr isName (change w).getLast? w.getLast?]
      · exact ih (fun _ => gap) later
      · rw [List.getLast?_eq_some_getLast isWord'.ne_nil, List.getLast?_eq_some_getLast wordy.ne_nil]
        exact (last isWord').trans (last wordy).symm

end MapWords

end ShaderShrink.Code
