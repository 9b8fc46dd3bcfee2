import ShaderShrink.Shader.Code
import ShaderShrink.Proofs.Text.Line

/-!
# Declarations under change

A declaration is read from the front: qualifiers, a type, a name, and then an equals sign with a value or the
end.  What is read in front of the equals sign does not depend on the value, and changing the words of a line
changes its declaration in the same way, as long as no qualifier and no type comes or goes.
-/

namespace ShaderShrink.Code

open ShaderShrink.Text

/-! ## The code of a line -/

theorem beforeComment_cons (c : Char) (rest : Text) :
    beforeComment (c :: rest) =
      if (c == '/' && rest.head?.any (· == '/')) = true then [] else c :: beforeComment rest := by
  rw [beforeComment.eq_def]
  split
  · rename_i same
    cases same
  · rename_i same
    cases same
    rfl
  · rename_i other same
    cases same
    have apart : ¬ (c == '/' && rest.head?.any (· == '/')) = true := by
      intro both
      simp only [Bool.and_eq_true, beq_iff_eq] at both
      obtain ⟨rfl, next⟩ := both
      cases rest with
      | nil => cases next
      | cons d others =>
        obtain rfl : d = '/' := by simpa using next
        exact other others rfl rfl
    rw [if_neg apart]

theorem beforeComment_append {t : Text} (plain : '/' ∉ t) (rest : Text) :
    beforeComment (t ++ rest) = t ++ beforeComment rest := by
  induction t with
  | nil => rfl
  | cons c tail ih =>
    have differ : c ≠ '/' := fun same => plain (same ▸ List.mem_cons_self)
    rw [List.cons_append, beforeComment_cons, ih fun member => plain (List.mem_cons_of_mem c member)]
    simp [differ]

theorem slash_notMem_of_isWord {w : Text} (wordy : IsWord w) : '/' ∉ w :=
  fun member => absurd (wordy.all _ member) (by decide)

/-- A line is its code and, after a gap, its comment. -/
theorem exists_comment (line : Text) : ∃ comment, Gap comment ∧ line = beforeComment line ++ comment := by
  induction line with
  | nil => exact ⟨[], rfl, rfl⟩
  | cons c rest ih =>
    rw [beforeComment_cons]
    split_ifs with comment
    · simp only [Bool.and_eq_true, beq_iff_eq] at comment
      obtain ⟨rfl, -⟩ := comment
      exact ⟨_, rfl, rfl⟩
    · obtain ⟨comment, gap, whole⟩ := ih
      exact ⟨comment, gap, congrArg (c :: ·) whole⟩

/-- The words of the code of a line are words of the line. -/
theorem words_ofLine_subset (line : Text) : words (ofLine line) ⊆ words line := by
  obtain ⟨comment, gap, whole⟩ := exists_comment line
  have split := words_append_of_gap (beforeComment line) gap
  rw [← whole] at split
  rw [ofLine, words_trimRight, split]
  exact List.subset_append_left _ _

/-- The code of a line is part of the line. -/
theorem ofLine_subset (line : Text) : ofLine line ⊆ line := by
  obtain ⟨comment, -, whole⟩ := exists_comment line
  obtain ⟨blanks, -, split⟩ := exists_trimRight (beforeComment line)
  intro c member
  have part : c ∈ beforeComment line := by
    rw [split]
    exact List.mem_append_left _ member
  rw [whole]
  exact List.mem_append_left _ part

section KeepsWords

variable {change : Text → Text}

theorem beforeComment_mapWords (keeps : KeepsWords change) (t : Text) :
    beforeComment (mapWords change t) = mapWords change (beforeComment t) := by
  induction t using word_induction with
  | nil => rw [beforeComment, mapWords_nil, beforeComment]
  | other c rest other ih =>
    have outside : ∀ d : Char, (d == '/') = true → isWord d = false := by
      intro d same
      obtain rfl := beq_iff_eq.mp same
      decide
    rw [mapWords_cons other, beforeComment_cons, beforeComment_cons, head?_mapWords keeps outside, ih]
    split_ifs
    · rw [mapWords_nil]
    · rw [mapWords_cons other]
  | word w rest wordy gap ih =>
    have gap' : Gap (beforeComment rest) := by
      cases rest with
      | nil => rfl
      | cons c others =>
        rw [beforeComment_cons]
        split_ifs
        · rfl
        · exact gap
    rw [mapWords_append wordy gap, beforeComment_append (slash_notMem_of_isWord (keeps w wordy)), ih,
      beforeComment_append (slash_notMem_of_isWord wordy), mapWords_append wordy gap']

/-- Changing the words of a line changes those of its code. -/
theorem ofLine_mapWords (keeps : KeepsWords change) (line : Text) :
    ofLine (mapWords change line) = mapWords change (ofLine line) := by
  rw [ofLine, beforeComment_mapWords keeps, trimRight_mapWords keeps, ofLine]

end KeepsWords

/-! ## Headings -/

/-- The type and the name that a line of code declares, and what follows them. -/
def heading? (code : Text) : Option (Text × Text × Text) := do
  let t := trimLeft code
  let t := skipQualifiers t.length t
  let (type, t) := splitWord t
  if !declarableTypes.contains type then none
  else
    let t ← gap? t
    let (name, t) := splitWord t
    if !isIdentifier name then none else some (type, name, trimLeft t)

/-- The declaration with a heading, from what follows it. -/
def completion? (code type name : Text) : Text → Option Declaration
  | '=' :: rest => do
    let (initial, value) ← initial? rest
    some ⟨code.take (code.length - value.length), type, name, some initial⟩
  | t => if onlySemicolon ((skipArraySize? t).getD t) then some ⟨code, type, name, none⟩ else none

/-- A declaration is its heading and what completes it. -/
theorem declaration?_eq (code : Text) :
    declaration? code = (heading? code).bind fun heading => completion? code heading.1 heading.2.1 heading.2.2 := by
  unfold declaration? heading?
  dsimp only
  split_ifs with unknown
  · rfl
  · generalize (splitWord (skipQualifiers (trimLeft code).length (trimLeft code))) = split
    cases gap? split.2 with
    | none => rfl
    | some t =>
      simp only [Option.bind_eq_bind, Option.bind_some]
      split_ifs with other
      · rfl
      · rfl

theorem completion?_some {code type name t : Text} {declaration : Declaration} {initial : Text}
    (found : completion? code type name t = some declaration) (valued : declaration.initial = some initial) :
    ∃ rest value, t = '=' :: rest ∧ initial? rest = some (initial, value) ∧
      declaration = ⟨code.take (code.length - value.length), type, name, some initial⟩ := by
  unfold completion? at found
  split at found
  · rename_i rest
    obtain ⟨⟨initial', value⟩, read, completed⟩ := Option.bind_eq_some_iff.mp found
    cases completed
    cases valued
    exact ⟨rest, value, rfl, read, rfl⟩
  · split_ifs at found
    cases found
    cases valued

theorem splitWord_append {w t : Text} (all : ∀ c ∈ w, isWord c = true) (gap : Gap t) : splitWord (w ++ t) = (w, t) := by
  cases w with
  | nil =>
    cases t with
    | nil => rfl
    | cons c rest =>
      have other : isWord c = false := by simpa [Gap] using gap
      simp [splitWord, other]
  | cons c rest =>
    have wordy : IsWord (c :: rest) := ⟨List.cons_ne_nil _ _, all⟩
    rw [splitWord, takeWhile_word wordy gap, dropWhile_word wordy gap]

/-- A text splits into word characters and a rest behind them. -/
theorem splitWord_spec (t : Text) :
    t = (splitWord t).1 ++ (splitWord t).2 ∧ (∀ c ∈ (splitWord t).1, isWord c = true) ∧ Gap (splitWord t).2 := by
  refine ⟨List.takeWhile_append_dropWhile.symm, fun c member => List.mem_takeWhile_imp member, ?_⟩
  have stop := List.head?_dropWhile_not isWord t
  unfold splitWord Gap
  cases found : (t.dropWhile isWord).head? with
  | none => rfl
  | some c => simpa [found] using stop

theorem gap?_append {blanks t : Text} (filled : blanks ≠ []) (blank : ∀ c ∈ blanks, isBlank c = true)
    (stop : t.head?.any isBlank = false) : gap? (blanks ++ t) = some t := by
  have starts : (blanks ++ t).head?.any isBlank = true := by
    obtain ⟨c, rest, rfl⟩ := List.exists_cons_of_ne_nil filled
    simpa using blank c List.mem_cons_self
  rw [gap?, starts, trimLeft_append blank stop]
  rfl

theorem gap?_some {t rest : Text} (found : gap? t = some rest) :
    ∃ blanks, blanks ≠ [] ∧ (∀ c ∈ blanks, isBlank c = true) ∧ t = blanks ++ rest ∧ rest.head?.any isBlank = false := by
  unfold gap? at found
  split_ifs at found with starts
  cases found
  obtain ⟨blanks, blank, whole⟩ := exists_trimLeft t
  refine ⟨blanks, ?_, blank, whole, head?_trimLeft t⟩
  rintro rfl
  have stop := head?_trimLeft t
  rw [← show t = trimLeft t from whole, starts] at stop
  cases stop

theorem not_blank_of_isWord {w : Text} (wordy : IsWord w) (t : Text) : (w ++ t).head?.any isBlank = false := by
  obtain ⟨c, rest, rfl⟩ := List.exists_cons_of_ne_nil wordy.ne_nil
  simpa using isBlank_of_isWord (wordy.all c List.mem_cons_self)

theorem not_blank_of_front {front t w : Text} (stop : (front ++ t).head?.any isBlank = false) (wordy : IsWord w) (u : Text) :
    (front ++ (w ++ u)).head?.any isBlank = false := by
  cases front with
  | nil => exact not_blank_of_isWord wordy u
  | cons c rest => simpa using stop

theorem gap_blank_append {blanks : Text} (filled : blanks ≠ []) (blank : ∀ c ∈ blanks, isBlank c = true) (u : Text) :
    Gap (blanks ++ u) := by
  obtain ⟨c, rest, rfl⟩ := List.exists_cons_of_ne_nil filled
  simpa [Gap] using isWord_of_isBlank (blank c List.mem_cons_self)

/-- A word that is no qualifier is not skipped. -/
theorem skipQualifiers_stop (fuel : Nat) {w t : Text} (wordy : IsWord w) (gap : Gap t) (other : w ∉ qualifiers) :
    skipQualifiers fuel (w ++ t) = w ++ t := by
  cases fuel with
  | zero => rfl
  | succ fuel =>
    rw [skipQualifiers, splitWord_append wordy.all gap]
    simp [other]

/-- Whether a text is made of words and white space. -/
abbrev Spaced (t : Text) : Prop := ∀ c ∈ t, isWord c = true ∨ isBlank c = true

/-- Qualifiers are skipped from the front, whatever word that is none follows them. -/
theorem skipQualifiers_spec (fuel : Nat) (t : Text) :
    ∃ front, t = front ++ skipQualifiers fuel t ∧ Spaced front ∧ (∀ u, words (front ++ u) = words front ++ words u) ∧
      ∀ {w u} (fuel : Nat), IsWord w → Gap u → w ∉ qualifiers → front.length ≤ fuel →
        skipQualifiers fuel (front ++ (w ++ u)) = w ++ u := by
  have none : ∀ t : Text, ∃ front, t = front ++ t ∧ Spaced front ∧ (∀ u, words (front ++ u) = words front ++ words u) ∧
      ∀ {w u} (fuel : Nat), IsWord w → Gap u → w ∉ qualifiers → front.length ≤ fuel →
        skipQualifiers fuel (front ++ (w ++ u)) = w ++ u :=
    fun t => ⟨[], rfl, fun _ member => (List.not_mem_nil member).elim, fun _ => rfl,
      fun {w u} fuel wordy gap other _ => @skipQualifiers_stop fuel w u wordy gap other⟩
  induction fuel generalizing t with
  | zero => exact none t
  | succ fuel ih =>
    rw [skipQualifiers]
    dsimp only
    split_ifs with known
    · cases gapped : gap? (splitWord t).2 with
      | none => exact none t
      | some rest =>
        have known : (splitWord t).1 ∈ qualifiers := List.contains_iff_mem.mp known
        obtain ⟨whole, all, -⟩ := splitWord_spec t
        generalize splitWord t = split at known gapped whole all
        obtain ⟨word, behind⟩ := split
        dsimp only at known gapped whole all ⊢
        have wordy : IsWord word := ⟨by rintro rfl; exact absurd known (by decide), all⟩
        obtain ⟨blanks, filled, blank, rfl, stop⟩ := gap?_some gapped
        obtain ⟨front, rest_eq, spaced, words_eq, forward⟩ := ih rest
        generalize skipQualifiers fuel rest = last at rest_eq
        subst rest_eq
        have gap : ∀ u, Gap (blanks ++ u) := gap_blank_append filled blank
        have spaced : Spaced (word ++ (blanks ++ front)) := by
          intro c member
          simp only [List.mem_append] at member
          exact member.elim (fun inside => .inl (all c inside)) fun later => later.elim (fun white => .inr (blank c white)) (spaced c)
        refine ⟨word ++ (blanks ++ front), by simp [whole], spaced, fun u => ?_, fun {w u} more isWord' gap' other enough => ?_⟩
        · rw [List.append_assoc, List.append_assoc, words_append wordy (gap _), words_append wordy (gap _),
            words_blank_append blank, words_blank_append blank, words_eq, List.cons_append]
        · have positive : 0 < word.length := List.length_pos_iff.mpr wordy.ne_nil
          simp only [List.length_append] at enough
          obtain ⟨more, rfl⟩ : ∃ n, more = n + 1 := ⟨more - 1, by omega⟩
          have head := not_blank_of_front stop isWord' u
          rw [List.append_assoc, List.append_assoc, skipQualifiers, splitWord_append wordy.all (gap _)]
          simp only [List.contains_iff_mem.mpr known, ↓reduceIte, gap?_append filled blank head]
          exact forward more isWord' gap' other (by omega)
    · exact none t

theorem declarableType_not_qualifier {type : Text} (known : type ∈ declarableTypes) : type ∉ qualifiers := by
  have apart : ∀ word ∈ qualifiers, word ∉ declarableTypes := by decide
  exact fun both => apart type both known

/-- Behind qualifiers, a type and a name are a heading, whatever follows them that goes on with neither. -/
private theorem heading?_append {blanks front type blanks₃ name blanks₅ t : Text}
    (blank : ∀ c ∈ blanks, isBlank c = true) (stop : (front ++ type).head?.any isBlank = false)
    (forward : ∀ {w u} (fuel : Nat), IsWord w → Gap u → w ∉ qualifiers → front.length ≤ fuel →
      skipQualifiers fuel (front ++ (w ++ u)) = w ++ u)
    (known : type ∈ declarableTypes) (typeWord : IsWord type) (filled₃ : blanks₃ ≠ [])
    (blank₃ : ∀ c ∈ blanks₃, isBlank c = true) (identifier : isIdentifier name = true)
    (blank₅ : ∀ c ∈ blanks₅, isBlank c = true) (gap : Gap t) (stop' : t.head?.any isBlank = false) :
    heading? (blanks ++ (front ++ (type ++ (blanks₃ ++ (name ++ (blanks₅ ++ t)))))) = some (type, name, t) := by
  have nameWord := isWord_of_isIdentifier identifier
  have gap₃ := fun u => gap_blank_append filled₃ blank₃ u
  have gap₅ : Gap (blanks₅ ++ t) := by
    cases blanks₅ with
    | nil => exact gap
    | cons c others => exact gap_blank_append (List.cons_ne_nil _ _) blank₅ _
  have stop₁ := not_blank_of_front stop typeWord (blanks₃ ++ (name ++ (blanks₅ ++ t)))
  unfold heading?
  rw [trimLeft_append blank stop₁]
  dsimp only
  rw [forward _ typeWord (gap₃ _) (declarableType_not_qualifier known) (by simp), splitWord_append typeWord.all (gap₃ _)]
  simp only [List.contains_iff_mem.mpr known, Bool.not_true, Bool.false_eq_true, ↓reduceIte,
    gap?_append filled₃ blank₃ (not_blank_of_isWord nameWord _), Option.bind_eq_bind, Option.bind_some,
    splitWord_append nameWord.all gap₅, identifier, trimLeft_append blank₅ stop']

/-- A heading is a type and a name, made of words and white space, and it does not depend on what follows it. -/
theorem heading?_some {code type name t : Text} (found : heading? code = some (type, name, t)) :
    type ∈ declarableTypes ∧ isIdentifier name = true ∧ name ∈ words code ∧ ∃ front, code = front ++ t ∧ Spaced front ∧
      ∀ u, Gap u → u.head?.any isBlank = false → heading? (front ++ u) = some (type, name, u) := by
  unfold heading? at found
  dsimp only at found
  obtain ⟨blanks, blank, codeSplit⟩ := exists_trimLeft code
  have headCode := head?_trimLeft code
  generalize trimLeft code = t₁ at found codeSplit headCode
  obtain ⟨front, split₁, spaced, words_eq, forward⟩ := skipQualifiers_spec t₁.length t₁
  generalize skipQualifiers t₁.length t₁ = t₂ at found split₁
  obtain ⟨split₂, all₂, -⟩ := splitWord_spec t₂
  generalize splitWord t₂ = pair₂ at found split₂ all₂
  obtain ⟨type', t₃⟩ := pair₂
  dsimp only at found split₂ all₂
  split_ifs at found with unknown
  have known : type' ∈ declarableTypes := by simpa using unknown
  obtain ⟨t₄, gapped, found⟩ := Option.bind_eq_some_iff.mp found
  obtain ⟨blanks₃, filled₃, blank₃, split₃, -⟩ := gap?_some gapped
  obtain ⟨split₄, all₄, gap₄⟩ := splitWord_spec t₄
  generalize splitWord t₄ = pair₄ at found split₄ all₄ gap₄
  obtain ⟨name', t₅⟩ := pair₄
  dsimp only at found split₄ all₄ gap₄
  split_ifs at found with other
  have identifier : isIdentifier name' = true := by simpa using other
  cases found
  obtain ⟨blanks₅, blank₅, split₅⟩ := exists_trimLeft t₅
  have typeWord : IsWord type := ⟨by rintro rfl; exact absurd known (by decide), all₂⟩
  refine ⟨known, identifier, ?_, blanks ++ (front ++ (type ++ (blanks₃ ++ (name ++ blanks₅)))), ?_, ?_, fun u gap stop' => ?_⟩
  · rw [codeSplit, split₁, split₂, split₃, split₄, words_blank_append blank, words_eq,
      words_append typeWord (gap_blank_append filled₃ blank₃ _), words_blank_append blank₃,
      words_append (isWord_of_isIdentifier identifier) gap₄]
    simp
  · simp only [codeSplit, split₁, split₂, split₃, split₄, List.append_assoc, ← split₅]
  · intro c member
    simp only [List.mem_append] at member
    rcases member with white | inside | inside | white | inside | white
    · exact .inr (blank c white)
    · exact spaced c inside
    · exact .inl (all₂ c inside)
    · exact .inr (blank₃ c white)
    · exact .inl (all₄ c inside)
    · exact .inr (blank₅ c white)
  · have stop : (front ++ type).head?.any isBlank = false := by
      have head := not_blank_of_front (split₁ ▸ headCode) typeWord []
      rwa [List.append_nil] at head
    simp only [List.append_assoc]
    exact heading?_append blank stop forward known typeWord filled₃ blank₃ identifier blank₅ gap stop'

/-! ## Changing the words -/

/-- A change of words that keeps apart what a declaration is made of: no qualifier and no type comes or goes but
for types that are not told any more, and an identifier stays one. -/
structure Faithful (change : Text → Text) : Prop where
  keeps : KeepsWords change
  qualifier : ∀ w, IsWord w → (change w ∈ qualifiers ↔ w ∈ qualifiers)
  type : ∀ w, IsWord w → change w ∈ declarableTypes → change w = w
  identifier : ∀ w, IsWord w → isIdentifier (change w) = isIdentifier w

section Faithful

variable {change : Text → Text}

theorem splitWord_mapWords (keeps : KeepsWords change) (t : Text) :
    splitWord (mapWords change t) = (mapWords change (splitWord t).1, mapWords change (splitWord t).2) := by
  obtain ⟨whole, all, gap⟩ := splitWord_spec t
  have gap' := gap_mapWords change gap
  by_cases empty : (splitWord t).1 = []
  · rw [empty, List.nil_append] at whole
    rw [empty, mapWords_nil, ← whole]
    rw [← whole] at gap'
    exact @splitWord_append [] _ (fun _ member => (List.not_mem_nil member).elim) gap'
  · have wordy : IsWord (splitWord t).1 := ⟨empty, all⟩
    have split := mapWords_append wordy gap change
    rw [← whole] at split
    rw [split, mapWords_of_isWord wordy, splitWord_append (keeps _ wordy).all gap']

theorem gap?_mapWords (keeps : KeepsWords change) (t : Text) :
    gap? (mapWords change t) = (gap? t).map (mapWords change) := by
  unfold gap?
  rw [head?_mapWords keeps fun _ => isWord_of_isBlank, trimLeft_mapWords keeps]
  split_ifs <;> rfl

/-- What a word becomes, also where there is none. -/
theorem mem_qualifiers_mapWords (faithful : Faithful change) (t : Text) :
    qualifiers.contains (mapWords change (splitWord t).1) = qualifiers.contains (splitWord t).1 := by
  obtain ⟨-, all, -⟩ := splitWord_spec t
  by_cases empty : (splitWord t).1 = []
  · rw [empty, mapWords_nil]
  · have wordy : IsWord (splitWord t).1 := ⟨empty, all⟩
    rw [mapWords_of_isWord wordy, Bool.eq_iff_iff, List.contains_iff_mem, List.contains_iff_mem]
    exact faithful.qualifier _ wordy

theorem skipQualifiers_mapWords (faithful : Faithful change) (fuel : Nat) (t : Text) :
    skipQualifiers fuel (mapWords change t) = mapWords change (skipQualifiers fuel t) := by
  induction fuel generalizing t with
  | zero => rfl
  | succ fuel ih =>
    rw [skipQualifiers, skipQualifiers, splitWord_mapWords faithful.keeps]
    dsimp only
    rw [mem_qualifiers_mapWords faithful, gap?_mapWords faithful.keeps]
    split_ifs
    · cases gap? (splitWord t).2 with
      | none => rfl
      | some rest => exact ih rest
    · rfl

/-- There are no more qualifiers than characters. -/
theorem skipQualifiers_fuel {fuel fuel' : Nat} {t : Text} (enough : t.length ≤ fuel) (enough' : t.length ≤ fuel') :
    skipQualifiers fuel t = skipQualifiers fuel' t := by
  have short : ∀ fuel : Nat, skipQualifiers fuel [] = [] := by
    intro fuel
    cases fuel with
    | zero => rfl
    | succ fuel => rfl
  induction fuel generalizing fuel' t with
  | zero =>
    obtain rfl := List.eq_nil_of_length_eq_zero (Nat.le_zero.mp enough)
    rw [short, short]
  | succ fuel ih =>
    cases fuel' with
    | zero =>
      obtain rfl := List.eq_nil_of_length_eq_zero (Nat.le_zero.mp enough')
      rw [short, short]
    | succ fuel' =>
      rw [skipQualifiers, skipQualifiers]
      dsimp only
      split_ifs with known
      · cases gapped : gap? (splitWord t).2 with
        | none => rfl
        | some rest =>
          obtain ⟨whole, -, -⟩ := splitWord_spec t
          obtain ⟨blanks, filled, -, behind, -⟩ := gap?_some gapped
          have size := congrArg List.length whole
          have positive := List.length_pos_iff.mpr filled
          rw [behind, List.length_append, List.length_append] at size
          exact ih (by omega) (by omega)
      · rfl

theorem skipQualifiers_length_mapWords (faithful : Faithful change) (t : Text) :
    skipQualifiers (mapWords change t).length (mapWords change t) = mapWords change (skipQualifiers t.length t) := by
  have long : t.length ≤ max (mapWords change t).length t.length := Nat.le_max_right _ _
  rw [skipQualifiers_fuel (Nat.le_refl _) (Nat.le_max_left _ t.length), skipQualifiers_mapWords faithful,
    skipQualifiers_fuel long (Nat.le_refl _)]

/-- The heading of a changed line is the changed heading. -/
theorem heading?_mapWords (faithful : Faithful change) {code type name t : Text}
    (found : heading? (mapWords change code) = some (type, name, t)) :
    ∃ name t', heading? code = some (type, name, t') ∧ t = mapWords change t' := by
  have keeps := faithful.keeps
  unfold heading? at found ⊢
  rw [trimLeft_mapWords keeps] at found
  dsimp only at found ⊢
  rw [skipQualifiers_length_mapWords faithful, splitWord_mapWords keeps] at found
  generalize skipQualifiers (trimLeft code).length (trimLeft code) = t₂ at found ⊢
  obtain ⟨-, all, -⟩ := splitWord_spec t₂
  generalize splitWord t₂ = split at found all ⊢
  obtain ⟨word, t₃⟩ := split
  dsimp only at found all ⊢
  split_ifs at found with unknown
  have known : mapWords change word ∈ declarableTypes := by simpa using unknown
  have filled : word ≠ [] := by
    rintro rfl
    rw [mapWords_nil] at known
    exact absurd known (by decide)
  have wordy : IsWord word := ⟨filled, all⟩
  have alone := mapWords_of_isWord wordy change
  have same : mapWords change word = word := alone.trans (faithful.type word wordy (alone ▸ known))
  rw [same] at known found
  rw [gap?_mapWords keeps] at found
  simp only [List.contains_iff_mem.mpr known, Bool.not_true, Bool.false_eq_true, ↓reduceIte]
  cases gapped : gap? t₃ with
  | none => rw [gapped] at found; cases found
  | some t₄ =>
    rw [gapped] at found
    simp only [Option.map_some, Option.bind_eq_bind, Option.bind_some, splitWord_mapWords keeps] at found ⊢
    obtain ⟨-, all, -⟩ := splitWord_spec t₄
    generalize splitWord t₄ = split at found all ⊢
    obtain ⟨name', t₅⟩ := split
    dsimp only at found all ⊢
    split_ifs at found with other
    have identifier : isIdentifier name' = true := by
      have identifier : isIdentifier (mapWords change name') = true := by simpa using other
      have filled : name' ≠ [] := by
        rintro rfl
        rw [mapWords_nil] at identifier
        cases identifier
      have wordy : IsWord name' := ⟨filled, all⟩
      rwa [mapWords_of_isWord wordy, faithful.identifier name' wordy] at identifier
    cases found
    refine ⟨name', trimLeft t₅, by simp [identifier], trimLeft_mapWords keeps t₅⟩

theorem dropSemicolon?_eq (t : Text) :
    dropSemicolon? t =
      if (trimRight t).getLast?.any (· == ';') = true then some (trimRight (trimRight t).dropLast) else none := by
  unfold dropSemicolon?
  rcases List.eq_nil_or_concat (trimRight t) with empty | ⟨front, last, whole⟩
  · rw [empty]
    rfl
  · rw [whole, List.concat_eq_append, List.reverse_concat]
    split
    · rename_i same
      cases same
      simp
    · rename_i other
      have differ : last ≠ ';' := by
        rintro rfl
        exact other front.reverse rfl
      simp [differ]

theorem dropSemicolon?_mapWords (keeps : KeepsWords change) (t : Text) :
    dropSemicolon? (mapWords change t) = (dropSemicolon? t).map (mapWords change) := by
  have outside : ∀ c : Char, (c == ';') = true → isWord c = false := by
    intro c same
    obtain rfl := beq_iff_eq.mp same
    decide
  rw [dropSemicolon?_eq, dropSemicolon?_eq, trimRight_mapWords keeps, getLast?_mapWords keeps outside]
  split_ifs with last
  · rcases List.eq_nil_or_concat (trimRight t) with empty | ⟨front, c, whole⟩
    · rw [empty] at last
      cases last
    · rw [whole, List.concat_eq_append] at last ⊢
      have own : (c == ';') = true := by simpa using last
      have gap : Gap [c] := by simpa [Gap] using outside c own
      rw [mapWords_append_of_gap change front gap, mapWords_cons (outside c own), mapWords_nil, List.dropLast_concat,
        List.dropLast_concat, trimRight_mapWords keeps, Option.map_some]
  · rfl

theorem takeWhile_isBlank_mapWords (keeps : KeepsWords change) (t : Text) :
    (mapWords change t).takeWhile isBlank = t.takeWhile isBlank := by
  obtain ⟨blanks, blank, whole⟩ := exists_trimLeft t
  have alone : ∀ u : Text, u.head?.any isBlank = false → (blanks ++ u).takeWhile isBlank = blanks := by
    intro u stop
    rw [List.takeWhile_append_of_pos blank]
    cases u with
    | nil => simp
    | cons c rest =>
      have stop : isBlank c = false := by simpa using stop
      simp [stop]
  have split := mapWords_blank_append change blank (trimLeft t)
  have before := alone (trimLeft t) (head?_trimLeft t)
  have behind := alone (mapWords change (trimLeft t))
    (by rw [head?_mapWords keeps fun _ => isWord_of_isBlank, head?_trimLeft])
  rw [← whole] at split before
  rw [split, behind, before]

/-- The initial value of a changed line is the changed initial value. -/
theorem initial?_mapWords (keeps : KeepsWords change) (t : Text) :
    (initial? (mapWords change t)).map (·.1) = (initial? t).map fun found => mapWords change found.1 := by
  unfold initial?
  rw [trimLeft_mapWords keeps]
  dsimp only
  rw [dropSemicolon?_mapWords keeps, takeWhile_isBlank_mapWords keeps]
  cases dropSemicolon? (trimLeft t) with
  | none => rfl
  | some initial =>
    cases initial with
    | nil =>
      simp only [Option.map_some, mapWords_nil]
      cases last : (t.takeWhile isBlank).getLast? with
      | none => rfl
      | some blank =>
        have white := List.mem_takeWhile_imp (List.mem_of_getLast? last)
        simp [mapWords_cons (isWord_of_isBlank white)]
    | cons c rest =>
      have filled : mapWords change (c :: rest) ≠ [] := fun empty => by simp [mapWords_eq_nil keeps] at empty
      obtain ⟨d, others, listed⟩ := List.exists_cons_of_ne_nil filled
      simp only [Option.map_some, listed]

theorem isIdentifier_mapWords (faithful : Faithful change) (t : Text) :
    isIdentifier (mapWords change (splitWord t).1) = isIdentifier (splitWord t).1 := by
  obtain ⟨-, all, -⟩ := splitWord_spec t
  by_cases empty : (splitWord t).1 = []
  · rw [empty, mapWords_nil]
  · have wordy : IsWord (splitWord t).1 := ⟨empty, all⟩
    rw [mapWords_of_isWord wordy, faithful.identifier _ wordy]

theorem declaresMore_word {w : Text} (all : ∀ c ∈ w, isWord c = true) (t : Text) :
    declaresMore (w ++ t) = declaresMore t := by
  induction w with
  | nil => rfl
  | cons c rest ih =>
    have differ : (c == ',') = false := by
      rw [beq_eq_false_iff_ne]
      rintro rfl
      exact absurd (all _ List.mem_cons_self) (by decide)
    rw [List.cons_append, declaresMore, differ, Bool.false_and, Bool.false_or,
      ih fun d member => all d (List.mem_cons_of_mem c member)]

/-- A further declarator stays one. -/
theorem declaresMore_mapWords (faithful : Faithful change) (t : Text) :
    declaresMore (mapWords change t) = declaresMore t := by
  have keeps := faithful.keeps
  induction t using word_induction with
  | nil => rw [mapWords_nil]
  | other c rest other ih =>
    have outside : ∀ d : Char, (d == '=') = true → isWord d = false := by
      intro d same
      obtain rfl := beq_iff_eq.mp same
      decide
    have head : ∀ u : Text, u.head?.all (· == '=') = (u.isEmpty || u.head?.any (· == '=')) := by
      intro u
      cases u <;> rfl
    have empty : ∀ u, (mapWords change u).isEmpty = u.isEmpty := fun u => by
      rw [Bool.eq_iff_iff, List.isEmpty_iff, List.isEmpty_iff, mapWords_eq_nil keeps]
    rw [mapWords_cons other, declaresMore, declaresMore, ih, trimLeft_mapWords keeps, splitWord_mapWords keeps]
    dsimp only
    rw [isIdentifier_mapWords faithful, trimLeft_mapWords keeps, head, head, empty, head?_mapWords keeps outside]
  | word w rest wordy gap ih =>
    rw [mapWords_append wordy gap, declaresMore_word (keeps w wordy).all, ih, declaresMore_word wordy.all]

/-- A changed line declares an initial value of a type if the line did, and the value is the changed one. -/
theorem declaration?_mapWords (faithful : Faithful change) {code : Text} {declaration : Declaration} {initial : Text}
    (found : declaration? (mapWords change code) = some declaration) (valued : declaration.initial = some initial) :
    ∃ declaration' initial', declaration? code = some declaration' ∧ declaration'.type = declaration.type ∧
      declaration'.initial = some initial' ∧ initial = mapWords change initial' := by
  rw [declaration?_eq] at found ⊢
  obtain ⟨⟨type, name, t⟩, headed, completed⟩ := Option.bind_eq_some_iff.mp found
  obtain ⟨name', t', headed', rfl⟩ := heading?_mapWords faithful headed
  obtain ⟨rest, value, begins, read, rfl⟩ := completion?_some completed valued
  obtain ⟨rest', rfl, rfl⟩ := mapWords_eq_cons faithful.keeps (by decide) begins
  have values := initial?_mapWords faithful.keeps rest'
  rw [read, Option.map_some] at values
  obtain ⟨⟨initial', value'⟩, read', same⟩ := Option.map_eq_some_iff.mp values.symm
  refine ⟨⟨code.take (code.length - value'.length), type, name', some initial'⟩, initial', ?_, rfl, rfl, same.symm⟩
  rw [headed', Option.bind_some, completion?, read']
  rfl

end Faithful

/-! ## Another initial value -/

theorem beforeComment_of_append {front : Text} (back : Text) (plain : beforeComment (front ++ back) = front ++ back) :
    beforeComment front = front := by
  induction front with
  | nil => rfl
  | cons c rest ih =>
    rw [List.cons_append, beforeComment_cons] at plain
    split_ifs at plain with comment
    rw [beforeComment_cons, ih (List.cons.inj plain).2, if_neg]
    intro slashes
    refine comment ?_
    cases rest with
    | nil => simp at slashes
    | cons d others => exact slashes

theorem beforeComment_beforeComment (t : Text) : beforeComment (beforeComment t) = beforeComment t := by
  induction t with
  | nil => rfl
  | cons c rest ih =>
    rw [beforeComment_cons]
    split_ifs with comment
    · rfl
    · rw [beforeComment_cons, ih, if_neg]
      intro slashes
      refine comment ?_
      cases rest with
      | nil => exact slashes
      | cons d others =>
        rw [beforeComment_cons] at slashes
        split_ifs at slashes
        · simp at slashes
        · exact slashes

/-- There is no comment in the code of a line. -/
theorem beforeComment_ofLine (line : Text) : beforeComment (ofLine line) = ofLine line := by
  obtain ⟨blanks, -, whole⟩ := exists_trimRight (beforeComment line)
  refine beforeComment_of_append blanks ?_
  rw [ofLine, ← whole, beforeComment_beforeComment]

/-- What stands in front of an equals sign begins no comment with what follows it. -/
theorem beforeComment_equals {front rest : Text} (plain : beforeComment (front ++ '=' :: rest) = front ++ '=' :: rest)
    {u : Text} (plain' : '/' ∉ u) : beforeComment (front ++ '=' :: u) = front ++ '=' :: u := by
  induction front with
  | nil =>
    have whole : '/' ∉ '=' :: u := fun member => (List.mem_cons.mp member).elim (by decide) plain'
    simpa [beforeComment] using beforeComment_append whole []
  | cons c others ih =>
    rw [List.cons_append, beforeComment_cons] at plain ⊢
    split_ifs at plain with comment
    rw [ih (List.cons.inj plain).2, if_neg]
    intro slashes
    refine comment ?_
    cases others with
    | nil => simp at slashes
    | cons d others => exact slashes

/-- An initial value stands behind white space. -/
theorem initial?_some {t initial value : Text} (found : initial? t = some (initial, value)) :
    ∃ blanks, (∀ c ∈ blanks, isBlank c = true) ∧ t = blanks ++ value := by
  unfold initial? at found
  dsimp only at found
  have blank : ∀ c ∈ t.takeWhile isBlank, isBlank c = true := fun c member => List.mem_takeWhile_imp member
  have whole : t = t.takeWhile isBlank ++ trimLeft t := List.takeWhile_append_dropWhile.symm
  split at found
  · cases found
  · split at found
    · rename_i last listed
      cases found
      obtain ⟨front, listed⟩ := List.getLast?_eq_some_iff.mp listed
      refine ⟨front, fun c member => blank c (listed ▸ List.mem_append_left _ member), ?_⟩
      rw [listed, List.append_assoc] at whole
      exact whole
    · cases found
  · cases found
    exact ⟨_, blank, whole⟩

/-- A value that can stand behind an equals sign as it is. -/
structure Tight (value : Text) : Prop where
  begins : value.head?.any (!isBlank ·) = true
  ends : value.getLast?.any isBlank = false
  plain : '/' ∉ value

instance (value : Text) : Decidable (Tight value) :=
  decidable_of_iff (value.head?.any (!isBlank ·) = true ∧ value.getLast?.any isBlank = false ∧ '/' ∉ value)
    ⟨fun ⟨a, b, c⟩ => ⟨a, b, c⟩, fun ⟨a, b, c⟩ => ⟨a, b, c⟩⟩

theorem Tight.stop {value : Text} (tight : Tight value) : value.head?.any isBlank = false := by
  cases value with
  | nil => rfl
  | cons c rest => simpa using tight.begins

theorem Tight.trim_eq {value : Text} (tight : Tight value) : trim value = value := by
  rw [trim, trimLeft_of_stop tight.stop, trimRight_of_stop tight.ends]

theorem initial?_tight {blanks value : Text} (blank : ∀ c ∈ blanks, isBlank c = true) (tight : Tight value) :
    initial? (blanks ++ (value ++ [';'])) = some (value, value ++ [';']) := by
  obtain ⟨c, rest, rfl⟩ : ∃ c rest, value = c :: rest := by
    cases value with
    | nil => exact absurd tight.begins (by decide)
    | cons c rest => exact ⟨c, rest, rfl⟩
  have stop : (c :: rest ++ [';']).head?.any isBlank = false := by simpa using tight.begins
  have last : (c :: rest ++ [';']).getLast?.any isBlank = false := by
    rw [List.getLast?_append]
    rfl
  unfold initial?
  dsimp only
  rw [trimLeft_append blank stop, dropSemicolon?_eq, trimRight_of_stop last, List.getLast?_append, List.dropLast_concat,
    trimRight_of_stop tight.ends]
  rfl

/-- What the front of a declaration with an initial value is made of. -/
theorem lead_eq {code : Text} {declaration : Declaration} {initial : Text}
    (found : declaration? code = some declaration) (valued : declaration.initial = some initial) :
    ∃ front blanks rest, Spaced front ∧ (∀ c ∈ blanks, isBlank c = true) ∧ code = front ++ '=' :: (blanks ++ rest) ∧
      declaration.lead = front ++ '=' :: blanks ∧
      ∀ u, heading? (front ++ '=' :: u) = some (declaration.type, declaration.name, '=' :: u) := by
  rw [declaration?_eq] at found
  obtain ⟨⟨type, name, t⟩, headed, completed⟩ := Option.bind_eq_some_iff.mp found
  obtain ⟨rest, value, begins, read, rfl⟩ := completion?_some completed valued
  obtain rfl : t = '=' :: rest := begins
  obtain ⟨-, -, -, front, rfl, spaced, forward⟩ := heading?_some headed
  obtain ⟨blanks, blank, rfl⟩ := initial?_some read
  refine ⟨front, blanks, value, spaced, blank, rfl, ?_, fun u => forward _ rfl rfl⟩
  have size : (front ++ '=' :: (blanks ++ value)).length - value.length = (front ++ '=' :: blanks).length := by
    simp only [List.length_append, List.length_cons]
    omega
  rw [size, show front ++ '=' :: (blanks ++ value) = (front ++ '=' :: blanks) ++ value by simp, List.take_left']
  rfl

/-- With another value in its place, a line is all code. -/
theorem ofLine_lead {line : Text} {declaration : Declaration} {initial value : Text}
    (found : declaration? (ofLine line) = some declaration) (valued : declaration.initial = some initial)
    (tight : Tight value) : ofLine (declaration.lead ++ value ++ [';']) = declaration.lead ++ value ++ [';'] := by
  obtain ⟨front, blanks, rest, -, blank, whole, leads, -⟩ := lead_eq found valued
  have line_eq : declaration.lead ++ value ++ [';'] = front ++ '=' :: (blanks ++ (value ++ [';'])) := by
    rw [leads]
    simp
  have plain : '/' ∉ blanks ++ (value ++ [';']) := by
    intro member
    rcases List.mem_append.mp member with white | member
    · exact absurd (blank _ white) (by decide)
    · rcases List.mem_append.mp member with inside | last
      · exact tight.plain inside
      · exact absurd last (by decide)
  have uncommented := beforeComment_equals (whole ▸ beforeComment_ofLine line) plain
  rw [ofLine, line_eq, uncommented, ← line_eq, trimRight_of_stop]
  rw [List.getLast?_append]
  rfl

/-- With another value in its place, a line declares that value and nothing else changes. -/
theorem declaration?_lead {line : Text} {declaration : Declaration} {initial value : Text}
    (found : declaration? (ofLine line) = some declaration) (valued : declaration.initial = some initial)
    (tight : Tight value) :
    ∃ declaration', declaration? (ofLine (declaration.lead ++ value ++ [';'])) = some declaration' ∧
      declaration'.type = declaration.type ∧ declaration'.initial = some value := by
  obtain ⟨front, blanks, rest, -, blank, -, leads, forward⟩ := lead_eq found valued
  have line_eq : declaration.lead ++ value ++ [';'] = front ++ '=' :: (blanks ++ (value ++ [';'])) := by
    rw [leads]
    simp
  have completed := initial?_tight blank tight
  rw [ofLine_lead found valued tight, line_eq, declaration?_eq, forward, Option.bind_some, completion?, completed]
  exact ⟨_, rfl, rfl, rfl⟩

/-- The words of the front of a declaration are words of the line. -/
theorem words_lead_subset {code : Text} {declaration : Declaration} {initial : Text}
    (found : declaration? code = some declaration) (valued : declaration.initial = some initial) (value : Text) :
    words (declaration.lead ++ value ++ [';']) ⊆ words code ++ words value := by
  obtain ⟨front, blanks, rest, -, blank, rfl, leads, -⟩ := lead_eq found valued
  have gap : ∀ u, Gap ('=' :: u) := fun u => rfl
  rw [leads, show front ++ '=' :: blanks ++ value ++ [';'] = front ++ '=' :: (blanks ++ (value ++ [';'])) by simp,
    words_append_of_gap front (gap _), words_append_of_gap front (gap _), words_cons (by decide), words_cons (by decide),
    words_blank_append blank, words_append_of_gap value (show Gap [';'] from rfl), words_cons (by decide),
    List.append_assoc]
  intro w member
  rcases List.mem_append.mp member with before | inside
  · exact List.mem_append_left _ before
  · refine List.mem_append_right _ (List.mem_append_right _ ?_)
    rwa [show words [] = [] from rfl, List.append_nil] at inside

theorem completion?_parts {code type name t : Text} {declaration : Declaration}
    (completed : completion? code type name t = some declaration) :
    declaration.type = type ∧ declaration.name = name ∧ declaration.lead ⊆ code := by
  unfold completion? at completed
  split at completed
  · obtain ⟨_, -, completed⟩ := Option.bind_eq_some_iff.mp completed
    cases completed
    exact ⟨rfl, rfl, List.take_subset _ code⟩
  · split_ifs at completed
    cases completed
    exact ⟨rfl, rfl, List.Subset.refl code⟩

/-- A declaration is found by its type, and begins like the line of code. -/
theorem declaration?_some {code : Text} {declaration : Declaration} (found : declaration? code = some declaration) :
    declaration.type ∈ declarableTypes ∧ declaration.lead ⊆ code := by
  rw [declaration?_eq] at found
  obtain ⟨⟨type, name, t⟩, headed, completed⟩ := Option.bind_eq_some_iff.mp found
  obtain ⟨sameType, -, lead⟩ := completion?_parts completed
  exact ⟨sameType ▸ (heading?_some headed).1, lead⟩

/-- A declared name is a word of the line. -/
theorem name_mem_words {code : Text} {declaration : Declaration} (found : declaration? code = some declaration) :
    isIdentifier declaration.name = true ∧ declaration.name ∈ words code := by
  rw [declaration?_eq] at found
  obtain ⟨⟨type, name, t⟩, headed, completed⟩ := Option.bind_eq_some_iff.mp found
  obtain ⟨-, identifier, member, -⟩ := heading?_some headed
  obtain ⟨-, rfl, -⟩ := completion?_parts completed
  exact ⟨identifier, member⟩

end ShaderShrink.Code
