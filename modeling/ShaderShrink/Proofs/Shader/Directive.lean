import ShaderShrink.Proofs.Shader.Declaration
import ShaderShrink.Shader.Version

/-!
# Version directives on a line of their own

A directive may go on below its line: the profile, and the end of the directive, are looked for behind any white
space.  What is read from the first of some joined lines is nevertheless what stands on that line, unless it names
no profile and a line with nothing but the name of a profile comes below it.
-/

namespace ShaderShrink

open Text

namespace Text

theorem drop?_cons (a c : Char) (p t : Text) : drop? (a :: p) (c :: t) = if a = c then drop? p t else none := by
  by_cases same : a = c <;> simp [drop?, startsWith, List.isPrefixOf, same]

/-- A part without line feeds stands in front of a line feed or not at all. -/
theorem drop?_append_lineFeed {p : Text} (plain : '\n' ∉ p) (t u : Text) :
    drop? p (t ++ '\n' :: u) = (drop? p t).map (· ++ '\n' :: u) := by
  induction p generalizing t with
  | nil => rfl
  | cons a p ih =>
    cases t with
    | nil =>
      have apart : a ≠ '\n' := by
        rintro rfl
        exact plain List.mem_cons_self
      rw [List.nil_append, drop?_cons, if_neg apart]
      rfl
    | cons c t =>
      rw [List.cons_append, drop?_cons, drop?_cons, ih fun member => plain (List.mem_cons_of_mem a member)]
      split_ifs <;> rfl

theorem drop?_some {p t rest : Text} (found : drop? p t = some rest) : t = p ++ rest := by
  unfold drop? at found
  split_ifs at found with starts
  cases found
  exact (List.prefix_iff_eq_append.mp (List.isPrefixOf_iff_prefix.mp starts)).symm

theorem trimLeft_append_of_ne_nil {t : Text} (filled : trimLeft t ≠ []) (u : Text) :
    trimLeft (t ++ u) = trimLeft t ++ u := by
  unfold trimLeft at filled ⊢
  rw [List.dropWhile_append, if_neg (by simpa using filled)]

theorem trimLeft_append_of_nil {t : Text} (empty : trimLeft t = []) (u : Text) : trimLeft (t ++ u) = trimLeft u := by
  unfold trimLeft at empty ⊢
  rw [List.dropWhile_append, if_pos (by simpa using empty)]

theorem unbroken_trimLeft {t : Text} (unbroken : Unbroken t) : Unbroken (trimLeft t) :=
  unbroken.of_subset (List.dropWhile_suffix _).subset

theorem unbroken_of_drop? {p t rest : Text} (unbroken : Unbroken t) (found : drop? p t = some rest) : Unbroken rest := by
  rw [drop?_some found] at unbroken
  exact fun c member => unbroken c (List.mem_append_right p member)

/-- White space at the end reaches at most to a character that is none. -/
theorem trimRight_append_cons {c : Char} (visible : isBlank c = false) (t u : Text) :
    trimRight (t ++ c :: u) = t ++ c :: trimRight u := by
  unfold trimRight
  rw [List.reverse_append, List.reverse_cons, List.append_assoc, List.dropWhile_append]
  split_ifs with empty
  · rw [List.isEmpty_iff.mp empty]
    simp [visible]
  · simp

end Text

namespace Version

/-! ## Reading over the end of a line -/

theorem endsLine_cons {c : Char} (inside : c ≠ '\n') (t : Text) : endsLine (c :: t) = (isBlank c && endsLine t) := by
  unfold endsLine
  cases blank : isBlank c with
  | false => simp [blank]
  | true => simp [blank, Ne.symm inside]

/-- Whether a line goes on with nothing but white space does not depend on what comes below it. -/
theorem endsLine_append {t : Text} (unbroken : Unbroken t) (u : Text) : endsLine (t ++ '\n' :: u) = endsLine t := by
  induction t with
  | nil => simp [endsLine, isBlank]
  | cons c rest ih =>
    have inside : c ≠ '\n' := by
      rintro rfl
      exact absurd (unbroken '\n' List.mem_cons_self) (by decide)
    rw [List.cons_append, endsLine_cons inside, endsLine_cons inside,
      ih fun d member => unbroken d (List.mem_cons_of_mem c member)]

theorem blank_of_endsLine {t : Text} (unbroken : Unbroken t) (ends : endsLine t = true) : ∀ c ∈ t, isBlank c = true := by
  rcases Bool.or_eq_true_iff.mp ends with all | below
  · exact List.dropWhile_eq_nil_iff.mp (List.isEmpty_iff.mp all)
  · have member := (List.takeWhile_prefix isBlank).subset (List.contains_iff_mem.mp below)
    exact absurd (unbroken '\n' member) (by decide)

/-- The profile behind white space. -/
def profileBehind? (t : Text) : Option Profile :=
  [Profile.es, .core, .compatibility].find? fun profile => (drop? profile.name.toList (trimLeft t)).any endsLine

/-- Whether nothing but the name of a profile stands on a line. -/
def NamesProfile (line : Text) : Prop := ∃ profile ∈ [Profile.es, .core, .compatibility], trim line = profile.name.toList

instance (line : Text) : Decidable (NamesProfile line) :=
  inferInstanceAs (Decidable (∃ profile ∈ [Profile.es, .core, .compatibility], trim line = profile.name.toList))

theorem lineFeed_notMem_name (profile : Profile) : '\n' ∉ profile.name.toList := by cases profile <;> decide

/-- The profile is read from the first line that is not blank, whatever comes below that. -/
theorem profileBehind?_append {t : Text} (unbroken : Unbroken t) (u : Text) :
    profileBehind? (t ++ '\n' :: u) = if trimLeft t = [] then profileBehind? u else profileBehind? t := by
  split_ifs with empty
  · rw [profileBehind?, trimLeft_append_of_nil empty]
    rfl
  · rw [profileBehind?, profileBehind?, trimLeft_append_of_ne_nil empty]
    refine congrArg (List.find? · _) (funext fun profile => ?_)
    rw [drop?_append_lineFeed (lineFeed_notMem_name profile)]
    cases found : drop? profile.name.toList (trimLeft t) with
    | none => rfl
    | some rest => exact endsLine_append (unbroken_of_drop? (unbroken_trimLeft unbroken) found) u

/-- A profile that is read from a line is all that stands on it. -/
theorem namesProfile_of_profileBehind? {line : Text} {profile : Profile} (unbroken : Unbroken line)
    (found : profileBehind? line = some profile) : NamesProfile line := by
  have listed := List.mem_of_find?_eq_some found
  have read := List.find?_some found
  cases dropped : drop? profile.name.toList (trimLeft line) with
  | none =>
    rw [dropped] at read
    cases read
  | some rest =>
    rw [dropped] at read
    have blank := blank_of_endsLine (unbroken_of_drop? (unbroken_trimLeft unbroken) dropped) read
    have last : profile.name.toList.getLast?.any isBlank = false := by cases profile <;> decide
    exact ⟨profile, listed, by rw [trim, drop?_some dropped, trimRight_append blank last]⟩

/-- Below lines that name no profile, none is found. -/
theorem profileBehind?_unlines {ls : List Text} (unbroken : ∀ line ∈ ls, Unbroken line)
    (nameless : ∀ line ∈ ls, ¬ NamesProfile line) : profileBehind? (unlines ls) = none := by
  induction ls with
  | nil => decide
  | cons line rest ih =>
    have own := unbroken line List.mem_cons_self
    rw [unlines_cons, profileBehind?_append own]
    split_ifs
    · exact ih (fun other member => unbroken other (List.mem_cons_of_mem line member))
        fun other member => nameless other (List.mem_cons_of_mem line member)
    · refine Option.eq_none_iff_forall_not_mem.mpr fun profile found => ?_
      exact nameless line List.mem_cons_self (namesProfile_of_profileBehind? own found)

/-- What follows the word of a directive: the number, the profile and the end of a line. -/
def numberAt? (t : Text) : Option (Text × Profile) :=
  if (t.takeWhile isDigit).isEmpty then none
  else
    match profileAt? (t.dropWhile isDigit) with
    | some profile => some (t.takeWhile isDigit, profile)
    | none => if endsLine (t.dropWhile isDigit) then some (t.takeWhile isDigit, .unspecified) else none

theorem directiveAt?_eq (t : Text) :
    directiveAt? t = (drop? ['#'] (trimLeft t)).bind fun t => (drop? "version".toList (trimLeft t)).bind fun t =>
      if !t.head?.any isBlank then none else numberAt? (trimLeft t) := rfl

section Append

variable {t u digits : Text} {profile : Profile}

theorem head?_append_of_trimLeft (filled : trimLeft t ≠ []) (u : Text) : (t ++ u).head? = t.head? := by
  cases t with
  | nil => exact absurd rfl filled
  | cons c rest => rfl

theorem profileAt?_of_blank (empty : trimLeft t = []) : profileAt? t = none := by
  unfold profileAt?
  rw [empty]
  split_ifs <;> rfl

/-- Only if nothing follows on its own line, the profile matters that comes below. -/
theorem profileAt?_append (unbroken : Unbroken t) (below : trimLeft t = [] → profileBehind? u = none) :
    profileAt? (t ++ '\n' :: u) = profileAt? t := by
  have told : ∀ t, profileAt? t = if t.head?.any isBlank then profileBehind? t else none := fun _ => rfl
  by_cases empty : trimLeft t = []
  · rw [profileAt?_of_blank empty, told, profileBehind?_append unbroken, if_pos empty, below empty, ite_self]
  · rw [told, told, head?_append_of_trimLeft empty, profileBehind?_append unbroken, if_neg empty]

theorem numberAt?_append (unbroken : Unbroken t) (found : numberAt? t = some (digits, profile))
    (below : profile = .unspecified → profileBehind? u = none) :
    numberAt? (t ++ '\n' :: u) = some (digits, profile) := by
  have stop : isDigit '\n' = false := by decide
  have front : (t ++ '\n' :: u).takeWhile isDigit = t.takeWhile isDigit := by
    rw [List.takeWhile_append]
    split_ifs with all
    · rw [List.takeWhile_cons_of_neg (by simp [stop]), List.append_nil]
      exact ((List.takeWhile_prefix isDigit).eq_of_length all).symm
    · rfl
  have back : (t ++ '\n' :: u).dropWhile isDigit = t.dropWhile isDigit ++ '\n' :: u := by
    rw [List.dropWhile_append]
    split_ifs with all
    · rw [List.dropWhile_cons_of_neg (by simp [stop]), List.isEmpty_iff.mp all, List.nil_append]
    · rfl
  have unbroken := unbroken.of_subset (List.dropWhile_suffix isDigit).subset
  unfold numberAt? at found ⊢
  have nameless : trimLeft (t.dropWhile isDigit) = [] → profileBehind? u = none := by
    intro empty
    rw [profileAt?_of_blank empty] at found
    split_ifs at found
    cases found
    exact below rfl
  rw [front, back, endsLine_append unbroken, profileAt?_append unbroken nameless]
  exact found

/-- What is read in front of the end of a line is read there whatever comes below. -/
theorem directiveAt?_append (unbroken : Unbroken t) (found : directiveAt? t = some (digits, profile))
    (below : profile = .unspecified → profileBehind? u = none) :
    directiveAt? (t ++ '\n' :: u) = some (digits, profile) := by
  rw [directiveAt?_eq] at found ⊢
  obtain ⟨t₁, sign, found⟩ := Option.bind_eq_some_iff.mp found
  obtain ⟨t₂, word, found⟩ := Option.bind_eq_some_iff.mp found
  split_ifs at found with apart
  have unbroken₁ := unbroken_of_drop? (unbroken_trimLeft unbroken) sign
  have unbroken₂ := unbroken_of_drop? (unbroken_trimLeft unbroken₁) word
  have filled : trimLeft t ≠ [] := by
    intro empty
    rw [empty] at sign
    cases sign
  have filled₁ : trimLeft t₁ ≠ [] := by
    intro empty
    rw [empty] at word
    cases word
  have filled₂ : trimLeft t₂ ≠ [] := by
    intro empty
    rw [empty] at found
    cases found
  rw [trimLeft_append_of_ne_nil filled, drop?_append_lineFeed (by decide), sign, Option.map_some, Option.bind_some,
    trimLeft_append_of_ne_nil filled₁, drop?_append_lineFeed (by decide), word, Option.map_some, Option.bind_some,
    head?_append_of_trimLeft filled₂, if_neg apart, trimLeft_append_of_ne_nil filled₂]
  exact numberAt?_append (unbroken_trimLeft unbroken₂) found below

end Append

/-- What the first of some lines declares is what the joined lines declare. -/
theorem directive?_unlines {line digits : Text} {profile : Profile} {rest : List Text}
    (unbroken : ∀ other ∈ line :: rest, Unbroken other) (found : directiveAt? line = some (digits, profile))
    (below : profile = .unspecified → ∀ other ∈ rest, ¬ NamesProfile other) :
    directive? (unlines (line :: rest)) = some (digits, profile) := by
  have nameless : profile = .unspecified → profileBehind? (unlines rest) = none := fun plain =>
    profileBehind?_unlines (fun other member => unbroken other (List.mem_cons_of_mem line member)) (below plain)
  rw [directive?, unlines_cons, directiveAt?_append (unbroken line List.mem_cons_self) found nameless, Option.some_or]

/-! ## The line of a directive -/

/-- A directive begins with a number sign. -/
theorem exists_sign {line : Text} {found : Text × Profile} (directive : directiveAt? line = some found) :
    ∃ blanks rest, (∀ c ∈ blanks, isBlank c = true) ∧ line = blanks ++ '#' :: rest := by
  rw [directiveAt?_eq] at directive
  obtain ⟨rest, sign, -⟩ := Option.bind_eq_some_iff.mp directive
  obtain ⟨blanks, blank, whole⟩ := exists_trimLeft line
  rw [drop?_some sign] at whole
  exact ⟨blanks, rest, blank, whole⟩

/-- On the line of a directive nothing is declared. -/
theorem declaration?_of_directive {line : Text} {found : Text × Profile} (directive : directiveAt? line = some found) :
    Code.declaration? (Code.ofLine line) = none := by
  obtain ⟨blanks, rest, blank, rfl⟩ := exists_sign directive
  have plain : '/' ∉ blanks ++ ['#'] := by
    intro member
    rcases List.mem_append.mp member with inside | last
    · exact absurd (blank '/' inside) (by decide)
    · exact absurd last (by decide)
  have code : trimLeft (Code.ofLine (blanks ++ '#' :: rest)) = '#' :: trimRight (Code.beforeComment rest) := by
    rw [Code.ofLine, show blanks ++ '#' :: rest = (blanks ++ ['#']) ++ rest by simp, Code.beforeComment_append plain,
      List.append_assoc, List.singleton_append, trimRight_append_cons (by decide)]
    exact trimLeft_append blank rfl
  have wordless : ∀ t, Code.splitWord ('#' :: t) = ([], '#' :: t) := fun t => rfl
  have skipped : ∀ fuel t, Code.skipQualifiers fuel ('#' :: t) = '#' :: t := by
    intro fuel t
    cases fuel with
    | zero => rfl
    | succ fuel => rfl
  rw [Code.declaration?, code]
  dsimp only
  rw [skipped, wordless]
  rfl

end Version

end ShaderShrink
