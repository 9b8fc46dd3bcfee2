import ShaderShrink.Proofs.Shader.Declaration

/-!
# Declared names

A line of code may hold several statements, and a statement may declare several names.  The statements end at
semicolons and braces, and the declarators at commas, outside of all brackets.  What is read as the declaration of a
line is less: a name leads a line of code if the line begins with its declaration, ends with a semicolon, and has
nothing in between but perhaps the size of an array, or an equals sign with whatever follows it.
-/

namespace ShaderShrink.Code

open ShaderShrink.Text

/-! ## Statements and declarators -/

/-- The number of open brackets behind a character. -/
def bracketsBehind (depth : Nat) (c : Char) : Nat :=
  if c = '(' ∨ c = '[' then depth + 1 else if c = ')' ∨ c = ']' then depth - 1 else depth

/-- The parts of a text between the separators that lie in no brackets. -/
def parts (separates : Char → Bool) (depth : Nat) : Text → List Text
  | [] => [[]]
  | c :: rest =>
    if depth = 0 ∧ separates c = true then [] :: parts separates 0 rest
    else
      let below := parts separates (bracketsBehind depth c) rest
      (c :: below.headD []) :: below.tail

/-- Whether a statement ends with a character. -/
def endsStatement (c : Char) : Bool := c == ';' || c == '{' || c == '}'

/-- The name that a further declarator declares. -/
def declarator? (part : Text) : Option Text :=
  let name := (splitWord (trimLeft part)).1
  if isIdentifier name then some name else none

/-- The names that a statement declares. -/
def namesOf (statement : Text) : List Text :=
  match heading? statement with
  | some (_, name, rest) =>
    if rest.head?.all fun c => c == '=' || c == '[' || c == ',' then
      name :: (parts (· == ',') 0 rest).tail.filterMap declarator?
    else []
  | none => []

/-- The names that the statements on a line of code declare. -/
def declaredNames (code : Text) : List Text := (parts endsStatement 0 code).flatMap namesOf

/-- Text without separators belongs to the part that it begins. -/
theorem parts_append {separates : Char → Bool} {t : Text} (none : ∀ c ∈ t, separates c = false) (depth : Nat) (rest : Text) :
    parts separates depth (t ++ rest) =
      (t ++ (parts separates (t.foldl bracketsBehind depth) rest).headD []) ::
        (parts separates (t.foldl bracketsBehind depth) rest).tail := by
  induction t generalizing depth with
  | nil =>
    obtain ⟨part, others, listed⟩ : ∃ part others, parts separates depth rest = part :: others := by
      cases rest with
      | nil => exact ⟨_, _, rfl⟩
      | cons c rest =>
        rw [parts]
        split_ifs
        · exact ⟨_, _, rfl⟩
        · exact ⟨_, _, rfl⟩
    simp [listed]
  | cons c tail ih =>
    have inside : ¬ (depth = 0 ∧ separates c = true) := fun both => by simp [none c List.mem_cons_self] at both
    rw [List.cons_append, parts, if_neg inside, ih fun d member => none d (List.mem_cons_of_mem c member)]
    rfl

/-- Words and white space have no brackets and end no statement. -/
theorem plain_of_spaced {t : Text} (spaced : Spaced t) (depth : Nat) :
    t.foldl bracketsBehind depth = depth ∧ ∀ c ∈ t, endsStatement c = false := by
  have apart : ∀ c ∈ t, ∀ d : Char, isWord d = false → isBlank d = false → c ≠ d := by
    rintro c member d other black rfl
    rcases spaced c member with inside | white
    · rw [inside] at other
      cases other
    · rw [white] at black
      cases black
  constructor
  · induction t generalizing depth with
    | nil => rfl
    | cons c rest ih =>
      have differ := apart c List.mem_cons_self
      have kept : bracketsBehind depth c = depth := by
        simp [bracketsBehind, differ '(' (by decide) (by decide), differ '[' (by decide) (by decide),
          differ ')' (by decide) (by decide), differ ']' (by decide) (by decide)]
      rw [List.foldl_cons, kept]
      exact ih (fun d member => spaced d (List.mem_cons_of_mem c member)) depth
        fun d member => apart d (List.mem_cons_of_mem c member)
  · intro c member
    have differ := apart c member
    simp [endsStatement, differ ';' (by decide) (by decide), differ '{' (by decide) (by decide),
      differ '}' (by decide) (by decide)]

/-! ## The name that leads a line -/

/-- What may follow the heading of a declaration up to the end of the line. -/
inductive Completes : Text → Prop
  | plain : Completes [';']
  | initial {value : Text} : value ≠ [] → Completes ('=' :: (value ++ [';']))
  | array {size blanks : Text} : ']' ∉ size → (∀ c ∈ blanks, isBlank c = true) →
      Completes ('[' :: (size ++ ']' :: (blanks ++ [';'])))

/-- Whether a line of code begins with the declaration of a name and goes on with nothing that is seen as more. -/
def Leads (code name : Text) : Prop := ∃ type rest, heading? code = some (type, name, rest) ∧ Completes rest

theorem heading?_stop {code type name rest : Text} (found : heading? code = some (type, name, rest)) :
    rest.head?.any isBlank = false := by
  unfold heading? at found
  dsimp only at found
  split_ifs at found with unknown
  obtain ⟨t, -, found⟩ := Option.bind_eq_some_iff.mp found
  split_ifs at found with other
  cases found
  exact head?_trimLeft _

/-- A name that leads a line of code is declared there. -/
theorem Leads.mem_declaredNames {code name : Text} (leads : Leads code name) : name ∈ declaredNames code := by
  obtain ⟨type, rest, headed, completes⟩ := leads
  obtain ⟨-, -, -, front, rfl, spaced, forward⟩ := heading?_some headed
  obtain ⟨flat, unended⟩ := plain_of_spaced spaced 0
  have first := parts_append unended 0 rest
  rw [flat] at first
  -- What completes the heading begins with a semicolon, or with a character that goes on with the declaration.
  obtain ⟨u, begins, gap, stop, goesOn⟩ : ∃ u, (parts endsStatement 0 rest).headD [] = u ∧ Gap u ∧
      u.head?.any isBlank = false ∧ u.head?.all (fun c => c == '=' || c == '[' || c == ',') = true := by
    cases completes with
    | plain => exact ⟨_, rfl, rfl, rfl, rfl⟩
    | initial => exact ⟨_, rfl, rfl, rfl, rfl⟩
    | array => exact ⟨_, rfl, rfl, rfl, rfl⟩
  rw [declaredNames, first, List.flatMap_cons, begins, namesOf, forward u gap stop]
  simp only [goesOn, ↓reduceIte]
  exact List.mem_append_left _ List.mem_cons_self

/-! ## The declaration of a line -/

/-- What has an initial value ends with a semicolon. -/
theorem exists_of_isSome_initial? {t : Text} (stop : t.getLast?.any isBlank = false) (found : (initial? t).isSome = true) :
    ∃ value, t = value ++ [';'] := by
  obtain ⟨blanks, -, whole⟩ := exists_trimLeft t
  unfold initial? at found
  dsimp only at found
  rw [dropSemicolon?_eq, trimRight_of_stop (getLast?_trimLeft stop)] at found
  split_ifs at found with ends
  · have last : (trimLeft t).getLast? = some ';' := by
      cases listed : (trimLeft t).getLast? with
      | none => simp [listed] at ends
      | some c => simpa [listed] using ends
    obtain ⟨front, listed⟩ := List.getLast?_eq_some_iff.mp last
    exact ⟨blanks ++ front, by rw [List.append_assoc, ← listed, ← whole]⟩
  · cases found

/-- There is an initial value wherever something stands in front of the semicolon. -/
theorem isSome_initial?_append (value : Text) : (initial? (value ++ [';'])).isSome = true ↔ value ≠ [] := by
  obtain ⟨blanks, white, whole⟩ := exists_trimLeft value
  have begins := head?_trimLeft value
  generalize trimLeft value = rest at begins whole
  subst whole
  have left : trimLeft (blanks ++ rest ++ [';']) = rest ++ [';'] := by
    rw [List.append_assoc]
    refine trimLeft_append white ?_
    cases rest with
    | nil => rfl
    | cons c others => simpa using begins
  have dropped : dropSemicolon? (rest ++ [';']) = some (trimRight rest) := by
    rw [dropSemicolon?_eq, trimRight_of_stop (by simp; decide), List.dropLast_concat, if_pos (by simp)]
  unfold initial?
  dsimp only
  rw [left, dropped]
  cases rest with
  | nil =>
    have run : (blanks ++ [] ++ [';']).takeWhile isBlank = blanks := by
      rw [List.append_nil, List.takeWhile_append_of_pos white]
      exact List.append_nil _
    rw [run, List.append_nil]
    cases blanks with
    | nil => decide
    | cons c others =>
      have last := List.getLast?_eq_some_getLast (List.cons_ne_nil c others)
      exact iff_of_true (by simp only [trimRight, last]; rfl) (List.cons_ne_nil c others)
  | cons c others =>
    have black : isBlank c = false := by simpa using begins
    cases kept : trimRight (c :: others) with
    | nil => exact absurd kept (trimRight_ne_nil black others)
    | cons => exact iff_of_true rfl (by simp)

theorem skipArraySize?_some {t rest : Text} (skipped : skipArraySize? t = some rest) :
    ∃ size, ']' ∉ size ∧ t = '[' :: (size ++ ']' :: rest) := by
  unfold skipArraySize? at skipped
  split at skipped
  · rename_i inside
    split at skipped
    · rename_i after found
      cases skipped
      refine ⟨inside.takeWhile (· != ']'), fun member => by simpa using List.mem_takeWhile_imp member, ?_⟩
      rw [← found, List.takeWhile_append_dropWhile]
    · cases skipped
  · cases skipped

theorem skipArraySize?_append {size : Text} (own : ']' ∉ size) (rest : Text) :
    skipArraySize? ('[' :: (size ++ ']' :: rest)) = some rest := by
  have run : (size ++ ']' :: rest).dropWhile (· != ']') = ']' :: rest := by
    rw [List.dropWhile_append_of_pos fun c member => by simpa using fun same : c = ']' => own (same ▸ member)]
    rfl
  simp only [skipArraySize?, run]

/-- Only a semicolon, possibly behind white space. -/
theorem onlySemicolon_iff {t : Text} (stop : t.getLast?.any isBlank = false) :
    onlySemicolon t = true ↔ ∃ blanks, (∀ c ∈ blanks, isBlank c = true) ∧ t = blanks ++ [';'] := by
  rw [onlySemicolon, beq_iff_eq, trim, trimRight_of_stop (getLast?_trimLeft stop)]
  constructor
  · intro alone
    obtain ⟨blanks, white, whole⟩ := exists_trimLeft t
    exact ⟨blanks, white, alone ▸ whole⟩
  · rintro ⟨blanks, white, rfl⟩
    exact trimLeft_append white rfl

theorem isSome_completion?_iff (code type name : Text) {rest : Text} (begins : rest.head?.any isBlank = false)
    (stop : rest.getLast?.any isBlank = false) : (completion? code type name rest).isSome = true ↔ Completes rest := by
  unfold completion?
  split
  · rename_i value
    have stop' : value.getLast?.any isBlank = false := @getLast?_of_append ['='] value stop
    constructor
    · intro found
      have valued : (initial? value).isSome = true := by
        cases read : initial? value with
        | none =>
          rw [read] at found
          cases found
        | some => rfl
      obtain ⟨front, rfl⟩ := exists_of_isSome_initial? stop' valued
      exact .initial ((isSome_initial?_append front).mp valued)
    · intro completes
      cases completes with
      | initial filled =>
        obtain ⟨found, read⟩ := Option.isSome_iff_exists.mp ((isSome_initial?_append _).mpr filled)
        rw [read]
        rfl
  · rename_i other
    constructor
    · intro found
      split_ifs at found with alone
      · cases skipped : skipArraySize? rest with
        | none =>
          rw [skipped, Option.getD_none, onlySemicolon_iff stop] at alone
          obtain ⟨blanks, white, rfl⟩ := alone
          cases blanks with
          | nil => exact .plain
          | cons c others => simp [white c List.mem_cons_self] at begins
        | some behind =>
          obtain ⟨size, own, rfl⟩ := skipArraySize?_some skipped
          have stop' : behind.getLast?.any isBlank = false :=
            @getLast?_of_append ('[' :: (size ++ [']'])) behind (by simpa using stop)
          rw [skipped, Option.getD_some, onlySemicolon_iff stop'] at alone
          obtain ⟨blanks, white, rfl⟩ := alone
          exact .array own white
      · cases found
    · intro completes
      cases completes with
      | plain => rfl
      | initial => exact (other _ rfl).elim
      | array own white =>
        have alone := (onlySemicolon_iff (t := _ ++ [';']) (by simp; decide)).mpr ⟨_, white, rfl⟩
        rw [skipArraySize?_append own, Option.getD_some, if_pos alone]
        rfl

/-- A line of code is read as the declaration of the name that leads it. -/
theorem exists_declaration_iff {line name : Text} :
    (∃ declaration, declaration? (ofLine line) = some declaration ∧ declaration.name = name) ↔ Leads (ofLine line) name := by
  have stop : (ofLine line).getLast?.any isBlank = false := getLast?_trimRight _
  have behind : ∀ {type name rest}, heading? (ofLine line) = some (type, name, rest) → rest.getLast?.any isBlank = false := by
    intro type name rest headed
    obtain ⟨-, -, -, front, whole, -⟩ := heading?_some headed
    exact getLast?_of_append (whole ▸ stop)
  rw [declaration?_eq]
  constructor
  · rintro ⟨declaration, found, rfl⟩
    obtain ⟨⟨type, name, rest⟩, headed, completed⟩ := Option.bind_eq_some_iff.mp found
    obtain ⟨-, named, -⟩ := completion?_parts completed
    have completes := (isSome_completion?_iff _ _ _ (heading?_stop headed) (behind headed)).mp (Option.isSome_of_eq_some completed)
    exact ⟨type, rest, named ▸ headed, completes⟩
  · rintro ⟨type, rest, headed, completes⟩
    have found := (isSome_completion?_iff (ofLine line) type name (heading?_stop headed) (behind headed)).mpr completes
    obtain ⟨declaration, completed⟩ := Option.isSome_iff_exists.mp found
    exact ⟨declaration, by rw [headed, Option.bind_some, completed], (completion?_parts completed).2.1⟩

/-- With a plain value in the place of its initial value, a line declares no other name than its first one. -/
theorem declaredNames_lead {line value initial : Text} {declaration : Declaration}
    (found : declaration? (ofLine line) = some declaration) (valued : declaration.initial = some initial) (tight : Tight value)
    (flat : value.foldl bracketsBehind 0 = 0) (plain : ∀ c ∈ value, endsStatement c = false ∧ c ≠ ',') :
    declaredNames (ofLine (declaration.lead ++ value ++ [';'])) = [declaration.name] := by
  obtain ⟨front, blanks, -, spaced, white, -, leads, forward⟩ := lead_eq found valued
  have whiteSpaced : Spaced blanks := fun c member => .inr (white c member)
  obtain ⟨flatFront, endless⟩ := plain_of_spaced spaced 0
  obtain ⟨flatBlanks, endless'⟩ := plain_of_spaced whiteSpaced 0
  have equals : bracketsBehind 0 '=' = 0 := by decide
  have level : (declaration.lead ++ value).foldl bracketsBehind 0 = 0 := by
    rw [leads, List.append_assoc, List.cons_append, List.foldl_append, flatFront, List.foldl_cons, equals, List.foldl_append,
      flatBlanks, flat]
  have one : ∀ c ∈ declaration.lead ++ value, endsStatement c = false := by
    rw [leads]
    intro c member
    simp only [List.mem_append, List.mem_cons] at member
    rcases member with (before | rfl | blank) | inside
    · exact endless c before
    · rfl
    · exact endless' c blank
    · exact (plain c inside).1
  have single : ∀ c ∈ '=' :: (blanks ++ value), (c == ',') = false := by
    intro c member
    simp only [List.mem_cons, List.mem_append] at member
    rcases member with rfl | blank | inside
    · rfl
    · exact beq_eq_false_iff_ne.mpr fun same => absurd (white c blank) (by rw [same]; decide)
    · exact beq_eq_false_iff_ne.mpr (plain c inside).2
  have only := parts_append single 0 []
  rw [List.append_nil] at only
  have named : namesOf (declaration.lead ++ value) = [declaration.name] := by
    rw [namesOf, leads, List.append_assoc, List.cons_append, forward]
    simp only [only]
    rfl
  rw [ofLine_lead found valued tight, declaredNames, parts_append one, level]
  change namesOf (declaration.lead ++ value ++ []) ++ (namesOf [] ++ []) = _
  rw [List.append_nil, named]
  rfl

end ShaderShrink.Code
