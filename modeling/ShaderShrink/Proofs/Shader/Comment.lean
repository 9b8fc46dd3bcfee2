import ShaderShrink.Proofs.Text.Line

/-!
# Comments

Outside of comments two slashes hide the rest of the line, and a slash with an asterisk behind it hides everything up to the
next asterisk with a slash behind it, on whatever line that is.  The code of a text has white space in the place of what is
hidden.  So the code of some lines is that of each of them, read as what stands above it says: as code, or as part of a
comment that is still open.
-/

namespace ShaderShrink.Comment

open Text

/-- What a place in a text belongs to. -/
inductive Mode where
  | code
  /-- A comment behind two slashes. -/
  | line
  /-- A comment between a slash with an asterisk and an asterisk with a slash. -/
  | block
  deriving DecidableEq, Repr

/-- The line ends of the shading language. -/
def endsLine (c : Char) : Bool := c == '\n' || c == '\r'

/-- The characters of a text, each with what it belongs to. -/
def marked : Mode → Text → List (Char × Mode)
  | _, [] => []
  | .code, '/' :: '/' :: rest => ('/', .line) :: ('/', .line) :: marked .line rest
  | .code, '/' :: '*' :: rest => ('/', .block) :: ('*', .block) :: marked .block rest
  | .code, c :: rest => (c, .code) :: marked .code rest
  | .line, c :: rest => if endsLine c then (c, .code) :: marked .code rest else (c, .line) :: marked .line rest
  | .block, '*' :: '/' :: rest => ('*', .block) :: ('/', .block) :: marked .code rest
  | .block, c :: rest => (c, .block) :: marked .block rest

/-- What the place behind a text belongs to. -/
def behind : Mode → Text → Mode
  | mode, [] => mode
  | .code, '/' :: '/' :: rest => behind .line rest
  | .code, '/' :: '*' :: rest => behind .block rest
  | .code, _ :: rest => behind .code rest
  | .line, c :: rest => if endsLine c then behind .code rest else behind .line rest
  | .block, '*' :: '/' :: rest => behind .code rest
  | .block, _ :: rest => behind .block rest

/-- The text with white space in the place of its comments. -/
def codeFrom (mode : Mode) (t : Text) : Text :=
  (marked mode t).map fun place => if place.2 = .code then place.1 else ' '

/-- The code of a text. -/
def codeOf (t : Text) : Text := codeFrom .code t

/-- What the comments behind two slashes say. -/
def lineComments (t : Text) : Text := ((marked .code t).filter fun place => place.2 = .line).map (·.1)

/-- What the next line begins with: a comment behind two slashes ends with its line. -/
def Mode.nextLine : Mode → Mode
  | .line => .code
  | mode => mode

/-- What the place below some lines belongs to. -/
def below (mode : Mode) (lines : List Text) : Mode := lines.foldl (fun mode line => (behind mode line).nextLine) mode

/-- The parts of a text between its white space. -/
def pieces (t : Text) : List Text := (t.splitOnP isBlank).filter fun piece => !piece.isEmpty

/-! ## Parts of a text -/

theorem pieces_append {c : Char} (white : isBlank c = true) (a b : Text) : pieces (a ++ c :: b) = pieces a ++ pieces b := by
  rw [pieces, List.splitOnP_append_cons a b white, List.filter_append, pieces, pieces]

theorem pieces_cons {c : Char} (white : isBlank c = true) (t : Text) : pieces (c :: t) = pieces t := pieces_append white [] t

theorem pieces_blank {t : Text} (white : ∀ c ∈ t, isBlank c = true) : pieces t = [] := by
  induction t with
  | nil => rfl
  | cons c rest ih =>
    rw [pieces_cons (white c List.mem_cons_self), ih fun d member => white d (List.mem_cons_of_mem c member)]

/-- What begins two texts together begins the first one, unless it begins the second. -/
private theorem eq_cons_of_append {d : Char} {a b rest : Text} (other : d ∉ b.head?) (whole : a ++ b = d :: rest) :
    ∃ rest, a = d :: rest := by
  cases a with
  | nil =>
    rw [List.nil_append] at whole
    simp [whole] at other
  | cons c tail =>
    cases whole
    exact ⟨tail, rfl⟩

/-- In front of a character that is no part of a delimiter a text is read on its own. -/
theorem marked_append {a b : Text} (plain : ∀ c ∈ b.head?, c ≠ '/' ∧ c ≠ '*') (mode : Mode) :
    marked mode (a ++ b) = marked mode a ++ marked (behind mode a) b := by
  have slash : '/' ∉ b.head? := fun member => (plain _ member).1 rfl
  have asterisk : '*' ∉ b.head? := fun member => (plain _ member).2 rfl
  fun_induction marked mode a with
  | case1 mode => cases mode <;> simp [behind]
  | case2 rest ih | case3 rest ih | case7 rest ih => simp [behind, marked, ih]
  | case5 c rest ends ih | case6 c rest ends ih => simp [behind, marked, ih, ends]
  | case4 c rest noLine noBlock ih =>
    rw [List.cons_append, marked, behind, ih, List.cons_append]
    · exact noLine
    · exact noBlock
    · rintro rest' rfl whole
      obtain ⟨rest'', same⟩ := eq_cons_of_append slash whole
      exact noLine rest'' rfl same
    · rintro rest' rfl whole
      obtain ⟨rest'', same⟩ := eq_cons_of_append asterisk whole
      exact noBlock rest'' rfl same
  | case8 c rest noEnd ih =>
    rw [List.cons_append, marked, behind, ih, List.cons_append]
    · exact noEnd
    · rintro rest' rfl whole
      obtain ⟨rest'', same⟩ := eq_cons_of_append slash whole
      exact noEnd rest'' rfl same

/-- Text without slashes is code where code stands. -/
theorem marked_code {a : Text} (slashless : '/' ∉ a) (b : Text) :
    marked .code (a ++ b) = a.map (·, .code) ++ marked .code b ∧ behind .code (a ++ b) = behind .code b := by
  induction a with
  | nil => exact ⟨rfl, rfl⟩
  | cons c rest ih =>
    have other : c ≠ '/' := fun same => slashless (same ▸ List.mem_cons_self)
    obtain ⟨marks, mode⟩ := ih fun member => slashless (List.mem_cons_of_mem c member)
    rw [List.cons_append, marked, behind, marks, mode]
    · exact ⟨rfl, rfl⟩
    all_goals exact fun _ same => absurd same other

theorem isLineBreak_of_endsLine {c : Char} (ends : endsLine c = true) : isLineBreak c = true := by
  rcases Bool.or_eq_true_iff.mp ends with same | same <;> rw [beq_iff_eq.mp same] <;> rfl

theorem endsLine_of_unbroken {t : Text} (unbroken : Unbroken t) : ∀ c ∈ t, endsLine c = false := by
  intro c member
  cases ends : endsLine c with
  | false => rfl
  | true => rw [← unbroken c member, isLineBreak_of_endsLine ends]

/-- Text without line ends belongs to the comment behind two slashes in which it stands. -/
theorem marked_line {a : Text} (unbroken : Unbroken a) : marked .line a = a.map (·, .line) ∧ behind .line a = .line := by
  induction a with
  | nil => exact ⟨rfl, rfl⟩
  | cons c rest ih =>
    have inside : endsLine c = false := endsLine_of_unbroken unbroken c List.mem_cons_self
    obtain ⟨marks, mode⟩ := ih fun d member => unbroken d (List.mem_cons_of_mem c member)
    simp [marked, behind, inside, marks, mode]

/-- Text belongs to the comment in which it stands up to an asterisk with a slash behind it. -/
theorem marked_block {a b : Text} (isOpen : hasPart "*/".toList a = false) (other : '/' ∉ b.head?) :
    marked .block (a ++ b) = a.map (·, .block) ++ marked .block b ∧ behind .block (a ++ b) = behind .block b := by
  induction a with
  | nil => exact ⟨rfl, rfl⟩
  | cons c rest ih =>
    rw [hasPart, Bool.or_eq_false_iff] at isOpen
    obtain ⟨marks, mode⟩ := ih isOpen.2
    have noEnd : ∀ rest', c = '*' → rest ++ b = '/' :: rest' → False := by
      rintro rest' rfl whole
      obtain ⟨rest'', rfl⟩ := eq_cons_of_append other whole
      exact absurd isOpen.1 (by simp [startsWith])
    rw [List.cons_append, marked, behind, marks, mode]
    · exact ⟨rfl, rfl⟩
    · exact noEnd
    · exact noEnd

/-! ## Lines -/

theorem isBlank_of_mem_codeFrom {mode : Mode} {t : Text}
    (white : ∀ place ∈ marked mode t, place.2 = .code → isBlank place.1 = true) : ∀ c ∈ codeFrom mode t, isBlank c = true := by
  intro c member
  obtain ⟨place, inside, rfl⟩ := List.mem_map.mp member
  split_ifs with code
  · exact white place inside code
  · rfl

theorem plain_of_isLineBreak {c : Char} (breaks : isLineBreak c = true) : c ≠ '/' ∧ c ≠ '*' := by
  constructor <;> rintro rfl <;> exact absurd breaks (by decide)

/-- Behind a line break a line begins as code or in a block comment. -/
theorem marked_cons {mode : Mode} {c : Char} (breaks : isLineBreak c = true) (ends : mode = .line → endsLine c = true)
    (rest : Text) : ∃ mark, marked mode (c :: rest) = (c, mark) :: marked mode.nextLine rest := by
  obtain ⟨slash, asterisk⟩ := plain_of_isLineBreak breaks
  cases mode with
  | code =>
    refine ⟨.code, ?_⟩
    rw [marked]
    · rfl
    all_goals exact fun _ same => absurd same slash
  | line => exact ⟨.code, by rw [marked, if_pos (ends rfl)]; rfl⟩
  | block =>
    refine ⟨.block, ?_⟩
    rw [marked]
    · rfl
    · exact fun _ same => absurd same asterisk

theorem pieces_cons_of_isLineBreak {mode : Mode} {c : Char} (breaks : isLineBreak c = true)
    (ends : mode = .line → endsLine c = true) (front rest : Text) :
    pieces (front ++ codeFrom mode (c :: rest)) = pieces front ++ pieces (codeFrom mode.nextLine rest) := by
  obtain ⟨mark, marks⟩ := marked_cons breaks ends rest
  rw [codeFrom, marks, List.map_cons]
  apply pieces_append
  split_ifs
  · exact isBlank_of_isLineBreak breaks
  · rfl

/-- The code behind a line. -/
theorem pieces_line {mode : Mode} {line : Text} {c : Char} (breaks : isLineBreak c = true)
    (ends : behind mode line = .line → endsLine c = true) (rest : Text) :
    pieces (codeFrom mode (line ++ c :: rest)) =
      pieces (codeFrom mode line) ++ pieces (codeFrom (behind mode line).nextLine rest) := by
  have plain : ∀ d ∈ (c :: rest).head?, d ≠ '/' ∧ d ≠ '*' := by
    intro d member
    obtain rfl := Option.some.inj member
    exact plain_of_isLineBreak breaks
  rw [codeFrom, marked_append plain, List.map_append]
  exact pieces_cons_of_isLineBreak breaks ends _ rest

/-- The code of some lines and of those below them. -/
theorem pieces_unlines_append (mode : Mode) (a b : List Text) :
    pieces (codeFrom mode (unlines (a ++ b))) =
      pieces (codeFrom mode (unlines a)) ++ pieces (codeFrom (below mode a) (unlines b)) := by
  induction a generalizing mode with
  | nil => simp [codeFrom, marked, below, pieces]
  | cons line rest ih =>
    rw [List.cons_append, unlines_cons, unlines_cons, pieces_line rfl fun _ => rfl, pieces_line rfl fun _ => rfl, ih,
      List.append_assoc]
    rfl

/-- A text is one line, or has a first line and a line break behind it. -/
theorem exists_line (t : Text) : (Unbroken t ∧ lines t = if t = [] then [] else [t]) ∨
    ∃ line c rest below, Unbroken line ∧ isLineBreak c = true ∧ t = line ++ c :: rest ∧ lines t = line :: lines below ∧
      (below = rest ∨ rest = '\n' :: below) := by
  have front : Unbroken (t.takeWhile (!isLineBreak ·)) := fun c member => by
    simpa using List.mem_takeWhile_imp member
  have whole := (List.takeWhile_append_dropWhile (p := (!isLineBreak ·)) (l := t)).symm
  cases back : t.dropWhile (!isLineBreak ·) with
  | nil =>
    rw [back, List.append_nil] at whole
    refine .inl ⟨whole ▸ front, ?_⟩
    split_ifs with empty
    · rw [empty, lines]
    · have single := lines_append_of_unbroken empty (whole ▸ front) []
      rwa [List.append_nil, show lines [] = [] from rfl, List.head?_nil, Option.getD_none, List.append_nil] at single
  | cons c rest =>
    have breaks : isLineBreak c = true := by
      have stop := List.head?_dropWhile_not (!isLineBreak ·) t
      simpa [back] using stop
    obtain ⟨below, listed, shape⟩ := lines_of_isLineBreak breaks rest
    rw [back] at whole
    clear back
    generalize t.takeWhile (!isLineBreak ·) = line at front whole
    subst whole
    refine .inr ⟨line, c, rest, below, front, breaks, rfl, ?_, shape⟩
    cases line with
    | nil => exact listed
    | cons d others =>
      rw [lines_append_of_unbroken (List.cons_ne_nil d others) front, listed]
      simp

theorem Mode.nextLine_nextLine (mode : Mode) : mode.nextLine.nextLine = mode.nextLine := by cases mode <;> rfl

/-- The code of a text is that of its lines, if no comment behind two slashes goes on behind a line break. -/
theorem pieces_lines {mode : Mode} {t : Text}
    (unbroken : ∀ place ∈ marked mode t, place.2 = .line → isLineBreak place.1 = false) :
    pieces (codeFrom mode (unlines (lines t))) = pieces (codeFrom mode t) := by
  induction size : t.length using Nat.strong_induction_on generalizing t mode with
  | _ n ih =>
    subst size
    rcases exists_line t with ⟨-, single⟩ | ⟨line, c, rest, below, -, breaks, rfl, listed, shape⟩
    · rw [single]
      split_ifs with empty
      · rw [empty]
        rfl
      · rw [unlines_cons, pieces_line rfl fun _ => rfl]
        simp [codeFrom, marked, pieces]
    · have plain : ∀ d ∈ (c :: rest).head?, d ≠ '/' ∧ d ≠ '*' := by
        intro d member
        obtain rfl := Option.some.inj member
        exact plain_of_isLineBreak breaks
      rw [marked_append plain] at unbroken
      -- A line break that a comment goes on behind would be one of its characters.
      have ends : behind mode line = .line → endsLine c = true := by
        intro inside
        by_contra hidden
        have found := unbroken (c, .line) (by simp [inside, marked, hidden]) rfl
        rw [breaks] at found
        cases found
      obtain ⟨mark, marks⟩ := marked_cons breaks ends rest
      have later : ∀ place ∈ marked (behind mode line).nextLine rest, place.2 = .line → isLineBreak place.1 = false :=
        fun place member => unbroken place (by rw [marks]; simp [member])
      rw [listed, unlines_cons, pieces_line rfl fun _ => rfl, pieces_line breaks ends]
      congr 1
      rcases shape with rfl | rfl
      · exact ih below.length (by simp; omega) later rfl
      · have breaks : isLineBreak '\n' = true := rfl
        have ends : (behind mode line).nextLine = .line → endsLine '\n' = true := fun _ => rfl
        obtain ⟨mark, marks⟩ := marked_cons breaks ends below
        have skipped := pieces_cons_of_isLineBreak breaks ends [] below
        rw [Mode.nextLine_nextLine] at marks skipped
        refine (ih below.length (by simp; omega) (fun place member => later place ?_) rfl).trans skipped.symm
        rw [marks]
        exact List.mem_cons_of_mem _ member

/-- A line that says nothing: it neither ends a comment that began above it nor begins one that ends below it. -/
def Silent (mode : Mode) (line : Text) : Prop := pieces (codeFrom mode line) = [] ∧ (behind mode line).nextLine = mode

/-- Without a silent line the code is the same. -/
theorem Silent.pieces_eq {mode : Mode} {line : Text} {a b : List Text} (silent : Silent (below mode a) line) :
    pieces (codeFrom mode (unlines (a ++ line :: b))) = pieces (codeFrom mode (unlines (a ++ b))) := by
  obtain ⟨nothing, same⟩ := silent
  rw [pieces_unlines_append, pieces_unlines_append, unlines_cons, pieces_line rfl fun _ => rfl, nothing, same, List.nil_append]

/-- No line begins in a comment behind two slashes. -/
theorem below_ne_line {mode : Mode} (begins : mode ≠ .line) (lines : List Text) : below mode lines ≠ .line := by
  induction lines generalizing mode with
  | nil => exact begins
  | cons line rest ih =>
    have next : (behind mode line).nextLine ≠ .line := by cases behind mode line <;> simp [Mode.nextLine]
    exact ih next

/-! ## Lines that say nothing -/

theorem silent_of {mode : Mode} {line : Text} {marks : List (Char × Mode)} (marked_eq : marked mode line = marks)
    (white : ∀ place ∈ marks, place.2 = .code → isBlank place.1 = true) (same : (behind mode line).nextLine = mode) :
    Silent mode line :=
  ⟨pieces_blank (isBlank_of_mem_codeFrom (marked_eq ▸ white)), same⟩

/-- In a block comment that it does not end, a line says nothing. -/
theorem silent_block {line : Text} (isOpen : hasPart "*/".toList line = false) : Silent .block line := by
  obtain ⟨marks, mode⟩ := marked_block (b := []) isOpen (fun member => nomatch member)
  rw [List.append_nil] at marks mode
  refine silent_of marks ?_ (by rw [mode]; rfl)
  simp [marked]

section Code

variable {blanks : Text} (white : ∀ c ∈ blanks, isBlank c = true)

include white

theorem slash_notMem_of_blank : '/' ∉ blanks := fun member => absurd (white _ member) (by decide)

theorem silent_blank : Silent .code blanks := by
  obtain ⟨marks, mode⟩ := marked_code (slash_notMem_of_blank white) []
  rw [List.append_nil] at marks mode
  refine silent_of marks ?_ (by rw [mode]; rfl)
  simpa [marked] using white

theorem silent_lineComment {comment : Text} (unbroken : Unbroken comment) : Silent .code (blanks ++ '/' :: '/' :: comment) := by
  obtain ⟨front, mode⟩ := marked_code (slash_notMem_of_blank white) ('/' :: '/' :: comment)
  obtain ⟨back, ends⟩ := marked_line unbroken
  rw [marked, back] at front
  refine silent_of front ?_ ?_
  · simpa [or_imp, forall_and] using white
  · rw [mode, behind, ends]
    rfl

theorem silent_blockComment {comment blanks' : Text} (isOpen : hasPart "*/".toList comment = false)
    (white' : ∀ c ∈ blanks', isBlank c = true) :
    Silent .code (blanks ++ '/' :: '*' :: (comment ++ '*' :: '/' :: blanks')) := by
  obtain ⟨front, mode⟩ := marked_code (slash_notMem_of_blank white) ('/' :: '*' :: (comment ++ '*' :: '/' :: blanks'))
  obtain ⟨middle, mode'⟩ := marked_block (b := '*' :: '/' :: blanks') isOpen (by simp)
  obtain ⟨back, mode''⟩ := marked_code (slash_notMem_of_blank white') []
  rw [List.append_nil] at back mode''
  rw [marked, middle, marked, back] at front
  refine silent_of front ?_ ?_
  · simpa [marked, or_imp, forall_and] using ⟨white, white'⟩
  · rw [mode, behind, mode', behind, mode'']
    rfl

end Code

end ShaderShrink.Comment
