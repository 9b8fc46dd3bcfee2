import ShaderShrink.Proofs.Shader.Declaration
import ShaderShrink.Proofs.Shader.Output

/-!
# Declared outputs and assignments

The shading language declares an output on a line of its own, behind a layout and with a precision in front of the type if
need be, and has eleven operators that assign to a name or to a part of what it names.  Of these declarations those without
a precision are recognised, and of the operators those that do not shift.
-/

namespace ShaderShrink.Code

open Text

/-- Whether a text is nothing but white space. -/
abbrev White (t : Text) : Prop := ∀ c ∈ t, isBlank c = true

/-! ## Declarations -/

/-- What may stand in front of the declaration of an output. -/
inductive LayoutFront : Text → Prop
  | none {blanks : Text} : White blanks → LayoutFront blanks
  | layout {blanks gap arguments behind : Text} : White blanks → White gap → ')' ∉ arguments → White behind →
      LayoutFront (blanks ++ ("layout".toList ++ (gap ++ '(' :: (arguments ++ ')' :: behind))))

/-- The qualifiers that tell how precise a value is. -/
def precisions : List Text := ["highp".toList, "mediump".toList, "lowp".toList]

/-- What stands between `out` and the type that it declares. -/
inductive PrecisionFront : Option Text → Text → Prop
  | none : PrecisionFront none []
  | precise {precision gap : Text} : precision ∈ precisions → gap ≠ [] → White gap →
      PrecisionFront (some precision) (precision ++ gap)

/-- The form of a line that declares an output, with a precision or without. -/
inductive OutputDeclaration (name : Text) (precision : Option Text) : Text → Prop
  | mk {front gap qualified type gap' blanks rest : Text} : LayoutFront front → gap ≠ [] → White gap →
      PrecisionFront precision qualified → IsWord type → gap' ≠ [] → White gap' → IsWord name → White blanks →
      OutputDeclaration name precision
        (front ++ ("out".toList ++ (gap ++ (qualified ++ (type ++ (gap' ++ (name ++ (blanks ++ ';' :: rest))))))))

theorem drop?_append (p t : Text) : drop? p (p ++ t) = some t := by
  have front : startsWith (p ++ t) p = true := List.isPrefixOf_iff_prefix.mpr (List.prefix_append p t)
  rw [drop?, if_pos front, List.drop_left]

/-- The layout and the white space in front of a declaration are skipped. -/
theorem LayoutFront.skipLayout_eq {front : Text} (layout : LayoutFront front) (t : Text) :
    skipLayout (trimLeft (front ++ ("out".toList ++ t))) = "out".toList ++ t := by
  cases layout with
  | none white =>
    rw [trimLeft_append white rfl]
    rfl
  | @layout blanks gap arguments behind white white' inside white'' =>
    have opening : trimLeft (gap ++ '(' :: (arguments ++ ')' :: (behind ++ ("out".toList ++ t)))) =
        '(' :: (arguments ++ ')' :: (behind ++ ("out".toList ++ t))) := trimLeft_append white' rfl
    have closing : (arguments ++ ')' :: (behind ++ ("out".toList ++ t))).dropWhile (· != ')') =
        ')' :: (behind ++ ("out".toList ++ t)) := by
      rw [List.dropWhile_append_of_pos]
      · rfl
      · intro c member
        have other : c ≠ ')' := fun same => inside (same ▸ member)
        simpa using other
    simp only [List.append_assoc, List.cons_append]
    rw [trimLeft_append white rfl, skipLayout, drop?_append, Option.map_some, opening]
    simp only [closing]
    exact trimLeft_append white'' rfl

theorem isWord_of_mem_precisions {precision : Text} (listed : precision ∈ precisions) : IsWord precision := by
  have all : ∀ precision ∈ precisions, IsWord precision := by decide
  exact all precision listed

/-- The declaration of an output is recognised exactly if it has no precision. -/
theorem OutputDeclaration.declaredOutput?_eq {name line : Text} {precision : Option Text}
    (declaration : OutputDeclaration name precision line) :
    declaredOutput? line = if precision = none then some name else none := by
  obtain ⟨layout, filled, white, qualified, isType, filled', white', isName, white''⟩ := declaration
  rename_i front gap qualifiers type gap' blanks rest
  have semicolon : Gap (blanks ++ ';' :: rest) := by
    cases blanks with
    | nil => rfl
    | cons c others => exact gap_blank_append (List.cons_ne_nil c others) white'' _
  have typed : splitWord (type ++ (gap' ++ (name ++ (blanks ++ ';' :: rest)))) =
      (type, gap' ++ (name ++ (blanks ++ ';' :: rest))) := splitWord_append isType.all (gap_blank_append filled' white' _)
  have named : splitWord (name ++ (blanks ++ ';' :: rest)) = (name, blanks ++ ';' :: rest) :=
    splitWord_append isName.all semicolon
  rw [declaredOutput?, layout.skipLayout_eq, drop?_append, Option.bind_eq_bind, Option.bind_some]
  cases qualified with
  | none =>
    rw [List.nil_append, gap?_append filled white (not_blank_of_isWord isType _), Option.bind_some, typed]
    simp only [gap?_append filled' white' (not_blank_of_isWord isName _), Option.bind_some, named,
      trimLeft_append white'' (show (';' :: rest).head?.any isBlank = false from rfl)]
    simp [isType.ne_nil, isName.ne_nil, startsWith]
  | @precise precision between listed filled'' white''' =>
    have isPrecision := isWord_of_mem_precisions listed
    -- The precision passes for the type, and the type for the name.
    rw [List.append_assoc, gap?_append filled white (not_blank_of_isWord isPrecision _), Option.bind_some,
      splitWord_append isPrecision.all (gap_blank_append filled'' white''' _)]
    simp only [gap?_append filled'' white''' (not_blank_of_isWord isType _), Option.bind_some, typed,
      trimLeft_append white' (not_blank_of_isWord isName _)]
    have other : startsWith (name ++ (blanks ++ ';' :: rest)) [';'] = false := by
      obtain ⟨c, others, rfl⟩ := List.exists_cons_of_ne_nil isName.ne_nil
      have apart : c ≠ ';' := by
        rintro rfl
        exact absurd (isName.all _ List.mem_cons_self) (by decide)
      simp [startsWith, List.isPrefixOf, apart.symm]
    simp [isPrecision.ne_nil, isType.ne_nil, other]

/-! ## Assignments -/

/-- The operators that assign. -/
inductive AssignmentOperator where
  | set
  | add
  | subtract
  | multiply
  | divide
  | remainder
  | conjunction
  | disjunction
  | exclusion
  | shiftLeft
  | shiftRight
  deriving DecidableEq, Repr

/-- What stands in front of the equals sign of an operator. -/
def AssignmentOperator.front : AssignmentOperator → Text
  | set => []
  | add => ['+']
  | subtract => ['-']
  | multiply => ['*']
  | divide => ['/']
  | remainder => ['%']
  | conjunction => ['&']
  | disjunction => ['|']
  | exclusion => ['^']
  | shiftLeft => ['<', '<']
  | shiftRight => ['>', '>']

/-- Whether an operator shifts the old value. -/
def AssignmentOperator.shifts (operator : AssignmentOperator) : Bool := operator = shiftLeft || operator = shiftRight

/-- What selects a part of a value: fields and elements, in any order. -/
inductive Selector : Text → Prop
  | whole : Selector []
  | field {name t : Text} : IsWord name → Selector t → Selector ('.' :: (name ++ t))
  | element {index t : Text} : (∀ c ∈ index, c ≠ ';' ∧ c ≠ '=') → Selector t → Selector ('[' :: (index ++ ']' :: t))

/-- The form of the code of a line that assigns to a name, or to a part of what it names. -/
inductive Assignment (name : Text) (operator : AssignmentOperator) : Text → Prop
  | mk {indent selector blanks value : Text} : White indent → Selector selector → White blanks → value.head? ≠ some '=' →
      Assignment name operator (indent ++ (name ++ (selector ++ (blanks ++ (operator.front ++ '=' :: value)))))

/-- Whether an equals sign behind a character is that of a comparison. -/
def compares (c : Char) : Bool := c == '!' || c == '<' || c == '>' || c == '='

/-- What holds of none of the characters of a comparison tells that a character is none of them. -/
theorem compares_eq_false {p : Char → Bool} (outside : ['!', '<', '>', '='].any p = false) {c : Char}
    (inside : p c = true) : compares c = false := by
  have apart : ∀ d ∈ ['!', '<', '>', '='], (c == d) = false := by
    intro d listed
    apply beq_false_of_ne
    rintro rfl
    exact List.any_eq_false.mp outside c listed inside
  rw [compares, apart '!' (by decide), apart '<' (by decide), apart '>' (by decide), apart '=' (by decide)]
  rfl

theorem compares_of_isWord {c : Char} (inside : isWord c = true) : compares c = false :=
  compares_eq_false (by decide) inside

theorem compares_of_isBlank {c : Char} (white : isBlank c = true) : compares c = false :=
  compares_eq_false (by decide) white

/-- Up to an equals sign or a semicolon, of the text in front of an assignment only the last character counts. -/
theorem assigns_plain_append {front : Text} (plain : ∀ c ∈ front, c ≠ ';' ∧ c ≠ '=') (before : Char) (t : Text) :
    assigns before (front ++ t) = assigns (front.getLast?.getD before) t := by
  induction front generalizing before with
  | nil => rfl
  | cons c rest ih =>
    obtain ⟨semicolon, equals⟩ := plain c List.mem_cons_self
    rw [List.cons_append, assigns_cons semicolon equals, ih fun d member => plain d (List.mem_cons_of_mem c member),
      List.getLast?_cons, Option.getD_some]

theorem assigns_equals (before : Char) {value : Text} (other : value.head? ≠ some '=') :
    assigns before ('=' :: value) = !compares before := by
  have next : (value.head? != some '=') = true := by simpa using other
  simp [assigns, compares, next]

theorem Selector.plain {selector : Text} (selects : Selector selector) : ∀ c ∈ selector, c ≠ ';' ∧ c ≠ '=' := by
  induction selects with
  | whole => exact fun c member => absurd member List.not_mem_nil
  | @field name t isName _ ih =>
    intro c member
    rcases List.mem_cons.mp member with rfl | member
    · decide
    · rcases List.mem_append.mp member with inside | later
      · constructor <;> rintro rfl <;> exact absurd (isName.all _ inside) (by decide)
      · exact ih c later
  | @element index t plain _ ih =>
    intro c member
    rcases List.mem_cons.mp member with rfl | member
    · decide
    · rcases List.mem_append.mp member with inside | later
      · exact plain c inside
      · rcases List.mem_cons.mp later with rfl | later
        · decide
        · exact ih c later

/-- No selector ends with a character that makes a comparison of an equals sign. -/
theorem Selector.compares_last {selector : Text} (selects : Selector selector) {before : Char}
    (other : compares before = false) : compares (selector.getLast?.getD before) = false := by
  induction selects generalizing before with
  | whole => exact other
  | @field name t isName _ ih =>
    have last : ('.' :: (name ++ t)).getLast?.getD before = t.getLast?.getD (name.getLast isName.ne_nil) := by
      rw [List.getLast?_cons, Option.getD_some, List.getLast?_append, List.getLast?_eq_some_getLast isName.ne_nil]
      cases t.getLast? <;> rfl
    rw [last]
    exact ih (compares_of_isWord (isName.all _ (List.getLast_mem _)))
  | @element index t _ _ ih =>
    have last : ('[' :: (index ++ ']' :: t)).getLast?.getD before = t.getLast?.getD ']' := by
      rw [List.getLast?_cons, Option.getD_some, List.getLast?_append, List.getLast?_cons]
      rfl
    rw [last]
    exact ih rfl

theorem AssignmentOperator.plain (operator : AssignmentOperator) : ∀ c ∈ operator.front, c ≠ ';' ∧ c ≠ '=' := by
  cases operator <;> simp [front]

/-- Behind a name and a selector every operator is taken for an assignment but those that shift. -/
theorem assigns_operator {selector blanks value : Text} (selects : Selector selector) (white : White blanks)
    (other : value.head? ≠ some '=') (operator : AssignmentOperator) {before : Char} (follows : compares before = false) :
    assigns before (selector ++ (blanks ++ (operator.front ++ '=' :: value))) = !operator.shifts := by
  have plain : ∀ c ∈ blanks, c ≠ ';' ∧ c ≠ '=' := by
    intro c member
    constructor <;> rintro rfl <;> exact absurd (white _ member) (by decide)
  rw [assigns_plain_append selects.plain, assigns_plain_append plain, assigns_plain_append operator.plain,
    assigns_equals _ other]
  have last : compares (blanks.getLast?.getD (selector.getLast?.getD before)) = false := by
    cases found : blanks.getLast? with
    | none => exact selects.compares_last follows
    | some c => exact compares_of_isBlank (white c (List.mem_of_getLast? found))
  cases operator with
  | set => simpa [AssignmentOperator.front, AssignmentOperator.shifts] using last
  | _ => rfl

/-- What follows a name in an assignment begins with no word character. -/
theorem gap_operator {selector blanks : Text} (selects : Selector selector) (white : White blanks)
    (operator : AssignmentOperator) (value : Text) : Gap (selector ++ (blanks ++ (operator.front ++ '=' :: value))) := by
  cases selects with
  | whole =>
    cases blanks with
    | nil => cases operator <;> rfl
    | cons c rest => exact gap_blank_append (List.cons_ne_nil c rest) white _
  | field | element => rfl

/-- An assignment to an output is recognised, unless its operator shifts. -/
theorem Assignment.writesOutput {name code : Text} {operator : AssignmentOperator} (assignment : Assignment name operator code)
    (noShift : operator.shifts = false) {lines : List Text} (listed : name ∈ outputs lines) :
    writesOutput (outputs lines) code = true := by
  obtain ⟨white, selects, white', other⟩ := assignment
  have isName := isWord_of_mem_outputs listed
  have last := compares_of_isWord (isName.all _ (List.getLast_mem isName.ne_nil))
  refine List.any_eq_true.mpr ⟨name, listed, ?_⟩
  rw [writesAfter_blank_append isName white, writesAfter_append isName isName (gap_operator selects white' operator _) rfl,
    assigns_operator selects white' other operator last, noShift]
  simp

end ShaderShrink.Code
