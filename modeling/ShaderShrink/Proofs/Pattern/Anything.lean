import ShaderShrink.Pattern.ErrorString
import ShaderShrink.Proofs.Pattern.Language
import ShaderShrink.Proofs.Pattern.Reading

/-!
# Anything around a pattern

A bar binds less than what stands in front of it and behind it.  So what is put in front of a text with bars goes with its
first alternative, and what is put behind it goes with its last one.
-/

namespace ShaderShrink.Pattern

/-- Any number of any characters. -/
def dots : Node := .loop .greedy 0 none (.one (.any true))

/-! ## Tokens -/

/-- The texts of tokens do not depend on where the tokens stand. -/
theorem map_text_tokensFrom (position position' : Nat) (t : Text) :
    (tokensFrom position t).map (·.text) = (tokensFrom position' t).map (·.text) := by
  fun_induction tokensFrom position t generalizing position' with
  | case1 => rfl
  | case2 position c rest ih => rw [List.map_cons, ih (position' + 2), tokensFrom, List.map_cons]
  | case3 position c rest other ih =>
    rw [List.map_cons, ih (position' + 1), tokensFrom, List.map_cons]
    exact other

theorem Dangling.cons {tokens : List Token} (dangling : Dangling tokens) (token : Token) : Dangling (token :: tokens) := by
  obtain ⟨last, front, text⟩ := Option.map_eq_some_iff.mp dangling
  rw [Dangling, List.getLast?_cons, front, Option.getD_some, Option.map_some, text]

/-- A text is cut in the same way if something is put behind it, unless it ends with a backslash that nothing follows. -/
theorem map_text_tokensFrom_append (position : Nat) {t behind : Text} (whole : ¬Dangling (tokensFrom position t)) :
    (tokensFrom position (t ++ behind)).map (·.text) =
      (tokensFrom position t).map (·.text) ++ (tokensFrom 0 behind).map (·.text) := by
  fun_induction tokensFrom position t with
  | case1 position => exact map_text_tokensFrom _ _ _
  | case2 position c rest ih =>
    rw [List.cons_append, List.cons_append, tokensFrom, List.map_cons, ih (mt (·.cons _) whole), List.map_cons,
      List.cons_append]
  | case3 position c rest other ih =>
    have plain : c ≠ '\\' := by
      rintro rfl
      cases rest with
      | nil => exact whole rfl
      | cons c rest => exact other c rest rfl rfl
    rw [List.cons_append, tokensFrom, List.map_cons, ih (mt (·.cons _) whole), List.map_cons, List.cons_append]
    exact fun _ _ same => absurd same plain

/-! ## Items -/

section Items

variable {fuel fuel' : Nat} {c c' d : Cursor} {a done : List Node}

theorem eagerness_eq (next : ∀ token ∈ c.tokens.head?, token.text ≠ ['?'] ∧ token.text ≠ ['+']) :
    eagerness c = .ok (.greedy, c) := by
  rw [eagerness, bind_of_ok (peek_eq c)]
  cases front : c.tokens.head? with
  | none => rfl
  | some token =>
    obtain ⟨question, plus⟩ := next token front
    change _ = (pure Eagerness.greedy : Reading Eagerness) c
    refine congrFun ?_ c
    rw [Option.map_some]
    split
    · rename_i mark
      exact absurd (Option.some.inj mark) question
    · rename_i mark
      exact absurd (Option.some.inj mark) plus
    · rfl

/-- A dot and an asterisk are an item of its own. -/
theorem items_dots {dot asterisk : Token} {rest : List Token} (here : c.tokens = dot :: asterisk :: rest)
    (texts : dot.text = ['.'] ∧ asterisk.text = ['*'])
    (next : ∀ token ∈ rest.head?, token.text ≠ ['?'] ∧ token.text ≠ ['+']) :
    items errorModes (fuel + 2) done c = items errorModes fuel (dots :: done) { c with tokens := rest } := by
  have reads : ∀ k, nextItems errorModes dot.position (fuel + 1) ['.'] done k = .ok (.one (.any true) :: done, k) := fun _ => rfl
  rw [items_step here (by rw [texts.1]; decide), texts.1, bind_of_ok (reads _), items_step rfl (by rw [texts.2]; decide), texts.2]
  refine bind_of_ok
    (?_ : nextItems errorModes asterisk.position fuel ['*'] (.one (.any true) :: done) _ = .ok (dots :: done, _)) _
  exact bind_of_ok (eagerness_eq next) _

/-- The ending is the last item. -/
theorem sequence_dots (done before : List Node) :
    sequence (dots :: (done ++ before)) = sequence before ++ sequence done ++ [dots] := by
  simp [sequence, Node.unwrapped, dots]

/-- Items are read in front of the ending as they are on their own.  The ending belongs to those at the end of the text. -/
theorem items_around (before : List Node) (more : fuel + 2 ≤ fuel') (ends : c.WithEnding c')
    (success : items errorModes fuel [] c = .ok (a, d)) :
    c.Reaches d ∧
      ((d.tokens = [] ∧ ∃ d', items errorModes fuel' before c' = .ok (sequence before ++ a ++ [dots], d') ∧ d.Agrees d' ∧
          d'.tokens = []) ∨
        d.tokens ≠ [] ∧ ∃ d', items errorModes fuel' before c' = .ok (sequence before ++ a, d') ∧ d.WithEnding d') := by
  obtain ⟨reaches, stop, done, left, d', rfl, enough, ends, same⟩ :=
    (readsOn fuel).items before (Nat.le_trans (Nat.le_add_right _ 2) more) ends success nofun
  obtain ⟨left, rfl⟩ : ∃ n, left = n + 3 := ⟨left - 3, by omega⟩
  rw [List.nil_append] at same
  refine ⟨reaches, ?_⟩
  by_cases last : d.tokens = []
  · have texts := ends.tokens
    rw [last] at texts
    obtain ⟨dot, _, here, dotText, texts⟩ := List.map_eq_cons_iff.mp texts
    obtain ⟨asterisk, _, rfl, asteriskText, texts⟩ := List.map_eq_cons_iff.mp texts
    obtain rfl := List.map_eq_nil_iff.mp texts
    refine .inl ⟨last, { d' with tokens := [] }, ?_, ⟨ends.groups, ends.names, ends.lookBehind, ends.depth, ends.references⟩, rfl⟩
    rw [same, items_dots here ⟨dotText, asteriskText⟩ (by simp), items_stop (by simp), sequence_dots]
  · refine .inr ⟨last, d', ?_, ends⟩
    rw [same, items_stop fun token next => stop token ?_]
    · simp [sequence, Node.unwrapped]
    · rcases ends.head? with head | ⟨empty, -⟩
      · rwa [← head]
      · exact absurd empty last

/-- So are the alternatives behind the first one, and the ending belongs to the last of them. -/
theorem otherBranches_around (more : fuel + 2 ≤ fuel') (ends : c.WithEnding c') (filled : c.tokens ≠ [])
    {others : List (List Node)}
    (success : otherBranches errorModes fuel c = .ok (others, d)) (empty : d.tokens = []) :
    ¬Dangling c.tokens ∧ ∃ middle last d', others = middle ++ [last] ∧
      otherBranches errorModes fuel' c' = .ok (middle ++ [last ++ [dots]], d') ∧ d.Agrees d' ∧ d'.tokens = [] := by
  induction fuel generalizing fuel' c c' others with
  | zero => cases success
  | succ fuel ih =>
    obtain ⟨fuel', rfl⟩ : ∃ n, fuel' = n + 1 := ⟨fuel' - 1, by omega⟩
    have more := Nat.le_of_succ_le_succ more
    rw [otherBranches] at success ⊢
    obtain ⟨bar, k, run, success⟩ := bind_ok success
    obtain ⟨reaches, _, k', run', rfl, ends⟩ := skip_simulates (by decide) c c' ends bar k run
    rw [bind_of_ok run']
    cases bar with
    | false =>
      -- Something else is there, at which nothing more is read.
      rw [skip_eq] at run
      split_ifs at run
      · cases run
      · cases run
        cases success
        exact absurd empty filled
    | true =>
      rw [if_pos rfl] at success ⊢
      obtain ⟨next, m, run, success⟩ := bind_ok success
      obtain ⟨later, _, run', success⟩ := bind_ok success
      cases success
      obtain ⟨reaches', ⟨last, m', around, agrees, last'⟩ | ⟨inside, m', around, ends⟩⟩ :=
        items_around [] more ends run
      · cases fuel with
        | zero => cases run'
        | succ fuel =>
          obtain ⟨fuel', rfl⟩ : ∃ n, fuel' = n + 1 := ⟨fuel' - 1, by omega⟩
          rw [otherBranches_end last] at run'
          cases run'
          refine ⟨(reaches.trans reaches').not_dangling last, [], next, m', rfl, ?_, agrees, last'⟩
          rw [bind_of_ok around, bind_of_ok (otherBranches_end last' _ _)]
          rfl
      · obtain ⟨whole, middle, final, d', rfl, around', agrees, empty'⟩ := ih more ends inside run'
        refine ⟨mt (reaches.trans reaches').dangling whole, next :: middle, final, d', rfl, ?_, agrees, empty'⟩
        rw [bind_of_ok around, bind_of_ok around']
        rfl

end Items

/-! ## Whole texts -/

/-- Where the reading of a text begins. -/
def Cursor.start (t : Text) : Cursor := ⟨tokensFrom 0 t, t.length, [none], [], none, [], 0⟩

/-- Enough fuel to read the alternatives of a text. -/
def Cursor.fuel (c : Cursor) : Nat := 5 * c.tokens.length + 4

/-- The first alternative of a text, and the others. -/
def alternatives (modes : Modes) (t : Text) : Except Refusal (List Node × List (List Node)) := do
  let fuel := (Cursor.start t).fuel
  let (first, c) ← items modes fuel [] (.start t)
  let (others, _) ← otherBranches modes fuel c
  return (first, others)

/-- Gives a pattern that was read back, if nothing is left and if it can be used. -/
def checked (node : Node) : Reading Node := do
  if (← peek).isSome then refuse .unopenedGroup 0
  let cursor ← get
  match cursor.references.find? fun entry => cursor.groups.length ≤ entry.1 with
  | some (number, position) => refuseAt (.invalidGroup number) position
  | none =>
    if !node.looksBackFixed then throw (.problem .lookBehindWidth none)
    else if !node.looksBackNear then throw (.fault (.runtime "invalid SRE code"))
    else return node

/-- Every group that a choice names has to be there, and nothing may go back too far. -/
theorem checked_iff {node found : Node} {c d : Cursor} : checked node c = .ok (found, d) ↔
    c.tokens = [] ∧ (∀ group ∈ c.references.map (·.1), group < c.groups.length) ∧ node.looksBackFixed = true ∧
      node.looksBackNear = true ∧ found = node ∧ d = c := by
  have named : (∀ group ∈ c.references.map (·.1), group < c.groups.length) ↔
      c.references.find? (fun entry => c.groups.length ≤ entry.1) = none := by simp
  rw [checked, bind_of_ok (peek_eq c), named]
  by_cases empty : c.tokens = []
  · have nothing : ¬(c.tokens.head?.map (·.text)).isSome = true := by simp [empty]
    rw [if_neg nothing]
    dsimp only
    rw [bind_of_ok (get_eq c)]
    cases c.references.find? fun entry => c.groups.length ≤ entry.1 with
    | some entry => exact iff_of_false nofun (fun passed => nomatch passed.2.1)
    | none =>
      cases node.looksBackFixed <;> cases node.looksBackNear
      case true.true =>
        refine ⟨fun success => ?_, fun ⟨_, _, _, _, found, there⟩ => found ▸ there ▸ rfl⟩
        cases success
        exact ⟨empty, rfl, rfl, rfl, rfl, rfl⟩
      all_goals exact iff_of_false nofun (by simp)
  · have something : (c.tokens.head?.map (·.text)).isSome = true := by simpa [List.isSome_head?] using empty
    rw [if_pos something]
    exact iff_of_false nofun (fun passed => empty passed.1)

/-- Whether a pattern can be used depends on the pattern and on the groups alone. -/
theorem checked_of_agrees {node node' found : Node} {c c' d : Cursor} (passed : checked node c = .ok (found, d))
    (agrees : c.Agrees c') (empty : c'.tokens = []) (regular : node'.isRegular = true) :
    checked node' c' = .ok (node', c') := by
  obtain ⟨-, named, -⟩ := checked_iff.mp passed
  obtain ⟨backFixed, backNear⟩ := Node.looksBack_of_isRegular regular
  rw [← agrees.references, ← agrees.groups] at named
  exact checked_iff.mpr ⟨empty, named, backFixed, backNear, rfl, rfl⟩

theorem exists_of_map_fst {α : Type} {result : Except Refusal (α × Cursor)} {a : α} (success : result.map (·.1) = .ok a) :
    ∃ d, result = .ok (a, d) := by
  cases result with
  | error refusal => cases success
  | ok result =>
    cases success
    exact ⟨result.2, rfl⟩

/-- A text is read as a pattern if its alternatives can be read and used. -/
theorem read_iff {modes : Modes} {t : Text} {node : Node} : read modes t = .ok node ↔
    ∃ first k others d, items modes (Cursor.start t).fuel [] (.start t) = .ok (first, k) ∧
      otherBranches modes (Cursor.start t).fuel k = .ok (others, d) ∧
      checked (.ofAlternatives modes.caseRule first others) d = .ok (node, d) := by
  have unfolded : read modes t = ((branches modes ((Cursor.start t).fuel + 1) >>= checked) (.start t)).map (·.1) := rfl
  rw [unfolded, branches]
  simp only [bind_assoc, pure_bind]
  constructor
  · intro success
    obtain ⟨d, success⟩ := exists_of_map_fst success
    obtain ⟨first, k, run, success⟩ := bind_ok success
    obtain ⟨others, d', run', passed⟩ := bind_ok success
    obtain ⟨-, -, -, -, -, rfl⟩ := checked_iff.mp passed
    exact ⟨first, k, others, d, run, run', passed⟩
  · rintro ⟨first, k, others, d, run, run', passed⟩
    rw [bind_of_ok run, bind_of_ok run', passed]
    rfl

/-! ## Anything around a text -/

/-- What the alternatives of a text become with anything around it: what stands in front goes with the first one, and what
stands behind goes with the last one. -/
def around (first : List Node) (others : List (List Node)) : Node :=
  match others.getLast? with
  | none => .ofParts (dots :: first ++ [dots])
  | some last => .eitherOf (dots :: first) (others.dropLast ++ [last ++ [dots]])

variable {first last : List Node} {others middle : List (List Node)}

theorem around_append : around first (middle ++ [last]) = .eitherOf (dots :: first) (middle ++ [last ++ [dots]]) := by
  rw [around, List.getLast?_concat, List.dropLast_concat]

/-- Alternatives that begin with anything have nothing in common that would stand in front of them. -/
theorem ofAlternatives_dots (rule : CaseRule) (some : others ≠ []) :
    Node.ofAlternatives rule (dots :: first) others = .eitherOf (dots :: first) others := by
  have split : Node.splitFront (dots :: first) others = ([], dots :: first, others) := rfl
  have noItems : Node.items? (dots :: first) = none := by cases first <;> rfl
  rw [Node.ofAlternatives, if_neg (by simpa using some), split]
  dsimp only
  rw [List.mapM_cons, noItems]
  rfl

theorem isRegular_around (regular : ∀ alternative ∈ first :: others, (Node.ofParts alternative).isRegular = true) :
    (around first others).isRegular = true := by
  have anything : dots.isRegular = true := rfl
  simp only [Node.isRegular_ofParts] at regular
  rcases List.eq_nil_or_concat others with rfl | ⟨middle, last, rfl⟩
  · rw [around, List.getLast?_nil, Node.isRegular_ofParts]
    simpa [anything, or_imp, forall_and] using regular
  · rw [List.concat_eq_append] at regular ⊢
    rw [around_append, Node.isRegular_eitherOf]
    simp only [Node.isRegular_ofParts]
    simpa [or_imp, forall_and, anything] using regular

theorem items_first {fuel : Nat} {c d : Cursor} {a : List Node} (success : items errorModes (fuel + 1) [] c = .ok (a, d)) :
    ∀ token ∈ c.tokens.head?, token.text ≠ ['?'] ∧ token.text ≠ ['+'] := by
  intro token front
  obtain ⟨rest, here⟩ := List.head?_eq_some_iff.mp front
  have refused : ∀ mark, token.text = mark → mark ≠ ['|'] → mark ≠ [')'] →
      ¬Refuses (nextItems errorModes token.position fuel mark []) := by
    rintro _ rfl bar parenthesis refuses
    rw [items_step here ⟨bar, parenthesis⟩] at success
    exact refuses.bind _ _ _ _ success
  exact ⟨fun mark => refused _ mark (by decide) (by decide) (refuses_refuseAt _ _),
    fun mark => refused _ mark (by decide) (by decide) (refuses_refuseAt _ _)⟩

/-- A text that is read as a pattern does not end with a backslash that nothing follows. -/
theorem not_dangling_of_read {t : Text} {node : Node} (success : read errorModes t = .ok node) :
    ¬Dangling (tokensFrom 0 t) := by
  obtain ⟨first, k, others, d, run, run', passed⟩ := read_iff.mp success
  obtain ⟨empty, -⟩ := checked_iff.mp passed
  let ended : Cursor := { Cursor.start t with tokens := tokensFrom 0 t ++ [⟨['.'], 0⟩, ⟨['*'], 0⟩] }
  have ends : (Cursor.start t).WithEnding ended := ⟨⟨rfl, rfl, rfl, rfl, rfl⟩, List.map_append⟩
  obtain ⟨reaches, ⟨last, -⟩ | ⟨inside, k', -, ends⟩⟩ := items_around [] (Nat.le_refl _) ends run
  · exact reaches.not_dangling last
  · obtain ⟨whole, -⟩ := otherBranches_around (Nat.le_refl _) ends inside run' empty
    exact mt reaches.dangling whole

/-- With anything around it, a text is read as what its alternatives become. -/
theorem read_anything {t : Text} {node : Node} (success : read errorModes t = .ok node) (regular : node.isRegular = true) :
    ∃ first others, alternatives errorModes t = .ok (first, others) ∧ node = .ofAlternatives .exact first others ∧
      read errorModes (anything ++ t ++ anything) = .ok (around first others) := by
  have whole := not_dangling_of_read success
  obtain ⟨first, k, others, d, run, run', passed⟩ := read_iff.mp success
  obtain ⟨empty, -, -, -, rfl, -⟩ := checked_iff.mp passed
  have found : alternatives errorModes t = .ok (first, others) := by
    simp only [alternatives, run, run', bind, Except.bind]
    rfl
  refine ⟨first, others, found, rfl, read_iff.mpr ?_⟩
  have regular := isRegular_around (Node.isRegular_of_ofAlternatives regular)
  have tokens : (Cursor.start (anything ++ t ++ anything)).tokens =
      ⟨['.'], 0⟩ :: ⟨['*'], 1⟩ :: tokensFrom 2 (t ++ anything) := by simp [Cursor.start, anything, tokensFrom]
  let c : Cursor := { Cursor.start (anything ++ t ++ anything) with tokens := tokensFrom 2 (t ++ anything) }
  have ends : (Cursor.start t).WithEnding c :=
    ⟨⟨rfl, rfl, rfl, rfl, rfl⟩, (map_text_tokensFrom 2 0 _).trans (map_text_tokensFrom_append 0 whole)⟩
  have fuel : (Cursor.start (anything ++ t ++ anything)).fuel = (Cursor.start t).fuel + 18 + 2 := by
    have size : (tokensFrom 2 (t ++ anything)).length = (Cursor.start t).tokens.length + 2 := ends.length_tokens
    rw [Cursor.fuel, Cursor.fuel, tokens, List.length_cons, List.length_cons]
    omega
  have next : ∀ token ∈ c.tokens.head?, token.text ≠ ['?'] ∧ token.text ≠ ['+'] := by
    intro token front
    have text : c.tokens.head?.map (·.text) = some token.text := congrArg (Option.map (·.text)) front
    rcases ends.head? with same | ⟨-, dot⟩
    · obtain ⟨token', front', same⟩ := Option.map_eq_some_iff.mp (same.symm.trans text)
      exact same ▸ items_first (show items errorModes (5 * _ + 3 + 1) [] _ = _ from run) token' front'
    · rw [← Option.some.inj (dot.symm.trans text)]
      decide
  have begins : items errorModes (Cursor.start (anything ++ t ++ anything)).fuel [] (.start (anything ++ t ++ anything)) =
      items errorModes ((Cursor.start t).fuel + 18) [dots] c := by
    rw [fuel]
    exact items_dots tokens ⟨rfl, rfl⟩ next
  obtain ⟨-, ⟨last, k', around, agrees, last'⟩ | ⟨inside, k', around, ends⟩⟩ :=
    items_around [dots] (Nat.add_le_add_left (by decide : 2 ≤ 18) _) ends run
  · have run' := (otherBranches_end last _ _).symm.trans run'
    cases run'
    exact ⟨_, k', [], k', begins.trans around, otherBranches_end last' _ _, checked_of_agrees passed agrees last' regular⟩
  · obtain ⟨-, middle, last, d', rfl, around', agrees, empty'⟩ :=
      otherBranches_around (Nat.add_le_add_left (by decide : 2 ≤ 20) _) ends inside run' empty
    refine ⟨_, k', _, d', begins.trans around, fuel ▸ around', ?_⟩
    rw [around_append] at regular ⊢
    exact (congrArg (checked · d') (ofAlternatives_dots _ (by simp))).trans (checked_of_agrees passed agrees empty' regular)

end ShaderShrink.Pattern
