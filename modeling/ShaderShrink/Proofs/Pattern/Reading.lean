import ShaderShrink.Proofs.Pattern.Element

/-!
# Reading on

A text in front of a dot and an asterisk is read as it is on its own: its items are read with what stands behind them, and
its alternatives and groups as far as they are closed.
-/

namespace ShaderShrink.Pattern

open Simulates

/-! ## Items -/

/-- Reads on from a token that is no bar and no closing parenthesis: gives the items up to and with the one that the token
begins, the last one first. -/
def nextItems (modes : Modes) (start fuel : Nat) (token : Text) (done : List Node) : Reading (List Node) := do
  if modes.verbose && isVerboseSpace token then return done
  else if modes.verbose && token == ['#'] then
    skipLine ((← get).tokens.length + 1)
    return done
  else
    match token with
    | ['*'] => repeatLast start 0 none done
    | ['+'] => repeatLast start 1 none done
    | ['?'] => repeatLast start 0 (some 1) done
    | ['\x7b'] =>
      if (← peek) == some ['\x7d'] then return literal modes 123 :: done
      else
        match ← braces? with
        | none => return literal modes 123 :: done
        | some braces =>
          let (least, most) ← bracesBounds (start + 1) braces
          repeatLast start least most done
    | ['('] =>
      match ← group modes start fuel with
      | some node => return node :: done
      | none => return done
    | token => return (← simpleItem modes start token) :: done

section Items

variable {modes : Modes} {fuel : Nat} {done : List Node} {c : Cursor}

/-- At the end of an alternative its items have been read. -/
theorem items_stop (ends : ∀ token, c.tokens.head?.map (·.text) = some token → token = ['|'] ∨ token = [')']) :
    items modes (fuel + 1) done c = .ok (sequence done, c) := by
  rw [items, bind_of_ok (show tell c = .ok (_, c) from rfl), bind_of_ok (peek_eq c)]
  cases next : c.tokens.head?.map (·.text) with
  | none => rfl
  | some token =>
    dsimp only
    rcases ends token next with rfl | rfl <;> rfl

/-- Before that a token begins the next item. -/
theorem items_step {token : Token} {rest : List Token} (here : c.tokens = token :: rest)
    (inside : token.text ≠ ['|'] ∧ token.text ≠ [')']) :
    items modes (fuel + 1) done c =
      (nextItems modes token.position fuel token.text done >>= items modes fuel) { c with tokens := rest } := by
  have start : tell c = .ok (token.position, c) := by
    change Except.ok _ = _
    rw [here]
    rfl
  rw [items, bind_of_ok start, bind_of_ok (peek_eq c), here, List.head?_cons, Option.map_some]
  dsimp only
  rw [if_neg (by simpa using inside), bind_of_ok (advance_eq c), here, List.tail_cons]
  refine congrFun ?_ _
  generalize token.text = text
  unfold nextItems
  split_ifs
  · simp only [pure_bind]
  · simp only [bind_assoc, pure_bind]
  · split
    · rfl
    · rfl
    · rfl
    · simp only [bind_assoc]
      congr 1
      funext next
      split_ifs
      · simp only [pure_bind]
      · simp only [bind_assoc]
        congr 1
        funext found
        cases found <;> simp only [pure_bind, bind_assoc]
    · simp only [bind_assoc]
      congr 1
      funext found
      cases found <;> simp only [pure_bind]
    · simp only [bind_assoc, pure_bind]

end Items

/-- The rest of a line is left out in both texts, if something stands behind it. -/
theorem skipLine_simulatesAt {fuel fuel' : Nat} (more : fuel ≤ fuel') {c c' : Cursor} (ends : c.WithEnding c')
    (enough : c.tokens.length < fuel) {a : Unit} {d : Cursor} (success : skipLine fuel c = .ok (a, d)) :
    d.tokens = [] ∨ c.Reaches d ∧ ∃ d', skipLine fuel' c' = .ok ((), d') ∧ d.WithEnding d' := by
  induction fuel generalizing fuel' c c' with
  | zero => exact absurd enough (Nat.not_lt_zero _)
  | succ fuel ih =>
    obtain ⟨fuel', rfl⟩ : ∃ n, fuel' = n + 1 := ⟨fuel' - 1, by omega⟩
    rw [skipLine, bind_of_ok (take_eq c)] at success
    rw [skipLine, bind_of_ok (take_eq c')]
    cases here : c.tokens with
    | nil =>
      rw [here] at success
      cases success
      exact .inl rfl
    | cons token rest =>
      obtain ⟨token', rest', here', text, ends⟩ := ends.exists_cons here
      rw [here] at success enough
      rw [here', List.head?_cons, Option.map_some, text]
      dsimp only [List.head?_cons, Option.map_some, List.tail_cons] at success ⊢
      split_ifs at success ⊢
      · rename_i lineEnd
        cases success
        exact .inr ⟨.of_cons here rfl (.inl (by simp [eq_of_beq lineEnd])), _, rfl, ends⟩
      · cases rest with
        | nil =>
          -- The line ends with the text.
          cases fuel <;> cases success <;> exact .inl rfl
        | cons next rest =>
          refine (ih (Nat.le_of_succ_le_succ more) ends (by simpa using enough) success).imp_right fun found => ?_
          exact ⟨.trans (.of_cons here rfl (.inr (List.cons_ne_nil _ _))) found.1, found.2⟩

/-- A brace repeats the last item, or is a character. -/
theorem openBrace_simulates (modes : Modes) (start start' : Nat) (done before : List Node) :
    Simulates (fun a b => b = a ++ before)
      (do
        match ← braces? with
        | none => return literal modes 123 :: done
        | some braces =>
          let (least, most) ← bracesBounds (start + 1) braces
          repeatLast start least most done)
      (do
        match ← braces? with
        | none => return literal modes 123 :: (done ++ before)
        | some braces =>
          let (least, most) ← bracesBounds (start' + 1) braces
          repeatLast start' least most (done ++ before)) := by
  refine braces?_simulates.andThen fun found => ?_
  cases found with
  | none => exact .ofPure rfl
  | some braces =>
    exact (bracesBounds_simulates _ _ _).andThen fun bounds => repeatLast_simulates _ _ _ _ _ _

/-- A backslash that nothing follows begins no item. -/
theorem nextItems_backslash (modes : Modes) (start fuel : Nat) (done : List Node) :
    Refuses (nextItems modes start fuel ['\\'] done) := by
  have noSpace : ¬(modes.verbose && isVerboseSpace ['\\']) = true := by simp [isVerboseSpace]
  have noComment : ¬(modes.verbose && ['\\'] == ['#']) = true := by simp
  unfold nextItems
  rw [if_neg noSpace, if_neg noComment]
  exact (refuses_refuseAt _ _).bind _

/-- A token is read on from in both texts, whatever items stand in front, unless it begins a comment that ends with the text. -/
theorem nextItems_simulatesAt {modes : Modes} {start start' fuel fuel' : Nat} (before : List Node)
    (groups : Simulates Eq (group modes start fuel) (group modes start' fuel')) {token : Text} {done : List Node}
    {c c' : Cursor} (ends : c.WithEnding c') {a : List Node} {d : Cursor}
    (success : nextItems modes start fuel token done c = .ok (a, d)) :
    (modes.verbose = true ∧ d.tokens = []) ∨ c.Reaches d ∧
      ∃ d', nextItems modes start' fuel' token (done ++ before) c' = .ok (a ++ before, d') ∧ d.WithEnding d' := by
  by_cases comment : (modes.verbose && token == ['#']) = true
  · obtain ⟨verbose, hash⟩ := Bool.and_eq_true_iff.mp comment
    obtain rfl := beq_iff_eq.mp hash
    have noSpace : ¬(modes.verbose && isVerboseSpace ['#']) = true := by simp [isVerboseSpace]
    unfold nextItems at success ⊢
    rw [if_neg noSpace, if_pos comment] at success
    rw [if_neg noSpace, if_pos comment]
    obtain ⟨_, k, skipped, success⟩ := bind_ok
      (show (skipLine (c.tokens.length + 1) >>= fun _ => pure done) c = .ok (a, d) from success)
    cases success
    have more : c.tokens.length + 1 ≤ c'.tokens.length + 1 := by
      have size := ends.length_tokens
      omega
    rcases skipLine_simulatesAt more ends (Nat.lt_succ_self _) skipped with lost | ⟨reaches, k', skipped', ends⟩
    · exact .inl ⟨verbose, lost⟩
    · refine .inr ⟨reaches, k', ?_, ends⟩
      exact (bind_of_ok skipped' fun _ => pure (done ++ before) : _)
  · have simulates : Simulates (fun a b => b = a ++ before) (nextItems modes start fuel token done)
        (nextItems modes start' fuel' token (done ++ before)) := by
      unfold nextItems
      rw [if_neg comment, if_neg comment]
      refine .ite (.ofPure rfl) ?_
      split
      · exact repeatLast_simulates _ _ _ _ _ _
      · exact repeatLast_simulates _ _ _ _ _ _
      · exact repeatLast_simulates _ _ _ _ _ _
      · refine fun c c' ends => peek_simulatesAt ends (fun _ => ?_) fun next rest _ => ?_
        · rw [if_neg (by decide), if_neg (by decide)]
          exact openBrace_simulates modes start start' done before c c' ends
        · refine (Simulates.ite ?_ (openBrace_simulates modes start start' done before)) c c' ends
          exact .ofPure rfl
      · refine groups.andThen fun node => ?_
        cases node <;> exact .ofPure rfl
      · exact (simpleItem_simulates modes _ _ _).andThen fun node => .ofPure rfl
    obtain ⟨reaches, _, d', run, rfl, ends⟩ := simulates c c' ends a d success
    exact .inr ⟨reaches, d', run, ends⟩

/-! ## Parts of a pattern -/

/-- No parenthesis closes at the end of a text. -/
theorem closeParenthesis_needs (start : Nat) : Needs (closeParenthesis start) := by
  intro c empty a d success
  rw [closeParenthesis, bind_of_ok (skip_end empty ')')] at success
  cases success

/-- At the end of a text there are no more alternatives. -/
theorem otherBranches_end {c : Cursor} (empty : c.tokens = []) (modes : Modes) (fuel : Nat) :
    otherBranches modes (fuel + 1) c = .ok ([], c) := by
  rw [otherBranches, bind_of_ok (skip_end empty '|')]
  rfl

/-- Up to the fuel, whether everything that is read of a text is read of the text with the ending.  Items may be read up to
the end of the text; then the longer text is read on from there, with the same items. -/
structure ReadsOn (fuel : Nat) : Prop where
  items : ∀ {modes : Modes} {done a : List Node} (before : List Node) {fuel' : Nat} {c c' d : Cursor}, fuel ≤ fuel' →
    c.WithEnding c' → items modes fuel done c = .ok (a, d) → (modes.verbose = true → d.tokens ≠ []) →
    c.Reaches d ∧ (∀ token, d.tokens.head?.map (·.text) = some token → token = ['|'] ∨ token = [')']) ∧
      ∃ done' left d', a = sequence done' ∧ fuel' - fuel < left ∧ d.WithEnding d' ∧
        Pattern.items modes fuel' (done ++ before) c' = Pattern.items modes left (done' ++ before) d'
  otherBranches : ∀ (modes : Modes) {fuel' : Nat}, fuel ≤ fuel' →
    SimulatesInside (otherBranches modes fuel) (Pattern.otherBranches modes fuel')
  branches : ∀ (modes : Modes) {fuel' : Nat}, fuel ≤ fuel' → SimulatesInside (branches modes fuel) (Pattern.branches modes fuel')
  group : ∀ (modes : Modes) (start start' : Nat) {fuel' : Nat}, fuel ≤ fuel' →
    Simulates Eq (group modes start fuel) (Pattern.group modes start' fuel')

namespace ReadsOn

variable {fuel fuel' : Nat} {modes : Modes}

theorem stays_otherBranches : Stays (Pattern.otherBranches modes fuel) := by
  intro c empty a d success
  cases fuel with
  | zero => cases success
  | succ fuel =>
    rw [otherBranches_end empty] at success
    cases success
    exact empty

/-- In front of a bar or a parenthesis the items have been read in both texts. -/
theorem items_inside (reads : ReadsOn fuel) (more : fuel ≤ fuel') :
    SimulatesInside (Pattern.items modes fuel []) (Pattern.items modes fuel' []) := by
  intro c c' ends a d success filled
  obtain ⟨reaches, stop, done', left, d', rfl, enough, ends, same⟩ := reads.items [] more ends success fun _ => filled
  obtain ⟨left, rfl⟩ : ∃ n, left = n + 1 := ⟨left - 1, by omega⟩
  refine ⟨reaches, d', ?_, ends⟩
  rw [List.append_nil, List.append_nil] at same
  refine same.trans (items_stop fun token next => stop token ?_)
  rcases ends.head? with head | ⟨empty, -⟩
  · rwa [← head]
  · exact absurd empty filled

theorem items_succ (reads : ReadsOn fuel) {done a : List Node} (before : List Node) {c c' d : Cursor} (more : fuel + 1 ≤ fuel')
    (ends : c.WithEnding c') (success : Pattern.items modes (fuel + 1) done c = .ok (a, d))
    (inside : modes.verbose = true → d.tokens ≠ []) :
    c.Reaches d ∧ (∀ token, d.tokens.head?.map (·.text) = some token → token = ['|'] ∨ token = [')']) ∧
      ∃ done' left d', a = sequence done' ∧ fuel' - (fuel + 1) < left ∧ d.WithEnding d' ∧
        Pattern.items modes fuel' (done ++ before) c' = Pattern.items modes left (done' ++ before) d' := by
  obtain ⟨fuel', rfl⟩ : ∃ n, fuel' = n + 1 := ⟨fuel' - 1, by omega⟩
  have later := Nat.le_of_succ_le_succ more
  by_cases stop : ∀ token, c.tokens.head?.map (·.text) = some token → token = ['|'] ∨ token = [')']
  · rw [items_stop stop] at success
    cases success
    exact ⟨.refl c, stop, done, fuel' + 1, c', rfl, by omega, ends, rfl⟩
  obtain ⟨token, front, other⟩ : ∃ token, c.tokens.head? = some token ∧ token.text ≠ ['|'] ∧ token.text ≠ [')'] := by
    simpa using stop
  obtain ⟨rest, here⟩ := List.head?_eq_some_iff.mp front
  obtain ⟨token', rest', here', text', ends⟩ := ends.exists_cons here
  rw [items_step here other] at success
  rw [items_step here' (text' ▸ other)]
  obtain ⟨done₁, k, run, success⟩ := bind_ok success
  rcases nextItems_simulatesAt before (reads.group modes token.position token'.position later) ends run with
    ⟨verbose, lost⟩ | ⟨reaches, k', run', ends⟩
  · -- Nothing is left, so that the items end here.
    cases fuel with
    | zero => cases success
    | succ fuel =>
      rw [items_stop fun token next => by simp [lost] at next] at success
      cases success
      exact absurd lost (inside verbose)
  · obtain ⟨reaches', stop, done', left, d', same, enough, ends, reached⟩ := reads.items before later ends success inside
    have front : c.Reaches { c with tokens := rest } := by
      refine .of_cons here rfl (.inl fun backslash => ?_)
      rw [backslash] at run
      exact nextItems_backslash _ _ _ _ _ _ _ run
    refine ⟨front.trans (reaches.trans reaches'), stop, done', left, d', same, by omega, ends, ?_⟩
    rw [text', bind_of_ok run', reached]

theorem otherBranches_succ (reads : ReadsOn fuel) (more : fuel + 1 ≤ fuel') :
    SimulatesInside (Pattern.otherBranches modes (fuel + 1)) (Pattern.otherBranches modes fuel') := by
  obtain ⟨fuel', rfl⟩ : ∃ n, fuel' = n + 1 := ⟨fuel' - 1, by omega⟩
  have later := Nat.le_of_succ_le_succ more
  intro c c' ends a d success filled
  rw [Pattern.otherBranches] at success ⊢
  obtain ⟨more, k, run, success⟩ := bind_ok success
  obtain ⟨reaches, _, k', run', rfl, ends⟩ := skip_simulates (by decide) c c' ends more k run
  rw [bind_of_ok run']
  cases more with
  | false =>
    cases success
    exact ⟨reaches, k', rfl, ends⟩
  | true =>
    have rest : SimulatesInside
        (do return (← Pattern.items modes fuel []) :: (← Pattern.otherBranches modes fuel))
        (do return (← Pattern.items modes fuel' []) :: (← Pattern.otherBranches modes fuel')) :=
      (reads.items_inside later).andThen (fun _ => stays_otherBranches.bind fun _ => stays_pure _) fun next =>
        (reads.otherBranches modes later).andThen (fun _ => stays_pure _) fun _ => .ofSimulates (.ofPure rfl)
    obtain ⟨reaches', found⟩ := rest k k' ends a d success filled
    exact ⟨reaches.trans reaches', found⟩

theorem branches_succ (reads : ReadsOn fuel) (more : fuel + 1 ≤ fuel') :
    SimulatesInside (Pattern.branches modes (fuel + 1)) (Pattern.branches modes fuel') := by
  obtain ⟨fuel', rfl⟩ : ∃ n, fuel' = n + 1 := ⟨fuel' - 1, by omega⟩
  have later := Nat.le_of_succ_le_succ more
  exact (reads.items_inside later).andThen (fun _ => stays_otherBranches.bind fun _ => stays_pure _) fun first =>
    (reads.otherBranches modes later).andThen (fun _ => stays_pure _) fun _ => .ofSimulates (.ofPure rfl)

theorem group_succ (reads : ReadsOn fuel) (more : fuel + 1 ≤ fuel') (start start' : Nat) :
    Simulates Eq (Pattern.group modes start (fuel + 1)) (Pattern.group modes start' fuel') := by
  obtain ⟨fuel', rfl⟩ : ∃ n, fuel' = n + 1 := ⟨fuel' - 1, by omega⟩
  have later := Nat.le_of_succ_le_succ more
  have body : ∀ modes, SimulatesInside (nested 2 (Pattern.branches modes fuel)) (nested 2 (Pattern.branches modes fuel')) :=
    fun modes => nested_inside 2 (reads.branches modes later)
  have needs : ∀ (α : Type) (f : Unit → Reading α), Needs (closeParenthesis start >>= f) :=
    fun _ f => (closeParenthesis_needs start).bind f
  have closes : ∀ node : Node, Simulates Eq (do closeParenthesis start; return some node)
      (do closeParenthesis start'; return some node) :=
    fun node => (closeParenthesis_simulates start start').andThen fun _ => .ofPure rfl
  rw [Pattern.group, Pattern.group]
  refine (skip_simulates (by decide)).andThen fun asked => ?_
  refine .branch (extension_simulates modes start start') (.ofPure rfl) fun kind => ?_
  cases kind with
  | comment => exact .ofPure rfl
  | named node => exact .ofPure rfl
  | atomic => exact (body modes).bind (fun _ => needs _ _) fun node => closes _
  | plain changed modes => exact (body modes).bind (fun _ => needs _ _) fun node => closes _
  | capture name =>
    refine (openGroup_simulates name).andThen fun number => (body modes).bind (fun _ => needs _ _) fun node => ?_
    refine (closeParenthesis_simulates start start').andThen fun _ => ?_
    exact (closeGroup_simulates number node.width).andThen fun _ => .ofPure rfl
  | look behind negated =>
    refine ofGet.bind fun c c' ends => ?_
    rw [ends.lookBehind]
    dsimp only
    cases behind && c.lookBehind.isNone <;> simp only [Bool.false_eq_true, ↓reduceIte]
    · exact (body modes).bind (fun _ => needs _ _) fun node => closes _
    · refine .andThen (.ofModify (fun _ => rfl) fun _ _ ends => { ends with lookBehind := by rw [ends.groups] }) fun _ => ?_
      refine (body modes).bind (fun _ => Stays.needs (fun _ empty _ _ success => ?_) fun _ => needs _ _) fun node => ?_
      · cases success
        exact empty
      · exact .andThen (.ofModify (fun _ => rfl) fun _ _ ends => { ends with lookBehind := rfl }) fun _ => closes _
  | choice number =>
    have part : SimulatesInside (nested 1 (Pattern.items modes fuel [])) (nested 1 (Pattern.items modes fuel' [])) :=
      nested_inside 1 (reads.items_inside later)
    refine part.bind (fun yes c empty a d success => ?_) fun yes =>
      (skip_simulates (by decide)).andThen fun bar => .ite ?_ (closes _)
    · rw [bind_of_ok (skip_end empty '|'), if_neg Bool.false_ne_true] at success
      exact (stays_pure _).needs (fun _ => needs _ _) c empty a d success
    refine part.bind (fun no c empty a d success => ?_) fun no c c' ends => ?_
    · rw [bind_of_ok (peek_eq c), empty] at success
      dsimp only at success
      rw [if_neg (by decide)] at success
      exact (stays_pure _).needs (fun _ => needs _ _) c empty a d success
    refine peek_simulatesAt ends (fun _ => closes _ c c' ends) fun token rest _ => ?_
    exact Simulates.guard (closes _) c c' ends

end ReadsOn

/-- What is read of a text is read of the text with the ending. -/
theorem readsOn (fuel : Nat) : ReadsOn fuel := by
  induction fuel with
  | zero =>
    refine ⟨fun _ _ _ _ _ _ _ success => ?_, fun _ _ _ => .ofRefuse _ _, fun _ _ _ => .ofRefuse _ _,
      fun _ _ _ _ _ => .ofRefuse _ _⟩
    cases success
  | succ fuel ih =>
    exact ⟨fun before _ _ _ _ more ends success inside => ih.items_succ before more ends success inside,
      fun _ _ => ih.otherBranches_succ, fun _ _ => ih.branches_succ, fun _ start start' _ more => ih.group_succ more start start'⟩

end ShaderShrink.Pattern
