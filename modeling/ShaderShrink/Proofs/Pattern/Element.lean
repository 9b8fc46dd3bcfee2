import ShaderShrink.Proofs.Pattern.Simulation

/-!
# Reading an element on

A single character, a set, a repetition, a flag and what begins a group are read in front of a dot and an asterisk as they
are on their own.
-/

namespace ShaderShrink.Pattern

open Simulates

/-! ## Names -/

/-- What closes a name is missing at the end of a text. -/
theorem takeUntil_needs (closing : Char) (what : String) (fuel : Nat) (done : Text) :
    Needs (takeUntil closing what fuel done) := by
  intro c empty a d success
  cases fuel with
  | zero => exact refuses_refuse _ _ _ _ _ success
  | succ fuel =>
    rw [takeUntil, bind_of_ok (take_eq c), empty] at success
    dsimp only [List.head?_nil, Option.map_none] at success
    split_ifs at success <;> cases success

theorem takeUntil_simulates {closing : Char} (other : closing ≠ '\\') (what : String) {fuel fuel' : Nat} (more : fuel ≤ fuel')
    (done : Text) :
    Simulates Eq (takeUntil closing what fuel done) (takeUntil closing what fuel' done) := by
  induction fuel generalizing fuel' done with
  | zero => exact .ofRefuse _ _
  | succ fuel ih =>
    obtain ⟨fuel', rfl⟩ : ∃ n, fuel' = n + 1 := ⟨fuel' - 1, by omega⟩
    refine take_simulates (fun c a d success => ?_) ?_ fun token => ?_
    · dsimp only at success
      split_ifs at success <;> cases success
    · dsimp only
      rw [if_neg (by simpa using other.symm)]
      exact takeUntil_needs _ _ _ _
    · dsimp only
      split_ifs
      · exact .ofRefuse _ _
      · exact .ofPure rfl
      · exact ih (by omega) _

theorem takeName_simulates {closing : Char} (other : closing ≠ '\\') (what : String) :
    Simulates Eq (takeName closing what) (takeName closing what) := by
  intro c c' ends
  have size := ends.length_tokens
  exact takeUntil_simulates other what (by omega) [] c c' ends

theorem checkGroupName_simulates (name : Text) : Simulates Eq (checkGroupName name) (checkGroupName name) := by
  unfold checkGroupName
  split_ifs
  · exact .ofRefuse _ _
  · exact .ofPure rfl

theorem closedWidth?_simulates (group : Nat) : Simulates Eq (closedWidth? group) (closedWidth? group) :=
  ofGet.bind fun c c' ends => .ofPure (by rw [ends.groups])

theorem checkLookBehind_simulates (group : Nat) : Simulates Eq (checkLookBehind group) (checkLookBehind group) := by
  refine ofGet.bind fun c c' ends => ?_
  rw [ends.lookBehind]
  cases c.lookBehind with
  | none => exact .ofPure rfl
  | some first =>
    refine (closedWidth?_simulates group).andThen fun width => ?_
    refine .guard ?_
    split_ifs
    · exact .ofRefuse _ _
    · exact .ofPure rfl

theorem openGroup_simulates (name : Option Text) : Simulates Eq (openGroup name) (openGroup name) := by
  refine ofGet.bind fun c c' ends => ?_
  rw [ends.groups]
  dsimp only
  refine .andThen (.ofModify (fun _ => rfl) fun k k' ends => ?_) fun _ => ?_
  · exact { ends with groups := by rw [ends.groups] }
  cases name with
  | none => exact .ofPure rfl
  | some name =>
    refine ofGet.bind fun k k' ends => ?_
    rw [ends.names]
    cases k.names.find? fun entry => entry.1 = name with
    | some entry => exact .ofRefuses ((refuses_refuse _ _).bind _)
    | none =>
      refine .andThen (.ofModify (fun _ => rfl) fun k k' ends => ?_) fun _ => .ofPure rfl
      exact { ends with names := by rw [ends.names] }

theorem closeGroup_simulates (number : Nat) (width : Width) : Simulates Eq (closeGroup number width) (closeGroup number width) :=
  .ofModify (fun _ => rfl) fun c c' ends => { ends with groups := by rw [ends.groups] }

/-! ## Single characters -/

theorem hexEscape_simulates (char : Char) (count : Nat) : Simulates Eq (hexEscape char count) (hexEscape char count) := by
  refine (takeWhile_simulates (by decide) count).andThen fun digits => ?_
  exact .guard (.guard (.ofPure rfl))

theorem octalCode_simulates (digits : Text) : Simulates Eq (octalCode digits) (octalCode digits) := .guard (.ofPure rfl)

theorem namedEscape_simulates : Simulates Eq namedEscape namedEscape := by
  refine (skip_simulates (by decide)).andThen fun braced => .guard ?_
  refine (takeName_simulates (by decide) _).andThen fun name => ?_
  cases Text.codeOfName? name with
  | some code => exact .ofPure rfl
  | none => exact .ofRefuse _ _

theorem commonEscape_simulates (char : Char) : Simulates Eq (commonEscape char) (commonEscape char) := by
  unfold commonEscape
  split
  · exact hexEscape_simulates _ _
  · exact hexEscape_simulates _ _
  · exact hexEscape_simulates _ _
  · exact namedEscape_simulates
  · split_ifs
    · exact .ofRefuse _ _
    · exact .ofPure rfl

theorem setEscape_simulates (modes : Modes) (char : Char) : Simulates Eq (setEscape modes char) (setEscape modes char) := by
  unfold setEscape
  split
  · exact .ofPure rfl
  · exact .ofPure rfl
  · split_ifs
    · exact (takeWhile_simulates (by decide) 2).andThen fun digits => (octalCode_simulates _).andThen fun _ => .ofPure rfl
    · exact (commonEscape_simulates char).andThen fun _ => .ofPure rfl

theorem groupEscape_simulates (modes : Modes) (digits : Text) :
    Simulates Eq (groupEscape modes digits) (groupEscape modes digits) := by
  refine ofGet.bind fun c c' ends => ?_
  rw [ends.groups]
  refine .guard ?_
  refine (closedWidth?_simulates _).andThen fun width => ?_
  cases width with
  | none => exact .ofRefuse _ _
  | some width => exact (checkLookBehind_simulates _).andThen fun _ => .ofPure rfl

theorem numberEscape_simulates (modes : Modes) (first : Char) :
    Simulates Eq (numberEscape modes first) (numberEscape modes first) := by
  refine (takeWhile_simulates (by decide) 1).andThen fun digits => ?_
  cases digits with
  | nil => exact groupEscape_simulates _ _
  | cons second _ =>
    dsimp only
    split_ifs
    · refine (takeWhile_simulates (by decide) 1).andThen fun digits => ?_
      cases digits with
      | nil => exact groupEscape_simulates _ _
      | cons third _ => exact (octalCode_simulates _).andThen fun _ => .ofPure rfl
    · exact groupEscape_simulates _ _

theorem escape_simulates (modes : Modes) (char : Char) : Simulates Eq (escape modes char) (escape modes char) := by
  unfold escape
  split
  · exact .ofPure rfl
  · exact .ofPure rfl
  · exact .ofPure rfl
  · split_ifs
    · exact (takeWhile_simulates (by decide) 2).andThen fun _ => .ofPure rfl
    · exact numberEscape_simulates modes char
    · exact (commonEscape_simulates char).andThen fun _ => .ofPure rfl

/-! ## Sets -/

theorem setToken_simulates (modes : Modes) (token : Text) : Simulates Eq (setToken modes token) (setToken modes token) := by
  unfold setToken
  split
  · exact setEscape_simulates _ _
  · exact .ofRefuse _ _
  · exact .ofPure rfl
  · exact .ofPure rfl

/-- There is fuel for every token, so that the items of a set end with its bracket. -/
theorem setItems_simulatesAt (modes : Modes) {start start' fuel fuel' : Nat} (more : fuel ≤ fuel') (items : List SetItem)
    {c c' : Cursor} (ends : c.WithEnding c') (enough : c.tokens.length < fuel) :
    SimulatesAt Eq (setItems modes start fuel items) (setItems modes start' fuel' items) c c' := by
  induction fuel generalizing fuel' items c c' with
  | zero => exact absurd enough (Nat.not_lt_zero _)
  | succ fuel ih =>
    obtain ⟨fuel', rfl⟩ : ∃ n, fuel' = n + 1 := ⟨fuel' - 1, by omega⟩
    refine take_simulatesAt ends (refuses_refuseAt _ _) (refuses_refuse _ _ |>.bind _).needs fun first d d' ends shorter => ?_
    dsimp only
    split_ifs
    · exact Simulates.ofPure rfl d d' ends
    refine (setToken_simulates modes first d d' ends).bind fun item _ d₂ d₂' same ends shorter₂ => ?_
    subst same
    refine (skip_simulates (by decide) d₂ d₂' ends).bind fun range _ d₃ d₃' same ends shorter₃ => ?_
    subst same
    split_ifs
    · refine take_simulatesAt ends (refuses_refuseAt _ _) (refuses_refuse _ _ |>.bind _).needs fun last d₄ d₄' ends shorter₄ => ?_
      dsimp only
      split_ifs
      · exact Simulates.ofPure rfl d₄ d₄' ends
      refine (setToken_simulates modes last d₄ d₄' ends).bind fun other _ d₅ d₅' same ends shorter₅ => ?_
      subst same
      split
      · split_ifs
        · exact Simulates.ofRefuses ((refuses_refuse _ _).bind _) d₅ d₅' ends
        · exact ih (by omega) _ ends (by omega)
      · exact Simulates.ofRefuse _ _ d₅ d₅' ends
    · exact ih (by omega) _ ends (by omega)

theorem set_simulates (modes : Modes) (start start' : Nat) : Simulates Eq (set modes start) (set modes start') := by
  refine (skip_simulates (by decide)).andThen fun negated c c' ends => .get ?_
  have more := Nat.add_le_add_right (ends.length_tokens ▸ Nat.le_add_right _ 2 : c.tokens.length ≤ c'.tokens.length) 1
  refine (setItems_simulatesAt modes more [] ends (Nat.lt_succ_self _)).bind fun items _ d d' same ends _ => ?_
  subst same
  split <;> exact Simulates.ofPure rfl d d' ends

/-! ## Repetitions -/

theorem repeatNumber_simulates (digits : Text) : Simulates Eq (repeatNumber digits) (repeatNumber digits) := by
  unfold repeatNumber
  split
  · exact .ofRefuses (refuses_throw _)
  · split_ifs
    · exact .ofRefuses (refuses_throw _)
    · exact .ofPure rfl

/-- What closes braces, or puts back what was read of them. -/
theorem closeBraces_simulates {c c' d d' : Cursor} (ends : c.WithEnding c') (ends' : d.WithEnding d')
    (reaches : c.Reaches d) (braces : Braces) {a : Option Braces} {e : Cursor}
    (success : (skip '\x7d' >>= fun closed => if closed then pure (some braces) else StateT.set c >>= fun _ => pure none) d =
      .ok (a, e)) :
    c.Reaches e ∧ ∃ b e',
      (skip '\x7d' >>= fun closed => if closed then pure (some braces) else StateT.set c' >>= fun _ => pure none) d' =
        .ok (b, e') ∧ a = b ∧ e.WithEnding e' := by
  obtain ⟨closed, k, run, success⟩ := bind_ok success
  obtain ⟨reaches', _, k', run', rfl, ends''⟩ := skip_simulates (by decide) d d' ends' closed k run
  rw [bind_of_ok run']
  cases closed with
  | true =>
    cases success
    exact ⟨reaches.trans reaches', _, k', rfl, rfl, ends''⟩
  | false =>
    cases success
    exact ⟨.refl c, none, c', rfl, rfl, ends⟩

theorem braces?_simulates : Simulates Eq braces? braces? := by
  intro c c' ends a e success
  have digit : Text.isAsciiDigit '.' = false ∧ Text.isAsciiDigit '\\' = false := by decide
  unfold braces? at success ⊢
  rw [bind_of_ok (get_eq c)] at success
  rw [bind_of_ok (get_eq c')]
  obtain ⟨least, d₁, run₁, success⟩ := bind_ok success
  obtain ⟨reaches₁, _, d₁', run₁', rfl, ends₁⟩ :=
    takeWhile_simulatesAt digit ends (.inr ⟨Nat.le_refl _, Nat.le_refl _⟩) least d₁ run₁
  obtain ⟨comma, d₂, run₂, success⟩ := bind_ok success
  obtain ⟨reaches₂, _, d₂', run₂', rfl, ends₂⟩ := skip_simulates (by decide) d₁ d₁' ends₁ comma d₂ run₂
  have reached := reaches₁.trans reaches₂
  rw [bind_of_ok run₁', bind_of_ok run₂']
  cases comma with
  | true =>
    have enough : d₂.tokens.length ≤ c.tokens.length ∧ d₂'.tokens.length ≤ c'.tokens.length := by
      rw [ends.length_tokens, ends₂.length_tokens]
      exact ⟨reached.length_le, Nat.add_le_add_right reached.length_le 2⟩
    obtain ⟨most, d₃, run₃, success⟩ := bind_ok success
    obtain ⟨reaches₃, _, d₃', run₃', rfl, ends₃⟩ :=
      takeWhile_simulatesAt digit ends₂ (.inr enough) most d₃ run₃
    rw [if_pos rfl, bind_of_ok run₃']
    exact closeBraces_simulates ends ends₃ (reached.trans reaches₃) ⟨least, most⟩ success
  | false => exact closeBraces_simulates ends ends₂ reached ⟨least, least⟩ success

theorem bracesBounds_simulates (start start' : Nat) (braces : Braces) :
    Simulates Eq (bracesBounds start braces) (bracesBounds start' braces) := by
  refine .branch (.ofPure rfl) (repeatNumber_simulates _) fun least => .ite (.ofPure rfl) ?_
  exact (repeatNumber_simulates _).andThen fun most => .guarded ((refuses_refuseAt _ _).bind _) (.ofPure rfl)

theorem eagerness_simulates : Simulates Eq eagerness eagerness := by
  refine fun c c' ends => peek_simulatesAt ends (fun _ => Simulates.ofPure rfl c c' ends) fun token rest here => ?_
  have advances := advance_simulatesAt ends here
  split
  · rename_i mark
    exact (advances (by simp [Option.some.inj mark])).bind fun _ _ d d' _ ends _ => Simulates.ofPure rfl d d' ends
  · rename_i mark
    exact (advances (by simp [Option.some.inj mark])).bind fun _ _ d d' _ ends _ => Simulates.ofPure rfl d d' ends
  · exact Simulates.ofPure rfl c c' ends

/-- What is repeated does not depend on the items in front of the last one. -/
theorem repeatLast_simulates (start start' least : Nat) (most : Option Nat) (items before : List Node) :
    Simulates (fun a b => b = a ++ before) (repeatLast start least most items)
      (repeatLast start' least most (items ++ before)) := by
  cases items with
  | nil => exact .ofRefuseAt _ _
  | cons item items =>
    unfold repeatLast
    rw [List.cons_append]
    cases item with
    | anchor | loop => exact .ofRefuseAt _ _
    | _ => exact eagerness_simulates.andThen fun eagerness => .ofPure rfl

/-! ## Flags -/

theorem flagsOn_simulates {fuel fuel' : Nat} (more : fuel ≤ fuel') (flag : Char) (on : List Char) :
    Simulates Eq (flagsOn fuel flag on) (flagsOn fuel' flag on) := by
  induction fuel generalizing fuel' flag on with
  | zero => exact .ofRefuse _ _
  | succ fuel ih =>
    obtain ⟨fuel', rfl⟩ : ∃ n, fuel' = n + 1 := ⟨fuel' - 1, by omega⟩
    refine .guard (.guard (take_simulates (refuses_refuse _ _) (refuses_refuse _ _).needs fun token => ?_))
    dsimp only
    split_ifs
    · exact .ofPure rfl
    · split
      · exact ih (by omega) _ _
      · exact .ofRefuse _ _

theorem flagsOff_simulates {fuel fuel' : Nat} (more : fuel ≤ fuel') (flag : Char) (off : List Char) :
    Simulates Eq (flagsOff fuel flag off) (flagsOff fuel' flag off) := by
  induction fuel generalizing fuel' flag off with
  | zero => exact .ofRefuse _ _
  | succ fuel ih =>
    obtain ⟨fuel', rfl⟩ : ∃ n, fuel' = n + 1 := ⟨fuel' - 1, by omega⟩
    refine .guard (take_simulates (refuses_refuse _ _) (refuses_refuse _ _).needs fun token => ?_)
    dsimp only
    split_ifs
    · exact .ofPure rfl
    · split
      · exact ih (by omega) _ _
      · exact .ofRefuse _ _

theorem groupModes?_simulates (modes : Modes) (first : Char) :
    Simulates Eq (groupModes? modes first) (groupModes? modes first) := by
  intro c c' ends
  have more : c.tokens.length + 1 ≤ c'.tokens.length + 1 := by
    have size := ends.length_tokens
    omega
  refine .get ((Simulates.branch (.ofPure rfl) (flagsOn_simulates more first []) fun flags => ?_) c c' ends)
  obtain ⟨on, closing⟩ := flags
  refine .ite (.ofPure rfl) (.guard (.ite ?_ ?_))
  · refine take_simulates ((refuses_refuse _ _).bind _) ((refuses_refuse _ _).bind _).needs fun token => ?_
    dsimp only
    split
    · exact (flagsOff_simulates more _ _).andThen fun off => .guard (.guard (.ofPure rfl))
    · exact .ofRefuses ((refuses_refuse _ _).bind _)
  · exact (Simulates.ofPure rfl).andThen fun off => .guard (.guard (.ofPure rfl))

/-! ## Groups -/

theorem numberedGroup_simulates (name : Text) : Simulates Eq (numberedGroup name) (numberedGroup name) := by
  unfold numberedGroup
  split
  · exact .ofRefuse _ _
  refine .guard (.guard (.guard (tell_simulates.bind fun place place' _ => ofGet.bind fun c c' ends => ?_)))
  have named : ∀ number : Nat,
      (c'.references.any fun entry => entry.1 = number) = c.references.any fun entry => entry.1 = number := by
    intro number
    have same := congrArg (List.any · fun group => decide (group = number)) ends.references
    simpa only [List.any_map, Function.comp_def] using same
  rw [named]
  refine .ite (.andThen (.ofModify (fun _ => rfl) fun k k' ends => ?_) fun _ => .ofPure rfl) (.ofPure rfl)
  exact { ends with references := by rw [List.map_append, List.map_append, ends.references]; rfl }

theorem namedGroup_simulates (name : Text) : Simulates Eq (namedGroup name) (namedGroup name) := by
  refine (checkGroupName_simulates name).andThen fun _ => ofGet.bind fun c c' ends => ?_
  rw [ends.names]
  split
  · exact .ofRefuse _ _
  · exact .ofPure rfl

/-- What closes a comment is missing at the end of a text. -/
theorem skipComment_needs (start fuel : Nat) : Needs (skipComment start fuel) := by
  intro c empty a d success
  cases fuel with
  | zero => cases success
  | succ fuel =>
    rw [skipComment, bind_of_ok (take_eq c), empty] at success
    cases success

theorem skipComment_simulates {start start' fuel fuel' : Nat} (more : fuel ≤ fuel') :
    Simulates Eq (skipComment start fuel) (skipComment start' fuel') := by
  induction fuel generalizing fuel' with
  | zero => exact .ofRefuseAt _ _
  | succ fuel ih =>
    obtain ⟨fuel', rfl⟩ : ∃ n, fuel' = n + 1 := ⟨fuel' - 1, by omega⟩
    exact take_simulates (refuses_refuseAt _ _) (skipComment_needs start fuel) fun token => .ite (.ofPure rfl) (ih (by omega))

theorem nameExtension_simulates (modes : Modes) : Simulates Eq (nameExtension modes) (nameExtension modes) := by
  refine take_simulates (refuses_refuse _ _) (refuses_refuse _ _).needs fun token => ?_
  split
  · rename_i absent
    cases absent
  · refine (takeName_simulates (by decide) _).andThen fun name => (checkGroupName_simulates name).andThen fun _ => .ofPure rfl
  · refine (takeName_simulates (by decide) _).andThen fun name => (namedGroup_simulates name).andThen fun number => ?_
    refine (closedWidth?_simulates number).andThen fun width => ?_
    cases width with
    | none => exact .ofRefuse _ _
    | some width => exact (checkLookBehind_simulates number).andThen fun _ => .ofPure rfl
  · exact .ofRefuse _ _

theorem flagGroup_simulates (modes : Modes) (start start' : Nat) (first : Char) :
    Simulates Eq (extension.flagGroup modes start first) (extension.flagGroup modes start' first) := by
  refine (groupModes?_simulates modes first).andThen fun modes => ?_
  cases modes with
  | none => exact .ofRefuseAt _ _
  | some modes => exact .ofPure rfl

theorem extension_simulates (modes : Modes) (start start' : Nat) :
    Simulates Eq (extension modes start) (extension modes start') := by
  refine take_simulates (refuses_refuse _ _) (refuses_refuse _ _).needs fun token => ?_
  split
  · exact .ofRefuse _ _
  · exact nameExtension_simulates modes
  · exact .ofPure rfl
  · refine fun c c' ends => .get ?_
    have more : c.tokens.length + 1 ≤ c'.tokens.length + 1 := by
      have size := ends.length_tokens
      omega
    exact (skipComment_simulates more).andThen (fun _ => .ofPure rfl) c c' ends
  · exact .ofPure rfl
  · exact .ofPure rfl
  · refine take_simulates (refuses_refuse _ _) (refuses_refuse _ _).needs fun token => ?_
    split
    · exact .ofRefuse _ _
    · exact .ofPure rfl
    · exact .ofPure rfl
    · exact .ofRefuse _ _
  · refine (takeName_simulates (by decide) _).andThen fun name => ?_
    refine .branch (namedGroup_simulates name) (numberedGroup_simulates name) fun number => ?_
    exact (checkLookBehind_simulates number).andThen fun _ => .ofPure rfl
  · exact .ofPure rfl
  · split
    · exact flagGroup_simulates modes start start' _
    · exact .ite (flagGroup_simulates modes start start' _) (.ofRefuse _ _)

theorem closeParenthesis_simulates (start start' : Nat) :
    Simulates Eq (closeParenthesis start) (closeParenthesis start') := by
  refine (skip_simulates (by decide)).andThen fun closed => ?_
  exact .ite (.ofRefuseAt _ _) (.ofPure rfl)

theorem simpleItem_simulates (modes : Modes) (start start' : Nat) (token : Text) :
    Simulates Eq (simpleItem modes start token) (simpleItem modes start' token) := by
  unfold simpleItem
  split
  · exact .ofRefuseAt _ _
  · exact escape_simulates _ _
  · exact set_simulates _ _ _
  · exact .ofPure rfl
  · exact .ofPure rfl
  · exact .ofPure rfl
  · exact .ofPure rfl

end ShaderShrink.Pattern
