import Mathlib.Tactic.SplitIfs
import ShaderShrink.Pattern.Reading

/-!
# Readings of a longer text

A text is read of a longer one, which goes on with a dot and an asterisk, in the same way as on its own, as long as nothing
behind the text is looked at as if it belonged to it.  A dot never is: it is no digit, and it neither ends nor continues
anything that may stand at the end of a text.
Here is what that means for one reading, how it goes together for readings in sequence, and that it holds of the readings
that take a token or look at one.
-/

namespace ShaderShrink.Pattern

/-- What stands behind a text: a dot and an asterisk. -/
def dotStar : List Text := [['.'], ['*']]

/-- Whether the same is known of the groups of two texts. -/
structure Cursor.Agrees (c c' : Cursor) : Prop where
  groups : c'.groups = c.groups
  names : c'.names = c.names
  lookBehind : c'.lookBehind = c.lookBehind
  depth : c'.depth = c.depth
  references : c'.references.map (·.1) = c.references.map (·.1)

/-- Whether a second cursor has the same in front of it as a first one, and then a dot and an asterisk. -/
structure Cursor.WithEnding (c c' : Cursor) : Prop extends c.Agrees c' where
  tokens : c'.tokens.map (·.text) = c.tokens.map (·.text) ++ dotStar

/-- Whether a text ends with a backslash that nothing follows. -/
def Dangling (tokens : List Token) : Prop := tokens.getLast?.map (·.text) = some ['\\']

/-- Whether nothing was put back on the way from one place of a text to another one, nor a backslash left behind that nothing
follows. -/
structure Cursor.Reaches (c d : Cursor) : Prop where
  length_le : d.tokens.length ≤ c.tokens.length
  dangling : Dangling c.tokens → Dangling d.tokens

namespace Cursor.Reaches

variable {c d e : Cursor}

protected theorem refl (c : Cursor) : c.Reaches c := ⟨Nat.le_refl _, id⟩

protected theorem trans (first : c.Reaches d) (second : d.Reaches e) : c.Reaches e :=
  ⟨Nat.le_trans second.length_le first.length_le, second.dangling ∘ first.dangling⟩

/-- What is read up to its end does not end with a backslash that nothing follows. -/
theorem not_dangling (reaches : c.Reaches d) (empty : d.tokens = []) : ¬Dangling c.tokens := by
  intro dangling
  have last := reaches.dangling dangling
  rw [empty] at last
  cases last

/-- Only the tokens count. -/
theorem of_tokens (same : d.tokens = c.tokens) : c.Reaches d := by
  refine ⟨Nat.le_of_eq (congrArg _ same), fun dangling => ?_⟩
  rwa [same]

/-- A token can be left behind, if it is no backslash or something stands behind it. -/
theorem of_cons {token : Token} {rest : List Token} (here : c.tokens = token :: rest) (there : d.tokens = rest)
    (other : token.text ≠ ['\\'] ∨ rest ≠ []) : c.Reaches d := by
  refine ⟨by simp [here, there], fun dangling => ?_⟩
  rw [here] at dangling
  rw [there]
  cases rest with
  | nil => exact absurd (Option.some.inj dangling) (other.resolve_right (· rfl))
  | cons next rest => rwa [Dangling, List.getLast?_cons_cons] at dangling

end Cursor.Reaches

variable {α β γ δ : Type}

/-- Whether what is read at a place of a text is also read, up to a relation, at a place of a text with the ending. -/
def SimulatesAt (related : α → β → Prop) (m : Reading α) (m' : Reading β) (c c' : Cursor) : Prop :=
  ∀ a d, m c = .ok (a, d) → c.Reaches d ∧ ∃ b d', m' c' = .ok (b, d') ∧ related a b ∧ d.WithEnding d'

/-- Whether what is read of a text is also read, up to a relation, of the text with the ending. -/
def Simulates (related : α → β → Prop) (m : Reading α) (m' : Reading β) : Prop :=
  ∀ c c', c.WithEnding c' → SimulatesAt related m m' c c'

theorem bind_ok {m : Reading α} {f : α → Reading β} {c d : Cursor} {b : β} (success : (m >>= f) c = .ok (b, d)) :
    ∃ a middle, m c = .ok (a, middle) ∧ f a middle = .ok (b, d) := by
  cases run : m c with
  | error refusal =>
    rw [show (m >>= f) c = (m c >>= fun result => f result.1 result.2) from rfl, run] at success
    cases success
  | ok result =>
    rw [show (m >>= f) c = (m c >>= fun result => f result.1 result.2) from rfl, run] at success
    exact ⟨result.1, result.2, rfl, success⟩

theorem bind_of_ok {m : Reading α} {c middle : Cursor} {a : α} (success : m c = .ok (a, middle)) (f : α → Reading β) :
    (m >>= f) c = f a middle := by
  rw [show (m >>= f) c = (m c >>= fun result => f result.1 result.2) from rfl, success]
  rfl

/-- Whether nothing can be read. -/
def Refuses (m : Reading α) : Prop := ∀ c a d, m c ≠ .ok (a, d)

theorem refuses_throw (refusal : Refusal) : Refuses (throw refusal : Reading α) := fun _ _ _ => nofun

theorem refuses_refuse (problem : Problem) (offset : Nat) : Refuses (refuse problem offset : Reading α) := fun _ _ _ => nofun

theorem refuses_refuseAt (problem : Problem) (position : Nat) : Refuses (refuseAt problem position : Reading α) :=
  fun _ _ _ => nofun

theorem Refuses.bind {m : Reading α} (refuses : Refuses m) (f : α → Reading β) : Refuses (m >>= f) := by
  intro c a d success
  obtain ⟨value, middle, run, -⟩ := bind_ok success
  exact refuses c value middle run

/-- The texts of two tokens are the same where the ending has not begun. -/
theorem Cursor.WithEnding.exists_cons {c c' : Cursor} (ends : c.WithEnding c') {token : Token} {rest : List Token}
    (here : c.tokens = token :: rest) : ∃ token' rest', c'.tokens = token' :: rest' ∧ token'.text = token.text ∧
      Cursor.WithEnding { c with tokens := rest } { c' with tokens := rest' } := by
  have texts := ends.tokens
  rw [here, List.map_cons, List.cons_append] at texts
  obtain ⟨token', rest', here', text, texts⟩ := List.map_eq_cons_iff.mp texts
  exact ⟨token', rest', here', text, ⟨ends.groups, ends.names, ends.lookBehind, ends.depth, ends.references⟩, texts⟩

theorem Cursor.WithEnding.length_tokens {c c' : Cursor} (ends : c.WithEnding c') : c'.tokens.length = c.tokens.length + 2 := by
  have size := congrArg List.length ends.tokens
  simpa [dotStar] using size

section Simulates

variable {related : α → β → Prop} {related' : γ → δ → Prop} {m : Reading α} {m' : Reading β} {f : α → Reading γ}
  {f' : β → Reading δ}

theorem SimulatesAt.bind {c c' : Cursor} (first : SimulatesAt related m m' c c')
    (rest : ∀ a b d d', related a b → d.WithEnding d' → d.tokens.length ≤ c.tokens.length →
      SimulatesAt related' (f a) (f' b) d d') : SimulatesAt related' (m >>= f) (m' >>= f') c c' := by
  intro a d success
  obtain ⟨value, middle, run, success⟩ := bind_ok success
  obtain ⟨reaches, value', middle', run', same, ends⟩ := first value middle run
  obtain ⟨reaches', found⟩ := rest value value' middle middle' same ends reaches.length_le a d success
  rw [bind_of_ok run']
  exact ⟨reaches.trans reaches', found⟩

/-- What is read next may depend on where the cursor is. -/
theorem SimulatesAt.get {f : Cursor → Reading γ} {f' : Cursor → Reading δ} {c c' : Cursor}
    (rest : SimulatesAt related' (f c) (f' c') c c') :
    SimulatesAt related' (MonadState.get >>= f) (MonadState.get >>= f') c c' := rest

namespace Simulates

theorem ofPure {a : α} {b : β} (same : related a b) : Simulates related (pure a) (pure b) := by
  rintro c c' ends _ _ ⟨⟩
  exact ⟨.refl c, b, c', rfl, same, ends⟩

/-- What cannot be read on its own need not be read in the longer text. -/
theorem ofRefuses (refuses : Refuses m) : Simulates related m m' :=
  fun c _ _ a d success => absurd success (refuses c a d)

theorem ofRefuse (problem : Problem) (offset : Nat) : Simulates related (Pattern.refuse problem offset) m' :=
  ofRefuses (refuses_refuse problem offset)

theorem ofRefuseAt (problem : Problem) (position : Nat) : Simulates related (Pattern.refuseAt problem position) m' :=
  ofRefuses (refuses_refuseAt problem position)

theorem bind (first : Simulates related m m') (rest : ∀ a b, related a b → Simulates related' (f a) (f' b)) :
    Simulates related' (m >>= f) (m' >>= f') :=
  fun c c' ends => (first c c' ends).bind fun a b d d' same ends _ => rest a b same d d' ends

/-- What is read next may depend on a value that is the same in both texts. -/
theorem andThen {m m' : Reading α} {f : α → Reading γ} {f' : α → Reading δ} (first : Simulates Eq m m')
    (rest : ∀ a, Simulates related' (f a) (f' a)) : Simulates related' (m >>= f) (m' >>= f') :=
  first.bind fun a _ same => same ▸ rest a

theorem ofGet : Simulates Cursor.WithEnding get get := by
  rintro c c' ends _ _ ⟨⟩
  exact ⟨.refl c, c', c', rfl, ends, ends⟩

theorem ofModify {g g' : Cursor → Cursor} (still : ∀ c, (g c).tokens = c.tokens)
    (keeps : ∀ c c', c.WithEnding c' → (g c).WithEnding (g' c')) : Simulates Eq (modify g) (modify g') := by
  rintro c c' ends _ _ ⟨⟩
  exact ⟨.of_tokens (still c), (), g' c', rfl, rfl, keeps c c' ends⟩

theorem ite {p : Prop} [Decidable p] {n : Reading α} {n' : Reading β} (first : Simulates related m m')
    (second : Simulates related n n') : Simulates related (if p then m else n) (if p then m' else n') := by
  split_ifs
  · exact first
  · exact second

/-- What is read behind both ways of a condition may depend on what they give. -/
theorem branch {p : Prop} [Decidable p] {m n m' n' : Reading α} {f : α → Reading γ} {f' : α → Reading δ}
    (first : Simulates Eq m m') (second : Simulates Eq n n') (rest : ∀ a, Simulates related' (f a) (f' a)) :
    Simulates related' (if p then m >>= f else n >>= f) (if p then m' >>= f' else n' >>= f') :=
  ite (first.andThen rest) (second.andThen rest)

/-- Where a text is refused under a condition, only the rest counts. -/
theorem guarded {p : Prop} [Decidable p] {refused : Reading α} {refused' : Reading β} (refuses : Refuses refused)
    (rest : Simulates related m m') : Simulates related (if p then refused else m) (if p then refused' else m') :=
  ite (ofRefuses refuses) rest

/-- The same for the most common way to refuse a text. -/
theorem guard {p : Prop} [Decidable p] {problem : Problem} {offset : Nat} {f : γ → Reading α} {refused : Reading β}
    (rest : Simulates related m m') :
    Simulates related (if p then Pattern.refuse problem offset >>= f else m) (if p then refused else m') :=
  guarded ((refuses_refuse problem offset).bind f) rest

end Simulates

end Simulates

open Simulates

theorem get_eq (c : Cursor) : (get : Reading Cursor) c = .ok (c, c) := rfl

theorem modify_eq (g : Cursor → Cursor) (c : Cursor) : (modify g : Reading Unit) c = .ok ((), g c) := rfl

theorem peek_eq (c : Cursor) : peek c = .ok (c.tokens.head?.map (·.text), c) := rfl

theorem advance_eq (c : Cursor) : advance c = .ok ((), { c with tokens := c.tokens.tail }) := rfl

theorem take_eq (c : Cursor) : take c = .ok (c.tokens.head?.map (·.text), { c with tokens := c.tokens.tail }) := rfl

theorem skip_eq (char : Char) (c : Cursor) : skip char c =
    if c.tokens.head?.map (·.text) = some [char] then .ok (true, { c with tokens := c.tokens.tail }) else .ok (false, c) := by
  rw [skip, bind_of_ok (peek_eq c)]
  by_cases here : c.tokens.head?.map (·.text) = some [char]
  · rw [if_pos here, if_pos (beq_iff_eq.mpr here), bind_of_ok (advance_eq c)]
    rfl
  · rw [if_neg here, if_neg (mt beq_iff_eq.mp here)]
    rfl

theorem tell_simulates : Simulates (fun _ _ => True) tell tell := by
  rintro c c' ends _ _ ⟨⟩
  exact ⟨.refl c, _, c', rfl, trivial, ends⟩

/-- The next token is the same, but at the end of the text it is a dot. -/
theorem Cursor.WithEnding.head? {c c' : Cursor} (ends : c.WithEnding c') :
    c'.tokens.head?.map (·.text) = c.tokens.head?.map (·.text) ∨ c.tokens = [] ∧ c'.tokens.head?.map (·.text) = some ['.'] := by
  rw [← List.head?_map, ends.tokens, List.head?_append]
  cases c.tokens with
  | nil => exact .inr ⟨rfl, rfl⟩
  | cons token rest => exact .inl rfl

/-- What is read next may depend on the next token, which is a dot at the end of the text. -/
theorem peek_simulatesAt {related : α → β → Prop} {f : Option Text → Reading α} {f' : Option Text → Reading β} {c c' : Cursor}
    (ends : c.WithEnding c') (atEnd : c.tokens = [] → SimulatesAt related (f none) (f' (some ['.'])) c c')
    (inside : ∀ token rest, c.tokens = token :: rest → SimulatesAt related (f (some token.text)) (f' (some token.text)) c c') :
    SimulatesAt related (peek >>= f) (peek >>= f') c c' := by
  intro a d success
  rw [bind_of_ok (peek_eq c)] at success
  rw [bind_of_ok (peek_eq c')]
  cases here : c.tokens with
  | nil =>
    rcases ends.head? with same | ⟨-, dot⟩
    · have size := ends.length_tokens
      rw [here] at same
      cases listed : c'.tokens with
      | nil => simp [listed] at size
      | cons token rest => simp [listed] at same
    · rw [here] at success
      rw [dot]
      exact atEnd here a d success
  | cons token rest =>
    obtain ⟨token', rest', here', text, -⟩ := ends.exists_cons here
    rw [here] at success
    rw [here', List.head?_cons, Option.map_some, text]
    exact inside token rest here a d success

/-- A token that is there is left behind in both texts. -/
theorem advance_simulatesAt {c c' : Cursor} (ends : c.WithEnding c') {token : Token} {rest : List Token}
    (here : c.tokens = token :: rest) (other : token.text ≠ ['\\']) : SimulatesAt Eq advance advance c c' := by
  obtain ⟨token', rest', here', -, ends⟩ := ends.exists_cons here
  intro a d success
  rw [advance_eq, here] at success
  cases success
  rw [advance_eq, here']
  exact ⟨.of_cons here rfl (.inl other), (), _, rfl, rfl, ends⟩

/-- Whether nothing can be read at the end of a text. -/
def Needs (m : Reading α) : Prop := ∀ c, c.tokens = [] → ∀ a d, m c ≠ .ok (a, d)

theorem Refuses.needs {m : Reading α} (refuses : Refuses m) : Needs m := fun c _ => refuses c

/-- A token that has to be there is taken in both texts.  If it is a backslash, more has to be there. -/
theorem take_simulatesAt {related : α → β → Prop} {f : Option Text → Reading α} {f' : Option Text → Reading β} {c c' : Cursor}
    (ends : c.WithEnding c') (needs : Refuses (f none)) (more : Needs (f (some ['\\'])))
    (reads : ∀ token d d', d.WithEnding d' → d.tokens.length < c.tokens.length →
      SimulatesAt related (f (some token)) (f' (some token)) d d') :
    SimulatesAt related (take >>= f) (take >>= f') c c' := by
  intro a d success
  rw [bind_of_ok (take_eq c)] at success
  cases here : c.tokens with
  | nil =>
    rw [here] at success
    exact absurd success (needs _ a d)
  | cons token rest =>
    obtain ⟨token', rest', here', text, ends⟩ := ends.exists_cons here
    rw [here] at success
    rw [bind_of_ok (take_eq c'), here', List.head?_cons, Option.map_some, text]
    obtain ⟨reaches, found⟩ := reads token.text _ _ ends (by simp [here]) a d success
    refine ⟨.trans (.of_cons here rfl ?_) reaches, found⟩
    by_cases backslash : token.text = ['\\']
    · refine .inr fun last => more { c with tokens := rest } last a d ?_
      rw [← backslash]
      exact success
    · exact .inl backslash

theorem take_simulates {related : α → β → Prop} {f : Option Text → Reading α} {f' : Option Text → Reading β}
    (needs : Refuses (f none)) (more : Needs (f (some ['\\'])))
    (reads : ∀ token, Simulates related (f (some token)) (f' (some token))) : Simulates related (take >>= f) (take >>= f') :=
  fun _ _ ends => take_simulatesAt ends needs more fun token d d' ends _ => reads token d d' ends

/-- No character but a dot is there in the longer text and not in the other one. -/
theorem skip_simulates {char : Char} (other : char ≠ '.' ∧ char ≠ '\\') : Simulates Eq (skip char) (skip char) := by
  intro c c' ends a d success
  rw [skip_eq] at success
  rw [skip_eq]
  split_ifs at success with here
  · cases success
    obtain ⟨token, front, text⟩ := Option.map_eq_some_iff.mp here
    obtain ⟨rest, listed⟩ := List.head?_eq_some_iff.mp front
    obtain ⟨token', rest', listed', text', ends⟩ := ends.exists_cons listed
    rw [listed', List.head?_cons, Option.map_some, text', text, if_pos rfl]
    refine ⟨.of_cons listed (by rw [listed, List.tail_cons]) (.inl ?_), true, _, rfl, rfl, ?_⟩
    · simpa [text] using other.2
    · rwa [listed]
  · cases success
    refine ⟨.refl c, false, c', if_neg ?_, rfl, ends⟩
    rcases ends.head? with same | ⟨-, dot⟩
    · rwa [same]
    · simpa [dot] using other.1.symm

section Characters

variable {accepts : Char → Bool} {c : Cursor}

theorem takeWhile_stop (stop : ∀ char, c.tokens.head?.map (·.text) = some [char] → accepts char = false) (count : Nat) :
    takeWhile accepts count c = .ok ([], c) := by
  cases count with
  | zero => rfl
  | succ count =>
    rw [takeWhile, bind_of_ok (peek_eq c)]
    generalize c.tokens.head?.map (·.text) = next at stop
    match next, stop with
    | none, _ | some [], _ | some (_ :: _ :: _), _ => rfl
    | some [char], stop =>
      dsimp only
      rw [stop char rfl, if_neg Bool.false_ne_true]
      rfl

theorem takeWhile_step {token : Token} {rest : List Token} {char : Char} (here : c.tokens = token :: rest)
    (text : token.text = [char]) (accepted : accepts char = true) (count : Nat) :
    takeWhile accepts (count + 1) c =
      (takeWhile accepts count { c with tokens := rest }).map fun result => (char :: result.1, result.2) := by
  rw [takeWhile, bind_of_ok (peek_eq c), here, List.head?_cons, Option.map_some, text]
  dsimp only
  rw [if_pos accepted, bind_of_ok (advance_eq c), here, List.tail_cons]
  cases run : takeWhile accepts count { c with tokens := rest } with
  | error refusal =>
    change ((takeWhile accepts count { c with tokens := rest }) >>= _) = _
    rw [run]
    rfl
  | ok result =>
    rw [bind_of_ok run]
    rfl

/-- Characters of a kind are taken up to the same place, if a dot is not of that kind and a backslash is not. -/
theorem takeWhile_simulatesAt (other : accepts '.' = false ∧ accepts '\\' = false) {c c' : Cursor}
    (ends : c.WithEnding c') {count count' : Nat}
    (enough : count = count' ∨ c.tokens.length ≤ count ∧ c'.tokens.length ≤ count') :
    SimulatesAt Eq (takeWhile accepts count) (takeWhile accepts count') c c' := by
  -- Where one text stops, so does the other.
  have stops : ∀ c c' : Cursor, c.WithEnding c' → ∀ count count',
      (∀ char, c.tokens.head?.map (·.text) = some [char] → accepts char = false) →
      SimulatesAt Eq (takeWhile accepts count) (takeWhile accepts count') c c' := by
    intro c c' ends count count' stop a d success
    rw [takeWhile_stop stop] at success
    cases success
    refine ⟨.refl c, [], c', takeWhile_stop (fun char next => ?_) count', rfl, ends⟩
    rcases ends.head? with same | ⟨-, dot⟩
    · exact stop char (same ▸ next)
    · rw [dot] at next
      cases next
      exact other.1
  induction count generalizing c c' count' with
  | zero =>
    rcases enough with rfl | ⟨short, -⟩
    · rintro _ _ ⟨⟩
      exact ⟨.refl c, [], c', rfl, rfl, ends⟩
    · have empty : c.tokens = [] := List.eq_nil_of_length_eq_zero (Nat.le_zero.mp short)
      exact stops c c' ends 0 count' fun char next => by simp [empty] at next
  | succ count ih =>
    by_cases next : ∃ char, c.tokens.head?.map (·.text) = some [char] ∧ accepts char = true
    · obtain ⟨char, next, accepted⟩ := next
      obtain ⟨token, front, text⟩ := Option.map_eq_some_iff.mp next
      obtain ⟨rest, here⟩ := List.head?_eq_some_iff.mp front
      obtain ⟨token', rest', here', text', ends⟩ := ends.exists_cons here
      obtain ⟨count', rfl⟩ : ∃ n, count' = n + 1 := by
        refine ⟨count' - 1, ?_⟩
        rw [here'] at enough
        simp only [List.length_cons] at enough
        omega
      have enough : count = count' ∨ rest.length ≤ count ∧ rest'.length ≤ count' := by
        simp only [here, here', List.length_cons] at enough
        omega
      intro a d success
      rw [takeWhile_step here text accepted] at success
      rw [takeWhile_step here' (text'.trans text) accepted]
      cases run : takeWhile accepts count { c with tokens := rest } with
      | error refusal =>
        rw [run] at success
        cases success
      | ok result =>
        rw [run] at success
        cases success
        obtain ⟨reaches, b, d', run', same, ends⟩ := ih ends enough _ _ run
        rw [run']
        refine ⟨.trans (.of_cons here rfl (.inl fun backslash => ?_)) reaches, char :: b, d', rfl, congrArg _ same, ends⟩
        rw [text] at backslash
        cases backslash
        rw [other.2] at accepted
        cases accepted
    · refine stops c c' ends _ _ fun char found => ?_
      exact Bool.eq_false_iff.mpr fun accepted => next ⟨char, found, accepted⟩

theorem takeWhile_simulates (other : accepts '.' = false ∧ accepts '\\' = false) (count : Nat) :
    Simulates Eq (takeWhile accepts count) (takeWhile accepts count) :=
  fun _ _ ends => takeWhile_simulatesAt other ends (.inl rfl)

end Characters

/-! ## Readings that stop inside a text -/

/-- Whether what is read in front of some token of a text is also read of the text with the ending. -/
def SimulatesInside (m m' : Reading α) : Prop :=
  ∀ c c', c.WithEnding c' → ∀ a d, m c = .ok (a, d) → d.tokens ≠ [] →
    c.Reaches d ∧ ∃ d', m' c' = .ok (a, d') ∧ d.WithEnding d'

/-- Whether the end of a text is never left again. -/
def Stays (m : Reading α) : Prop := ∀ c, c.tokens = [] → ∀ a d, m c = .ok (a, d) → d.tokens = []

theorem Needs.bind {m : Reading α} (needs : Needs m) (f : α → Reading β) : Needs (m >>= f) := by
  intro c empty b d success
  obtain ⟨a, middle, run, -⟩ := bind_ok success
  exact needs c empty a middle run

theorem Stays.needs {m : Reading α} {f : α → Reading β} (stays : Stays m) (needs : ∀ a, Needs (f a)) : Needs (m >>= f) := by
  intro c empty b d success
  obtain ⟨a, middle, run, success⟩ := bind_ok success
  exact needs a middle (stays c empty a middle run) b d success

theorem Stays.bind {m : Reading α} {f : α → Reading β} (stays : Stays m) (rest : ∀ a, Stays (f a)) : Stays (m >>= f) := by
  intro c empty b d success
  obtain ⟨a, middle, run, success⟩ := bind_ok success
  exact rest a middle (stays c empty a middle run) b d success

theorem stays_pure (a : α) : Stays (pure a) := by
  rintro c empty _ _ ⟨⟩
  exact empty

namespace SimulatesInside

/-- What needs a token behind it is read in both texts. -/
theorem bind {related : γ → δ → Prop} {m m' : Reading α} {f : α → Reading γ} {f' : α → Reading δ}
    (first : SimulatesInside m m') (needs : ∀ a, Needs (f a)) (rest : ∀ a, Simulates related (f a) (f' a)) :
    Simulates related (m >>= f) (m' >>= f') := by
  intro c c' ends b d success
  obtain ⟨a, middle, run, success⟩ := bind_ok success
  obtain ⟨reaches, middle', run', ends⟩ := first c c' ends a middle run fun empty => needs a middle empty b d success
  rw [bind_of_ok run']
  obtain ⟨reaches', found⟩ := rest a middle middle' ends b d success
  exact ⟨reaches.trans reaches', found⟩

theorem andThen {m m' : Reading α} {f f' : α → Reading β} (first : SimulatesInside m m') (stays : ∀ a, Stays (f a))
    (rest : ∀ a, SimulatesInside (f a) (f' a)) : SimulatesInside (m >>= f) (m' >>= f') := by
  intro c c' ends b d success filled
  obtain ⟨a, middle, run, success⟩ := bind_ok success
  obtain ⟨reaches, middle', run', ends⟩ := first c c' ends a middle run fun empty => filled (stays a middle empty b d success)
  rw [bind_of_ok run']
  obtain ⟨reaches', found⟩ := rest a middle middle' ends b d success filled
  exact ⟨reaches.trans reaches', found⟩

theorem ofSimulates {m m' : Reading α} (simulates : Simulates Eq m m') : SimulatesInside m m' := by
  intro c c' ends a d success _
  obtain ⟨reaches, _, d', run, rfl, ends⟩ := simulates c c' ends a d success
  exact ⟨reaches, d', run, ends⟩

theorem ofRefuse (problem : Problem) (offset : Nat) {m' : Reading α} : SimulatesInside (refuse problem offset) m' :=
  .ofSimulates (.ofRefuse problem offset)

end SimulatesInside

theorem skip_end {c : Cursor} (empty : c.tokens = []) (char : Char) : skip char c = .ok (false, c) := by
  rw [skip_eq, empty]
  rfl

theorem nested_inside {m m' : Reading α} (weight : Nat) (inside : SimulatesInside m m') :
    SimulatesInside (nested weight m) (nested weight m') := by
  intro c c' ends a d success filled
  rw [nested, bind_of_ok (get_eq c)] at success
  rw [nested, bind_of_ok (get_eq c'), ends.depth]
  dsimp only at success ⊢
  by_cases deep : depthLimit < c.depth + weight
  · rw [if_pos deep] at success
    exact absurd success ((refuses_throw _).bind _ _ _ _)
  · rw [if_neg deep, bind_of_ok (modify_eq _ c)] at success
    rw [if_neg deep, bind_of_ok (modify_eq _ c')]
    obtain ⟨value, k, run, success⟩ := bind_ok success
    cases success
    have deeper : Cursor.WithEnding { c with depth := c.depth + weight } { c' with depth := c.depth + weight } :=
      { ends with depth := rfl }
    obtain ⟨reaches, k', run', ends⟩ := inside _ _ deeper a k run filled
    rw [bind_of_ok run']
    have enters : c.Reaches { c with depth := c.depth + weight } := .of_tokens rfl
    exact ⟨enters.trans (reaches.trans (.of_tokens rfl)), _, rfl, { ends with depth := rfl }⟩

end ShaderShrink.Pattern
