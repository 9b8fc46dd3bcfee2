import ShaderShrink.Proofs.Pattern.Language

/-!
# Matching regular patterns

A matcher of a regular pattern goes through all of its ways: it succeeds at a place exactly if some text of the pattern
stands there and what follows succeeds behind it.  What the matcher has in mind has no part in that, and neither has the
look at the next character with which it leaves out ways that must fail.
-/

namespace ShaderShrink.Pattern

/-! ## Trials -/

namespace Trial

variable (trial : Trial)

@[simp] theorem matched_orElse (other : Memory → Trial) :
    (trial.orElse other).matched = (trial.matched || (other trial.memory).matched) := by
  unfold orElse
  split_ifs with success
  · rw [success, Bool.true_or]
  · rw [Bool.eq_false_iff.mpr success, Bool.false_or]

@[simp] theorem matched_failWith (memory : Memory → Memory) : (trial.failWith memory).matched = trial.matched := by
  rw [failWith, matched_orElse, Bool.or_false]

@[simp] theorem matched_failAt (place : Nat) : (trial.failAt place).matched = trial.matched := matched_failWith trial _

end Trial

/-! ## Places -/

/-- Whether a text stands at a place of another one. -/
def Stands (t : Array Char) (place : Nat) (s : Text) : Prop := s <+: t.toList.drop place

section Places

variable {t : Array Char} {place : Nat}

theorem stands_nil : Stands t place [] := List.nil_prefix

theorem stands_append {a b : Text} : Stands t place (a ++ b) ↔ Stands t place a ∧ Stands t (place + a.length) b := by
  rw [Stands, Stands, Stands, ← List.drop_drop]
  constructor
  · rintro ⟨rest, whole⟩
    rw [← whole, List.append_assoc, List.drop_left]
    exact ⟨List.prefix_append a _, List.prefix_append b rest⟩
  · rintro ⟨⟨rest, whole⟩, behind⟩
    rw [← whole, List.drop_left] at behind
    rw [← whole]
    exact (List.prefix_append_right_inj a).mpr behind

theorem stands_singleton {c : Char} : Stands t place [c] ↔ t[place]? = some c := by
  rw [Stands, List.singleton_prefix_iff_head?_eq_some, List.head?_drop, Array.getElem?_toList]

theorem Stands.length_le {s : Text} (stands : Stands t place s) : s.length ≤ t.size - place := by
  have inside := List.IsPrefix.length_le stands
  rwa [List.length_drop, Array.length_toList] at inside

theorem holds_iff {test : CharTest} : test.holds t place = true ↔ ∃ c, test.passes c = true ∧ t[place]? = some c := by
  rw [CharTest.holds]
  cases t[place]? with
  | none => simp
  | some c => simp

end Places

/-! ## What is decided -/

/-- Whether a matcher succeeds exactly at some places, whatever it has in mind. -/
def Decides (run : Matcher) (accepts : Nat → Prop) : Prop :=
  ∀ place memory, (run place memory).matched = true ↔ accepts place

/-- Whether what follows succeeds exactly at some places, and only in front of a character that passes its first test. -/
structure Follow.Decides (follow : Follow) (t : Array Char) (accepts : Nat → Prop) : Prop where
  run : Pattern.Decides follow.run accepts
  head : ∀ test ∈ follow.head, ∀ place, accepts place → test.holds t place = true

/-- Whether some text of a pattern stands at a place, with an accepted place behind it. -/
def Node.Leads (node : Node) (t : Array Char) (accepts : Nat → Prop) (place : Nat) : Prop :=
  ∃ s, node.Matches s ∧ Stands t place s ∧ accepts (place + s.length)

section Leads

variable {t : Array Char} {accepts : Nat → Prop} {place : Nat}

theorem Node.leads_one {test : CharTest} :
    (Node.one test).Leads t accepts place ↔ test.holds t place = true ∧ accepts (place + 1) := by
  rw [holds_iff]
  constructor
  · rintro ⟨_, ⟨c, passes, rfl⟩, stands, behind⟩
    exact ⟨⟨c, passes, stands_singleton.mp stands⟩, behind⟩
  · rintro ⟨⟨c, passes, here⟩, behind⟩
    exact ⟨[c], ⟨c, passes, rfl⟩, stands_singleton.mpr here, behind⟩

theorem Node.leads_seq {first second : Node} :
    (Node.seq first second).Leads t accepts place ↔ first.Leads t (second.Leads t accepts) place := by
  constructor
  · rintro ⟨_, ⟨a, b, front, back, rfl⟩, stands, behind⟩
    obtain ⟨stands, stands'⟩ := stands_append.mp stands
    rw [List.length_append, ← Nat.add_assoc] at behind
    exact ⟨a, front, stands, b, back, stands', behind⟩
  · rintro ⟨a, front, stands, b, back, stands', behind⟩
    refine ⟨a ++ b, ⟨a, b, front, back, rfl⟩, stands_append.mpr ⟨stands, stands'⟩, ?_⟩
    rwa [List.length_append, ← Nat.add_assoc]

theorem Node.leads_either {first second : Node} :
    (Node.either first second).Leads t accepts place ↔ first.Leads t accepts place ∨ second.Leads t accepts place := by
  simp only [Leads, Matches, or_and_right, exists_or]

/-- Where a pattern leads somewhere, the character passes the test with which it is known to begin. -/
theorem Node.head?_sound {node : Node} {follow : Option CharTest}
    (sound : ∀ test ∈ follow, ∀ place, accepts place → test.holds t place = true) :
    ∀ test ∈ node.head? follow, ∀ place, node.Leads t accepts place → test.holds t place = true := by
  induction node generalizing follow accepts with
  | empty =>
    rintro test known place ⟨_, rfl, -, behind⟩
    exact sound test known place behind
  | one test =>
    rintro _ ⟨⟩ place leads
    exact (leads_one.mp leads).1
  | seq first second ih ih' =>
    intro test known place leads
    exact ih (ih' sound) test known place (leads_seq.mp leads)
  | enclosed _ body ih => exact ih sound
  | anchor | either | capture | loop | again | ahead | behind | atomic | choice =>
    exact fun _ known => absurd known (by simp [head?])

/-- No way is left out in front of a character that passes. -/
theorem rulesOut_eq_false {head : Option CharTest} (passes : ∀ test ∈ head, test.holds t place = true)
    (selects : CharTest → Bool) : rulesOut selects head t place = false := by
  cases head with
  | none => rfl
  | some test => simp [rulesOut, passes test rfl]

end Leads

/-! ## Repetitions of single characters -/

/-- Whether the characters from a place on pass a test, up to some number of them. -/
def Passing (t : Array Char) (test : CharTest) (place count : Nat) : Prop := ∀ i < count, test.holds t (place + i) = true

section Characters

variable {t : Array Char} {test : CharTest}

theorem passing_zero {place : Nat} : Passing t test place 0 := fun i within => absurd within (Nat.not_lt_zero i)

theorem passing_succ {place count : Nat} :
    Passing t test place (count + 1) ↔ test.holds t place = true ∧ Passing t test (place + 1) count := by
  constructor
  · intro passing
    refine ⟨passing 0 (Nat.succ_pos count), fun i within => ?_⟩
    rw [Nat.add_assoc, Nat.add_comm 1 i]
    exact passing (i + 1) (by omega)
  · rintro ⟨here, passing⟩ i within
    cases i with
    | zero => exact here
    | succ i =>
      rw [Nat.add_comm i 1, ← Nat.add_assoc]
      exact passing i (by omega)

theorem passing_add {place a b : Nat} : Passing t test place (a + b) ↔ Passing t test place a ∧ Passing t test (place + a) b := by
  constructor
  · intro passing
    refine ⟨fun i within => passing i (by omega), fun i within => ?_⟩
    rw [Nat.add_assoc]
    exact passing (a + i) (by omega)
  · rintro ⟨front, back⟩ i within
    rcases Nat.lt_or_ge i a with before | behind
    · exact front i before
    · obtain ⟨j, rfl⟩ := Nat.exists_eq_add_of_le behind
      rw [← Nat.add_assoc]
      exact back j (by omega)

/-- Passing characters are the characters of a text that stands there. -/
theorem passing_iff {place count : Nat} :
    Passing t test place count ↔ ∃ s : Text, s.length = count ∧ (∀ c ∈ s, test.passes c = true) ∧ Stands t place s := by
  induction count generalizing place with
  | zero =>
    refine ⟨fun _ => ⟨[], rfl, nofun, stands_nil⟩, fun _ => passing_zero⟩
  | succ count ih =>
    rw [passing_succ, ih, holds_iff]
    constructor
    · rintro ⟨⟨c, passes, here⟩, s, size, each, stands⟩
      refine ⟨[c] ++ s, by simp [size], ?_, stands_append.mpr ⟨stands_singleton.mpr here, stands⟩⟩
      intro d member
      rcases List.mem_cons.mp member with rfl | later
      · exact passes
      · exact each d later
    · rintro ⟨s, size, each, stands⟩
      obtain ⟨c, rest, rfl⟩ := List.exists_cons_of_length_eq_add_one size
      obtain ⟨here, stands⟩ := stands_append.mp (show Stands t place ([c] ++ rest) from stands)
      exact ⟨⟨c, each c List.mem_cons_self, stands_singleton.mp here⟩, rest, by simpa using size,
        fun d member => each d (List.mem_cons_of_mem c member), stands⟩

/-- The place behind passing characters. -/
theorem exists_behindPassing (limit place : Nat) :
    ∃ count ≤ limit, behindPassing test t limit place = place + count ∧
      ∀ k ≤ limit, Passing t test place k ↔ k ≤ count := by
  induction limit generalizing place with
  | zero =>
    refine ⟨0, Nat.le_refl 0, rfl, fun k within => ?_⟩
    obtain rfl : k = 0 := by omega
    exact iff_of_true passing_zero within
  | succ limit ih =>
    cases here : test.holds t place with
    | false =>
      refine ⟨0, Nat.zero_le _, by simp [behindPassing, here], fun k _ => ?_⟩
      cases k with
      | zero => exact iff_of_true passing_zero (Nat.le_refl 0)
      | succ k => simp [passing_succ, here]
    | true =>
      obtain ⟨count, within, behind, passing⟩ := ih (place + 1)
      refine ⟨count + 1, by omega, by rw [behindPassing, if_pos here, behind]; omega, fun k less => ?_⟩
      cases k with
      | zero => exact iff_of_true passing_zero (Nat.zero_le _)
      | succ k =>
        rw [passing_succ, passing k (by omega), Nat.add_le_add_iff_right]
        exact and_iff_right here

theorem Passing.le_size {place count : Nat} (passing : Passing t test place count) : count ≤ t.size - place := by
  obtain ⟨s, rfl, -, stands⟩ := passing_iff.mp passing
  exact stands.length_le

variable {follow : Follow} {accepts : Nat → Prop} (decides : follow.Decides t accepts)

include decides

/-- Giving characters back succeeds if what follows succeeds behind some of them. -/
theorem matched_tryShorter (all : Bool) (saved : Memory) (first extra : Nat) (memory : Memory) :
    (tryShorter follow all saved t first extra memory).matched = true ↔ ∃ k ≤ extra, accepts (first + k) := by
  have here : ∀ place memory, (if rulesOut CharTest.isLiteral follow.head t place then (⟨false, memory⟩ : Trial)
      else (follow.run place (memory.moved place)).failWith (saved.restore all)).matched = true ↔ accepts place := by
    intro place memory
    by_cases out : rulesOut CharTest.isLiteral follow.head t place = true
    · rw [if_pos out]
      refine iff_of_false Bool.false_ne_true fun accepted => ?_
      rw [rulesOut_eq_false fun test known => decides.head test known place accepted] at out
      cases out
    · rw [if_neg out, Trial.matched_failWith]
      exact decides.run place _
  induction extra generalizing memory with
  | zero =>
    rw [tryShorter]
    refine (here _ memory).trans ⟨fun accepted => ⟨0, Nat.le_refl 0, accepted⟩, ?_⟩
    rintro ⟨k, within, accepted⟩
    obtain rfl : k = 0 := by omega
    exact accepted
  | succ extra ih =>
    rw [tryShorter, Trial.matched_orElse, Bool.or_eq_true, here]
    refine (or_congr_right (ih _)).trans ?_
    constructor
    · rintro (accepted | ⟨k, within, accepted⟩)
      · exact ⟨extra + 1, Nat.le_refl _, accepted⟩
      · exact ⟨k, by omega, accepted⟩
    · rintro ⟨k, within, accepted⟩
      rcases Nat.lt_or_ge extra k with last | earlier
      · obtain rfl : k = extra + 1 := by omega
        exact .inl accepted
      · exact .inr ⟨k, earlier, accepted⟩

/-- Taking characters one by one succeeds if what follows succeeds behind some that pass. -/
theorem matched_tryLonger (all : Bool) (saved : Memory) (extra place : Nat) (memory : Memory) :
    (tryLonger follow test all saved t extra place memory).matched = true ↔
      ∃ k ≤ extra, Passing t test place k ∧ accepts (place + k) := by
  induction extra generalizing place memory with
  | zero =>
    rw [tryLonger, Trial.matched_orElse, Bool.or_eq_true, decides.run]
    constructor
    · rintro (accepted | failed)
      · exact ⟨0, Nat.le_refl 0, passing_zero, accepted⟩
      · dsimp only at failed
        split_ifs at failed
    · rintro ⟨k, within, -, accepted⟩
      obtain rfl : k = 0 := by omega
      exact .inl accepted
  | succ extra ih =>
    rw [tryLonger, Trial.matched_orElse, Bool.or_eq_true, decides.run]
    dsimp only
    constructor
    · rintro (accepted | later)
      · exact ⟨0, Nat.zero_le _, passing_zero, accepted⟩
      · split_ifs at later with passes
        obtain ⟨k, within, passing, accepted⟩ := (ih _ _).mp later
        refine ⟨k + 1, by omega, passing_succ.mpr ⟨passes, passing⟩, ?_⟩
        rwa [Nat.add_comm k 1, ← Nat.add_assoc]
    · rintro ⟨k, within, passing, accepted⟩
      cases k with
      | zero => exact .inl accepted
      | succ k =>
        obtain ⟨passes, passing⟩ := passing_succ.mp passing
        rw [Nat.add_comm k 1, ← Nat.add_assoc] at accepted
        rw [if_pos passes]
        exact .inr ((ih _ _).mpr ⟨k, by omega, passing, accepted⟩)

/-- A repetition of a test succeeds if what follows succeeds behind some number of passing characters, within the bounds. -/
theorem decides_repeatTest {eagerness : Eagerness} (gives : eagerness ≠ .possessive) {least : Nat} {most : Option Nat}
    (ordered : ∀ bound ∈ most, least ≤ bound) (all : Bool) :
    Decides (repeatTest eagerness least most test all follow t) fun place =>
      ∃ k, least ≤ k ∧ (∀ bound ∈ most, k ≤ bound) ∧ Passing t test place k ∧ accepts (place + k) := by
  intro place memory
  unfold repeatTest
  dsimp only
  by_cases short : t.size - place < least
  · rw [if_pos short]
    refine iff_of_false Bool.false_ne_true ?_
    rintro ⟨k, enough, -, passing, -⟩
    exact absurd passing.le_size (by omega)
  rw [if_neg short]
  -- The bounds and the size of the text together.
  generalize size : t.size - place = left at short ⊢
  have limits : ∃ limit, most.elim left (Nat.min · left) = limit ∧ least ≤ limit ∧ limit ≤ left ∧
      ∀ k ≤ left, (∀ bound ∈ most, k ≤ bound) ↔ k ≤ limit := by
    cases most with
    | none => exact ⟨left, rfl, by omega, Nat.le_refl _, fun k within => by simpa using within⟩
    | some bound =>
      refine ⟨Nat.min bound left, rfl, Nat.le_min.mpr ⟨ordered bound rfl, by omega⟩, Nat.min_le_right _ _, fun k within => ?_⟩
      rw [Nat.le_min]
      simp [within]
  obtain ⟨limit, same, enough, -, bounds⟩ := limits
  rw [same]
  have within : ∀ {k}, Passing t test place k → ((∀ bound ∈ most, k ≤ bound) ↔ k ≤ limit) :=
    fun passing => bounds _ (size ▸ passing.le_size)
  cases eagerness with
  | possessive => exact absurd rfl gives
  | greedy =>
    obtain ⟨count, ends, behind, passing⟩ := @exists_behindPassing t test limit place
    simp only [reduceCtorEq, ↓reduceIte, behind, Nat.add_sub_cancel_left]
    by_cases few : count < least
    · rw [if_pos few]
      refine iff_of_false Bool.false_ne_true ?_
      rintro ⟨k, least_le, bounded, passes, -⟩
      have := (passing k ((within passes).mp bounded)).mp passes
      omega
    · rw [if_neg few]
      refine (matched_tryShorter decides all _ _ _ _).trans ⟨?_, ?_⟩
      · rintro ⟨k, extra, accepted⟩
        have passes := (passing (least + k) (by omega)).mpr (by omega)
        exact ⟨least + k, Nat.le_add_right _ _, (within passes).mpr (by omega), passes, by rwa [← Nat.add_assoc]⟩
      · rintro ⟨k, least_le, bounded, passes, accepted⟩
        obtain ⟨extra, rfl⟩ := Nat.exists_eq_add_of_le least_le
        have := (passing _ ((within passes).mp bounded)).mp passes
        exact ⟨extra, by omega, by rwa [Nat.add_assoc]⟩
  | lazy =>
    obtain ⟨count, ends, behind, passing⟩ := @exists_behindPassing t test least place
    simp only [↓reduceIte, behind, Nat.add_sub_cancel_left]
    by_cases few : count < least
    · rw [if_pos few]
      refine iff_of_false Bool.false_ne_true ?_
      rintro ⟨k, least_le, -, passes, -⟩
      obtain ⟨extra, rfl⟩ := Nat.exists_eq_add_of_le least_le
      have := (passing least (Nat.le_refl _)).mp (passing_add.mp passes).1
      omega
    · rw [if_neg few]
      have must := (passing least (Nat.le_refl _)).mpr (by omega)
      refine (matched_tryLonger decides all _ _ _ _).trans ⟨?_, ?_⟩
      · rintro ⟨k, extra, passes, accepted⟩
        have passes := passing_add.mpr ⟨must, passes⟩
        exact ⟨least + k, Nat.le_add_right _ _, (within passes).mpr (by omega), passes, by rwa [← Nat.add_assoc]⟩
      · rintro ⟨k, least_le, bounded, passes, accepted⟩
        obtain ⟨extra, rfl⟩ := Nat.exists_eq_add_of_le least_le
        have := (within passes).mp bounded
        exact ⟨extra, by omega, (passing_add.mp passes).2, by rwa [Nat.add_assoc]⟩

end Characters

/-! ## Repetitions of patterns -/

/-- Whether a repetition succeeds at a place after some turns, with fuel for some more, where `last` is the place at which
the last turn beyond the least number began. -/
def Repeats (leads : (Nat → Prop) → Nat → Prop) (accepts : Nat → Prop) (least : Nat) (most : Option Nat) :
    (fuel turns : Nat) → (last : Option Nat) → Nat → Prop
  | 0, _, _, _ => False
  | fuel + 1, turns, last, place =>
    if turns < least then leads (Repeats leads accepts least most fuel (turns + 1) last) place
    else accepts place ∨ ((∀ bound ∈ most, turns < bound) ∧ last ≠ some place ∧
      leads (Repeats leads accepts least most fuel (turns + 1) (some place)) place)

/-- A repetition makes its turns one after the other; it is enough that the matcher of a turn decides where it leads. -/
theorem decides_repeatFrom {t : Array Char} {body : Follow → Matcher} {leads : (Nat → Prop) → Nat → Prop}
    (turn : ∀ follow accepts, follow.Decides t accepts → Decides (body follow) (leads accepts))
    {follow : Matcher} {accepts : Nat → Prop} (decides : Decides follow accepts)
    (isLazy : Bool) (least : Nat) (most : Option Nat) (all : Bool) (fuel turns : Nat) (last : Option Nat) :
    Decides (repeatFrom body isLazy least most all follow fuel turns last)
      (Repeats leads accepts least most fuel turns last) := by
  induction fuel generalizing turns last with
  | zero => exact fun place memory => iff_of_false Bool.false_ne_true id
  | succ fuel ih =>
    intro place memory
    have next : ∀ last, Decides (body ⟨none, repeatFrom body isLazy least most all follow fuel (turns + 1) last⟩)
        (leads (Repeats leads accepts least most fuel (turns + 1) last)) :=
      fun last => turn _ _ ⟨ih (turns + 1) last, nofun⟩
    have mayGoOn : (most.all (fun most => turns < most) && last != some place) = true ↔
        (∀ bound ∈ most, turns < bound) ∧ last ≠ some place := by
      cases most <;> simp
    rw [repeatFrom, Repeats]
    dsimp only
    by_cases must : turns < least
    · rw [if_pos must, if_pos must, Trial.matched_failAt]
      exact next last place _
    rw [if_neg must, if_neg must, ← and_assoc, ← mayGoOn]
    cases isLazy with
    | true =>
      rw [if_pos rfl, Trial.matched_orElse, Bool.or_eq_true, decides]
      refine or_congr_right ?_
      by_cases goes : (most.all (fun most => turns < most) && last != some place) = true
      · rw [if_pos goes, Trial.matched_failAt]
        exact (next _ place _).trans (and_iff_right goes).symm
      · rw [if_neg goes]
        exact iff_of_false Bool.false_ne_true fun both => goes both.1
    | false =>
      rw [if_neg Bool.false_ne_true]
      by_cases goes : (most.all (fun most => turns < most) && last != some place) = true
      · rw [if_pos goes, Trial.matched_orElse, Bool.or_eq_true, Trial.matched_failAt, decides, or_comm]
        exact or_congr_right ((next _ place _).trans (and_iff_right goes).symm)
      · rw [if_neg goes, Trial.matched_failAt, decides]
        exact (or_iff_left fun both => goes both.1).symm

section Turns

variable {t : Array Char} {body : Node} {accepts : Nat → Prop} {least : Nat} {most : Option Nat}

/-- A repetition that succeeds has made turns, as many as it must and no more than it may. -/
theorem exists_of_repeats (ordered : ∀ bound ∈ most, least ≤ bound) {fuel turns place : Nat} {last : Option Nat}
    (bounded : ∀ bound ∈ most, turns ≤ bound) (repeats : Repeats (body.Leads t) accepts least most fuel turns last place) :
    ∃ texts : List Text, (∀ s ∈ texts, body.Matches s) ∧ Stands t place texts.flatten ∧
      accepts (place + texts.flatten.length) ∧ least ≤ turns + texts.length ∧ ∀ bound ∈ most, turns + texts.length ≤ bound := by
  induction fuel generalizing turns place last with
  | zero => exact repeats.elim
  | succ fuel ih =>
    have further : (∀ bound ∈ most, turns + 1 ≤ bound) → ∀ last,
        body.Leads t (Repeats (body.Leads t) accepts least most fuel (turns + 1) last) place →
        ∃ texts : List Text, (∀ s ∈ texts, body.Matches s) ∧ Stands t place texts.flatten ∧
          accepts (place + texts.flatten.length) ∧ least ≤ turns + texts.length ∧
            ∀ bound ∈ most, turns + texts.length ≤ bound := by
      rintro bounded last ⟨s, found, stands, later⟩
      obtain ⟨texts, each, stands', accepted, enough, within⟩ := ih bounded later
      rw [Nat.add_right_comm, Nat.add_assoc] at enough
      refine ⟨s :: texts, ?_, stands_append.mpr ⟨stands, stands'⟩, ?_, enough, fun bound listed => ?_⟩
      · intro other member
        rcases List.mem_cons.mp member with rfl | later
        · exact found
        · exact each other later
      · rwa [List.flatten_cons, List.length_append, ← Nat.add_assoc]
      · have := within bound listed
        rw [List.length_cons]
        omega
    rw [Repeats] at repeats
    split_ifs at repeats with must
    · exact further (fun bound listed => Nat.lt_of_lt_of_le must (ordered bound listed)) last repeats
    · rcases repeats with accepted | ⟨more, -, later⟩
      · exact ⟨[], nofun, stands_nil, accepted, Nat.not_lt.mp must, bounded⟩
      · exact further more _ later

/-- Turns beyond the least number are found if each of them gets on. -/
theorem repeats_of_may {may : List Text} (each : ∀ s ∈ may, body.Matches s ∧ s ≠ []) {fuel turns place : Nat}
    {last : Option Nat} (stands : Stands t place may.flatten) (accepted : accepts (place + may.flatten.length))
    (enough : least ≤ turns) (within : ∀ bound ∈ most, turns + may.length ≤ bound) (moved : may ≠ [] → last ≠ some place)
    (fueled : may.length < fuel) : Repeats (body.Leads t) accepts least most fuel turns last place := by
  obtain ⟨fuel, rfl⟩ := Nat.exists_eq_add_one_of_ne_zero (Nat.ne_zero_of_lt fueled)
  induction may generalizing fuel turns place last with
  | nil =>
    rw [Repeats, if_neg (Nat.not_lt.mpr enough)]
    exact .inl accepted
  | cons s may ih =>
    obtain ⟨found, filled⟩ := each s List.mem_cons_self
    obtain ⟨stands, stands'⟩ := stands_append.mp (List.flatten_cons ▸ stands)
    rw [List.flatten_cons, List.length_append, ← Nat.add_assoc] at accepted
    rw [List.length_cons] at within fueled
    have longer := List.length_pos_iff.mpr filled
    rw [Repeats, if_neg (Nat.not_lt.mpr enough)]
    refine .inr ⟨fun bound listed => ?_, moved (List.cons_ne_nil s may), s, found, stands, ?_⟩
    · have := within bound listed
      omega
    · obtain ⟨fuel, rfl⟩ : ∃ n, fuel = n + 1 := ⟨fuel - 1, by omega⟩
      refine ih (fun other member => each other (List.mem_cons_of_mem s member)) stands' accepted (by omega) ?_ ?_ _ (by omega)
      · intro bound listed
        have := within bound listed
        omega
      · intro _ same
        have := Option.some.inj same
        omega

/-- So are turns up to the least number, whether or not they get on. -/
theorem repeats_of_must {must may : List Text} (each : ∀ s ∈ must, body.Matches s) (each' : ∀ s ∈ may, body.Matches s ∧ s ≠ [])
    {fuel turns place : Nat} (stands : Stands t place (must.flatten ++ may.flatten))
    (accepted : accepts (place + (must.flatten ++ may.flatten).length)) (enough : turns + must.length = least)
    (within : ∀ bound ∈ most, least + may.length ≤ bound) (fueled : must.length + may.length < fuel) :
    Repeats (body.Leads t) accepts least most fuel turns none place := by
  induction must generalizing fuel turns place with
  | nil =>
    obtain rfl : turns = least := enough
    rw [List.flatten_nil, List.nil_append] at stands accepted
    exact repeats_of_may each' stands accepted (Nat.le_refl _) within (fun _ => nofun) (by simpa using fueled)
  | cons s must ih =>
    obtain ⟨fuel, rfl⟩ : ∃ n, fuel = n + 1 := ⟨fuel - 1, by omega⟩
    rw [List.flatten_cons, List.append_assoc] at stands accepted
    obtain ⟨stands, stands'⟩ := stands_append.mp stands
    rw [List.length_append, ← Nat.add_assoc] at accepted
    rw [List.length_cons] at enough fueled
    rw [Repeats, if_pos (by omega)]
    exact ⟨s, each s List.mem_cons_self, stands, ih (fun other member => each other (List.mem_cons_of_mem s member)) stands'
      accepted (by omega) (by omega)⟩

/-- With the fuel of a whole repetition all numbers of turns are found: turns that do not get on can be left out. -/
theorem leads_loop_iff (eagerness : Eagerness) (ordered : ∀ bound ∈ most, least ≤ bound) {place : Nat} :
    (Node.loop eagerness least most body).Leads t accepts place ↔
      Repeats (body.Leads t) accepts least most (turnBound least t) 0 none place := by
  constructor
  · rintro ⟨_, ⟨texts, enough, within, each, rfl⟩, stands, accepted⟩
    have split : texts.flatten = (texts.take least).flatten ++ ((texts.drop least).filter (!·.isEmpty)).flatten := by
      rw [List.flatten_filter_not_isEmpty, ← List.flatten_append, List.take_append_drop]
    have must : (texts.take least).length = least := List.length_take_of_le enough
    have fewer : ((texts.drop least).filter (!·.isEmpty)).length ≤ texts.length - least := by
      rw [← List.length_drop]
      exact List.length_filter_le _ _
    have gets : ∀ s ∈ (texts.drop least).filter (!·.isEmpty), body.Matches s ∧ s ≠ [] := by
      intro s member
      obtain ⟨inside, filled⟩ := List.mem_filter.mp member
      exact ⟨each s (List.mem_of_mem_drop inside), by simpa using filled⟩
    rw [split] at stands accepted
    have short : ((texts.drop least).filter (!·.isEmpty)).length * 1 ≤ t.size := by
      have sized := (stands_append.mp stands).2.length_le
      have longer := Node.mul_le_length_flatten fun s member => List.length_pos_iff.mpr (gets s member).2
      omega
    refine repeats_of_must (fun s member => each s (List.mem_of_mem_take member)) gets stands accepted (by omega) ?_ ?_
    · intro bound listed
      have := within bound listed
      omega
    · rw [turnBound]
      omega
  · intro repeats
    obtain ⟨texts, each, stands, accepted, enough, within⟩ := exists_of_repeats ordered (fun _ _ => Nat.zero_le _) repeats
    rw [Nat.zero_add] at enough within
    exact ⟨_, ⟨texts, enough, within, each, rfl⟩, stands, accepted⟩

end Turns

/-! ## Patterns -/

namespace Node

theorem matches_of_single? {node : Node} {test : CharTest} (single : node.single? = some test) {s : Text} :
    node.Matches s ↔ ∃ c, test.passes c = true ∧ s = [c] := by
  induction node with
  | one own =>
    cases single
    exact Iff.rfl
  | enclosed changed body ih => exact ih single
  | _ => cases single

/-- The turns of a repetition of a test are single characters that pass. -/
theorem leads_loop_of_single? {body : Node} {test : CharTest} (single : body.single? = some test) {t : Array Char}
    {accepts : Nat → Prop} {eagerness : Eagerness} {least : Nat} {most : Option Nat} {place : Nat} :
    (loop eagerness least most body).Leads t accepts place ↔
      ∃ k, least ≤ k ∧ (∀ bound ∈ most, k ≤ bound) ∧ Passing t test place k ∧ accepts (place + k) := by
  have singles : ∀ {turns : List Text}, (∀ turn ∈ turns, body.Matches turn) →
      ∃ s : Text, turns.flatten = s ∧ s.length = turns.length ∧ ∀ c ∈ s, test.passes c = true := by
    intro turns each
    induction turns with
    | nil => exact ⟨[], rfl, rfl, nofun⟩
    | cons turn turns ih =>
      obtain ⟨c, passes, rfl⟩ := (matches_of_single? single).mp (each turn List.mem_cons_self)
      obtain ⟨s, rfl, size, all⟩ := ih fun other member => each other (List.mem_cons_of_mem _ member)
      exact ⟨c :: turns.flatten, rfl, by simp [size], List.forall_mem_cons.mpr ⟨passes, all⟩⟩
  constructor
  · rintro ⟨_, ⟨turns, enough, within, each, rfl⟩, stands, accepted⟩
    obtain ⟨s, same, size, all⟩ := singles each
    rw [same] at stands accepted
    exact ⟨s.length, size ▸ enough, size ▸ within, passing_iff.mpr ⟨s, rfl, all, stands⟩, accepted⟩
  · rintro ⟨k, enough, within, passing, accepted⟩
    obtain ⟨s, rfl, all, stands⟩ := passing_iff.mp passing
    refine ⟨s, ⟨s.map ([·]), ?_, ?_, ?_, ?_⟩, stands, accepted⟩
    · rwa [List.length_map]
    · rwa [List.length_map]
    · intro turn member
      obtain ⟨c, inside, rfl⟩ := List.mem_map.mp member
      exact (matches_of_single? single).mpr ⟨c, all c inside, rfl⟩
    · rw [← List.flatMap_def, List.flatMap_singleton']

/-- A regular pattern succeeds exactly at the places from which it leads to a place where what follows succeeds. -/
theorem decides_run {node : Node} (regular : node.isRegular = true) {t : Array Char} {follow : Follow} {accepts : Nat → Prop}
    (decides : follow.Decides t accepts) (inLoop : Bool) : Decides (node.run t inLoop follow) (node.Leads t accepts) := by
  induction node generalizing follow accepts inLoop with
  | empty =>
    intro place memory
    refine (decides.run place memory).trans ⟨fun accepted => ⟨[], rfl, stands_nil, accepted⟩, ?_⟩
    rintro ⟨_, rfl, -, accepted⟩
    exact accepted
  | one test =>
    intro place memory
    rw [run, leads_one]
    dsimp only
    by_cases passes : test.holds t place = true
    · rw [if_pos passes]
      exact (decides.run _ _).trans (and_iff_right passes).symm
    · rw [if_neg passes]
      exact iff_of_false Bool.false_ne_true fun both => passes both.1
  | seq first second ih ih' =>
    obtain ⟨regular, regular'⟩ := Bool.and_eq_true_iff.mp regular
    intro place memory
    rw [leads_seq]
    exact ih regular ⟨ih' regular' decides inLoop, head?_sound decides.head⟩ inLoop place memory
  | either first second ih ih' =>
    obtain ⟨regular, regular'⟩ := Bool.and_eq_true_iff.mp regular
    have plain : (⟨none, follow.run⟩ : Follow).Decides t accepts := ⟨decides.run, nofun⟩
    -- A way that is left out leads nowhere.
    have attempt : ∀ (node : Node) (run : Matcher) (saved memory : Memory) place, Decides run (node.Leads t accepts) →
        ((if rulesOut CharTest.isPlain (node.head? none) t place then (⟨false, memory⟩ : Trial)
          else (run place (memory.moved place)).failWith (saved.restore inLoop)).matched = true ↔
            node.Leads t accepts place) := by
      intro node run saved memory place decides
      by_cases out : rulesOut CharTest.isPlain (node.head? none) t place = true
      · rw [if_pos out]
        refine iff_of_false Bool.false_ne_true fun leads => ?_
        rw [rulesOut_eq_false fun test known => head?_sound (by nofun) test known place leads] at out
        cases out
      · rw [if_neg out, Trial.matched_failWith]
        exact decides place _
    intro place memory
    rw [run, leads_either, Trial.matched_orElse, Bool.or_eq_true]
    refine or_congr (attempt first _ _ _ place (ih regular plain inLoop)) ?_
    by_cases more : second.isEither = true
    · rw [if_pos more]
      exact ih' regular' plain inLoop place _
    · rw [if_neg more]
      exact attempt second _ _ _ place (ih' regular' plain inLoop)
  | enclosed changed body ih => exact ih regular decides inLoop
  | capture group body ih =>
    have marked : (⟨none, fun last memory => follow.run last (memory.mark (2 * group - 1) last)⟩ : Follow).Decides t accepts :=
      ⟨fun last memory => decides.run last _, nofun⟩
    exact fun place memory => ih regular marked inLoop place _
  | loop eagerness least most body ih =>
    obtain ⟨gives, ordered, regular⟩ := isRegular_loop.mp regular
    intro place memory
    cases single : body.single? with
    | some test =>
      simp only [run, single]
      rw [leads_loop_of_single? single]
      exact decides_repeatTest decides gives ordered inLoop place memory
    | none =>
      rw [leads_loop_iff eagerness ordered]
      have turn : ∀ follow accepts, follow.Decides t accepts → Decides (body.run t true follow) (body.Leads t accepts) :=
        fun follow accepts decides => ih regular decides true
      simp only [run, single]
      cases eagerness with
      | possessive => exact absurd rfl gives
      | greedy => exact decides_repeatFrom turn decides.run _ least most inLoop _ 0 none place memory
      | lazy => exact decides_repeatFrom turn decides.run _ least most inLoop _ 0 none place memory
  | anchor | again | ahead | behind | atomic | choice => cases regular

theorem hasPossessive_of_isRegular {node : Node} (regular : node.isRegular = true) : node.hasPossessive = false := by
  induction node with
  | empty | one => rfl
  | seq first second ih ih' | either first second ih ih' =>
    obtain ⟨regular, regular'⟩ := Bool.and_eq_true_iff.mp regular
    rw [hasPossessive, ih regular, ih' regular']
    rfl
  | enclosed _ body ih | capture _ body ih => exact ih regular
  | loop eagerness least most body ih =>
    obtain ⟨gives, -, regular⟩ := isRegular_loop.mp regular
    simp [hasPossessive, gives, ih regular]
  | anchor | again | ahead | behind | atomic | choice => cases regular

/-- A regular pattern can always be told to match a whole text or not, and it does if the text is one of its own. -/
theorem fullMatch_of_isRegular {node : Node} (regular : node.isRegular = true) (text : Text) :
    ∃ answer, node.fullMatch text = .ok answer ∧ (answer = true ↔ node.Matches text) := by
  refine ⟨node.matchesWhole text, ?_, ?_⟩
  · rw [fullMatch, hasPossessive_of_isRegular regular]
    rfl
  rw [matchesWhole, tryWhole]
  have decides : (atEnd text.toArray).Decides text.toArray (· = text.length) :=
    ⟨fun place memory => by simp [atEnd], nofun⟩
  by_cases wide : node.width.least ≤ text.toArray.size
  · rw [if_pos wide]
    refine (decides_run regular decides false 0 _).trans ⟨?_, ?_⟩
    · rintro ⟨s, found, stands, size⟩
      rw [Nat.zero_add] at size
      have front : s <+: text := stands
      rwa [front.eq_of_length size] at found
    · intro found
      exact ⟨text, found, List.prefix_refl text, Nat.zero_add _⟩
  · rw [if_neg wide]
    exact iff_of_false Bool.false_ne_true fun found => wide (by simpa using found.least_le)

end Node

end ShaderShrink.Pattern
