import ShaderShrink.Proofs.Opportunity.FreshName

/-!
# What a context gives out

A context is asked for numbers, for names behind some letters and for names that are not taken, in any order.  Every
request uses up a number of its own, and the numbers grow from request to request.  The number alone does not make a name:
two names are the same exactly where the letters of the earlier one are those of the later one with digits behind them,
and these digits stand in front of the earlier number in the later one.
-/

namespace ShaderShrink.Context

/-- What a context is asked for. -/
inductive Request where
  | number
  | prefixed (letters : Text)
  | name (taken : List Text)

/-- The letters of the name for a request, if it is for a name. -/
def Request.letters? : Request → Option Text
  | number => none
  | prefixed letters => some letters
  | name _ => some "_v".toList

/-- What a context gives out. -/
inductive Answer where
  | number (n : Nat)
  | named (name : Text)
  deriving DecidableEq

/-- The name that was given out, if it was one. -/
def Answer.name? : Answer → Option Text
  | number _ => none
  | named name => some name

/-- The answer to a request, and the context after it. -/
def answer (context : Context) : Request → Answer × Context
  | .number => (.number context.freshId.1, context.freshId.2)
  | .prefixed letters => (.named (context.freshPrefixed letters).1, (context.freshPrefixed letters).2)
  | .name taken => (.named (context.freshName taken).1, (context.freshName taken).2)

/-- A request and the answer to it, with the next number before and after it. -/
structure Grant where
  request : Request
  answer : Answer
  before : Nat
  after : Nat

/-- The number that a request used up: the last one that is used. -/
def Grant.number (grant : Grant) : Nat := grant.after - 1

/-- What a context gives out for one request after the other. -/
def grants (context : Context) : List Request → List Grant
  | [] => []
  | request :: rest =>
    ⟨request, (context.answer request).1, context.nextId, (context.answer request).2.nextId⟩ ::
      (context.answer request).2.grants rest

/-- How a request is answered with a number: the next one, or the least one from there on whose name is not taken. -/
inductive Grant.Draws : Grant → Nat → Prop
  | number {n : Nat} : Draws ⟨.number, .number n, n, n + 1⟩ n
  | prefixed {letters : Text} {n : Nat} : Draws ⟨.prefixed letters, .named (letters ++ Nat.toDigits 10 n), n, n + 1⟩ n
  | name {taken : List Text} {next n : Nat} : next ≤ n → nameOf n ∉ taken →
      (∀ m, next ≤ m → m < n → nameOf m ∈ taken) → Draws ⟨.name taken, .named (nameOf n), next, n + 1⟩ n

namespace Grant.Draws

variable {grant : Grant} {n : Nat}

theorem after_eq (draws : grant.Draws n) : grant.after = n + 1 := by
  cases draws <;> rfl

theorem before_le (draws : grant.Draws n) : grant.before ≤ n := by
  cases draws with
  | number | prefixed => exact Nat.le_refl n
  | name further => exact further

theorem number_eq (draws : grant.Draws n) : grant.number = n := by
  rw [Grant.number, draws.after_eq, Nat.add_sub_cancel]

/-- A name is the letters of its request with the number behind them. -/
theorem exists_letters {name : Text} (draws : grant.Draws n) (given : grant.answer.name? = some name) :
    ∃ letters, grant.request.letters? = some letters ∧ name = letters ++ Nat.toDigits 10 n := by
  cases draws with
  | number => cases given
  | prefixed | name => exact ⟨_, rfl, (Option.some.inj given).symm⟩

end Grant.Draws

/-- Each request uses up one number. -/
theorem draws_answer (context : Context) (request : Request) :
    ∃ n, Grant.Draws ⟨request, (context.answer request).1, context.nextId, (context.answer request).2.nextId⟩ n := by
  cases request with
  | number => exact ⟨context.nextId, .number⟩
  | prefixed letters => exact ⟨context.nextId, .prefixed⟩
  | name taken =>
    obtain ⟨n, drawn, further, free, passed⟩ := context.exists_freshName taken
    refine ⟨n, ?_⟩
    simp only [answer, drawn]
    exact .name further free passed

theorem request_grants (context : Context) (requests : List Request) :
    (context.grants requests).map (·.request) = requests := by
  induction requests generalizing context with
  | nil => rfl
  | cons request rest ih => rw [grants, List.map_cons, ih]

/-- Every request is answered with a number that is not below the next one at the beginning. -/
theorem draws_of_mem_grants {context : Context} {requests : List Request} {grant : Grant}
    (member : grant ∈ context.grants requests) : grant.Draws grant.number ∧ context.nextId ≤ grant.number := by
  induction requests generalizing context with
  | nil => cases member
  | cons request rest ih =>
    obtain ⟨n, draws⟩ := context.draws_answer request
    rcases List.mem_cons.mp member with rfl | later
    · rw [draws.number_eq]
      exact ⟨draws, draws.before_le⟩
    · obtain ⟨laterDraws, further⟩ := ih later
      have next : (context.answer request).2.nextId = n + 1 := draws.after_eq
      have here : context.nextId ≤ n := draws.before_le
      exact ⟨laterDraws, by omega⟩

/-- The numbers that are used up grow from request to request. -/
theorem pairwise_grants (context : Context) (requests : List Request) :
    (context.grants requests).Pairwise fun a b => a.number < b.number := by
  induction requests generalizing context with
  | nil => exact .nil
  | cons request rest ih =>
    refine .cons (fun later member => ?_) (ih _)
    obtain ⟨n, draws⟩ := context.draws_answer request
    have next : (context.answer request).2.nextId = n + 1 := draws.after_eq
    have further := (draws_of_mem_grants member).2
    rw [draws.number_eq]
    omega

/-! ## Names that are the same -/

theorem length_toDigits_mono {m n : Nat} (le : m ≤ n) : (Nat.toDigits 10 m).length ≤ (Nat.toDigits 10 n).length := by
  have positive : 0 < (Nat.toDigits 10 n).length := Nat.length_toDigits_pos
  have below : n < 10 ^ (Nat.toDigits 10 n).length := (Nat.length_toDigits_le_iff (by decide) positive).mp (Nat.le_refl _)
  exact (Nat.length_toDigits_le_iff (by decide) positive).mpr (Nat.lt_of_le_of_lt le below)

/-- Letters with a number behind them are other letters with a greater number behind them exactly if the first letters go
on with digits, and these stand in the greater number in front of the smaller one. -/
theorem append_toDigits_eq_iff {letters others : Text} {m n : Nat} (less : m < n) :
    letters ++ Nat.toDigits 10 m = others ++ Nat.toDigits 10 n ↔
      ∃ digits, digits ≠ [] ∧ letters = others ++ digits ∧ Nat.toDigits 10 n = digits ++ Nat.toDigits 10 m := by
  have differ : Nat.toDigits 10 n ≠ Nat.toDigits 10 m := fun same => Nat.ne_of_gt less (toDigits_inj same)
  constructor
  · intro same
    rcases List.append_eq_append_iff.mp same with ⟨more, rfl, split⟩ | ⟨digits, rfl, split⟩
    · -- Here the numeral of the smaller number would be the longer one.
      have short := length_toDigits_mono (Nat.le_of_lt less)
      rw [split, List.length_append] at short
      obtain rfl : more = [] := List.length_eq_zero_iff.mp (by omega)
      exact absurd split.symm differ
    · refine ⟨digits, ?_, rfl, split⟩
      rintro rfl
      exact differ split
  · rintro ⟨digits, -, rfl, split⟩
    rw [split, List.append_assoc]

/-- Whether the letters of an earlier request are those of a later one with digits behind them, and these digits stand in
the later number in front of the earlier one. -/
def Grant.RunsInto (earlier later : Grant) : Prop :=
  ∃ letters digits, digits ≠ [] ∧ later.request.letters? = some letters ∧
    earlier.request.letters? = some (letters ++ digits) ∧
    Nat.toDigits 10 later.number = digits ++ Nat.toDigits 10 earlier.number

/-- Two names are the same exactly if the letters of the earlier one run into the number of the later one. -/
theorem Grant.name_eq_iff {earlier later : Grant} {name other : Text} (draws : earlier.Draws earlier.number)
    (draws' : later.Draws later.number) (less : earlier.number < later.number)
    (given : earlier.answer.name? = some name) (given' : later.answer.name? = some other) :
    name = other ↔ earlier.RunsInto later := by
  obtain ⟨letters, asked, rfl⟩ := draws.exists_letters given
  obtain ⟨others, asked', rfl⟩ := draws'.exists_letters given'
  rw [append_toDigits_eq_iff less]
  constructor
  · rintro ⟨digits, filled, rfl, split⟩
    exact ⟨others, digits, filled, asked', asked, split⟩
  · rintro ⟨_, digits, filled, same', same, split⟩
    cases asked'.symm.trans same'
    exact ⟨digits, filled, Option.some.inj (asked.symm.trans same), split⟩

/-- Whether no letters that names are asked for with are other ones with digits behind them. -/
def Distinct (requests : List Request) : Prop :=
  ∀ letters ∈ requests.filterMap Request.letters?, ∀ others ∈ requests.filterMap Request.letters?,
    ∀ digits : Text, digits ≠ [] → (∀ c ∈ digits, c.isDigit = true) → letters ≠ others ++ digits

/-- Letters that do not end with a digit are not other ones with digits behind them. -/
theorem distinct_of_getLast? {requests : List Request}
    (plain : ∀ letters ∈ requests.filterMap Request.letters?, letters.getLast?.any (·.isDigit) = false) :
    Distinct requests := by
  rintro letters member others - digits filled ascii rfl
  obtain ⟨front, last, rfl⟩ := List.eq_nil_or_concat' digits |>.resolve_left filled
  have other := plain _ member
  rw [← List.append_assoc, List.getLast?_concat, Option.any_some, ascii last (by simp)] at other
  cases other

/-- Where no letters go on with digits, all names are different. -/
theorem nodup_names (context : Context) {requests : List Request} (distinct : Distinct requests) :
    ((context.grants requests).filterMap (·.answer.name?)).Nodup := by
  rw [List.Nodup, List.pairwise_filterMap]
  refine (pairwise_grants context requests).imp_of_mem ?_
  intro earlier later member member' less name given other given' same
  have asked : ∀ {grant letters}, grant ∈ context.grants requests → grant.request.letters? = some letters →
      letters ∈ requests.filterMap Request.letters? := by
    intro grant letters member named
    exact List.mem_filterMap.mpr ⟨grant.request, request_grants context requests ▸ List.mem_map_of_mem member, named⟩
  have draws := (draws_of_mem_grants member).1
  have draws' := (draws_of_mem_grants member').1
  obtain ⟨letters, digits, filled, later', earlier', numeral⟩ := (Grant.name_eq_iff draws draws' less given given').mp same
  refine distinct _ (asked member earlier') _ (asked member' later') digits filled (fun c inside => ?_) rfl
  have digit : c ∈ Nat.toDigits 10 later.number := numeral ▸ List.mem_append_left _ inside
  exact Nat.isDigit_of_mem_toDigits (by decide) (by decide) digit

/-- Every request is answered, with a number of its own: the numbers grow, and a name that must not be taken has the least
number from the next one on whose name is free.  Two names are the same exactly if the letters of the earlier one run into
the number of the later one, so that all names are different where no letters go on with digits. -/
theorem grants_numbered (context : Context) (requests : List Request) :
    (context.grants requests).map (·.request) = requests ∧
      (∀ grant ∈ context.grants requests, grant.Draws grant.number ∧ context.nextId ≤ grant.number) ∧
      ((context.grants requests).Pairwise fun earlier later => earlier.number < later.number ∧
        ∀ name other, earlier.answer.name? = some name → later.answer.name? = some other →
          (name = other ↔ earlier.RunsInto later)) ∧
      (Distinct requests → ((context.grants requests).filterMap (·.answer.name?)).Nodup) := by
  refine ⟨request_grants context requests, fun grant => draws_of_mem_grants, ?_, nodup_names context⟩
  refine (pairwise_grants context requests).imp_of_mem fun {earlier later} member member' less => ⟨less, ?_⟩
  intro name other
  exact Grant.name_eq_iff (draws_of_mem_grants member).1 (draws_of_mem_grants member').1 less

/-- Requests for names of which the first letters run into the last number. -/
def runningLetters : List Request :=
  [.prefixed "a1".toList, .name ((List.range' 1 8).map nameOf), .prefixed "a".toList]

/-- Requests for names whose letters end with no digit. -/
def plainLetters : List Request := [.prefixed "tmp".toList, .number, .name [nameOf 2], .prefixed "tmp".toList]

/-- Letters that go on with a digit may give a name twice, and letters that do not never do. -/
theorem grants_numbered_runningLetters :
    ((create 0 ⟨false, .default⟩).grants runningLetters).filterMap (·.answer.name?) =
        ["a10".toList, "_v9".toList, "a10".toList] ∧
      Grant.RunsInto ⟨.prefixed "a1".toList, .named "a10".toList, 0, 1⟩ ⟨.prefixed "a".toList, .named "a10".toList, 10, 11⟩ ∧
      ((create 0 ⟨false, .default⟩).grants plainLetters).filterMap (·.answer.name?) =
        ["tmp0".toList, "_v3".toList, "tmp4".toList] ∧
      ["tmp0".toList, "_v3".toList, "tmp4".toList].Nodup := by
  have given : (create 0 ⟨false, .default⟩).grants runningLetters =
      [⟨.prefixed "a1".toList, .named "a10".toList, 0, 1⟩,
        ⟨.name ((List.range' 1 8).map nameOf), .named "_v9".toList, 1, 10⟩,
        ⟨.prefixed "a".toList, .named "a10".toList, 10, 11⟩] := rfl
  have plain : ((create 0 ⟨false, .default⟩).grants plainLetters).filterMap (·.answer.name?) =
      ["tmp0".toList, "_v3".toList, "tmp4".toList] := rfl
  obtain ⟨-, -, apart, -⟩ := grants_numbered (create 0 ⟨false, .default⟩) runningLetters
  obtain ⟨-, -, -, different⟩ := grants_numbered (create 0 ⟨false, .default⟩) plainLetters
  rw [given] at apart ⊢
  refine ⟨rfl, ?_, plain, plain ▸ different (distinct_of_getLast? (by decide))⟩
  exact (((List.pairwise_cons.mp apart).1 _ (by simp)).2 _ _ rfl rfl).mp rfl

end ShaderShrink.Context
