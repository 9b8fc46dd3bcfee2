import ShaderShrink.Judge.Basic
import ShaderShrink.Proofs.Effect
import ShaderShrink.Proofs.Pattern.Anything
import ShaderShrink.Proofs.Pattern.Matching

/-!
# What an error string is looked for

Anything may stand around an error string, so that a text is searched for a part that the error string matches.  This fails
for an error string with bars of its own: then the first alternative is looked for at the end of the text, the last one at
its beginning, and those in between have to be the whole text.
-/

namespace ShaderShrink

open Effect

namespace Pattern

/-- Whether a text has what alternatives with anything around them look for. -/
def Contains (first : List Node) (others : List (List Node)) (t : Text) : Prop :=
  match others.getLast? with
  | none => ∃ part, part <:+: t ∧ (Node.ofParts first).Matches part
  | some last => (∃ ending, ending <:+ t ∧ (Node.ofParts first).Matches ending) ∨
      (∃ alternative ∈ others.dropLast, (Node.ofParts alternative).Matches t) ∨
        ∃ beginning, beginning <+: t ∧ (Node.ofParts last).Matches beginning

variable {first nodes : List Node} {others : List (List Node)} {t : Text}

theorem matches_dots (t : Text) : dots.Matches t := by
  refine ⟨t.map fun c => [c], Nat.zero_le _, nofun, fun turn member => ?_, ?_⟩
  · obtain ⟨c, -, rfl⟩ := List.mem_map.mp member
    exact ⟨c, rfl, rfl⟩
  · exact (List.flatMap_singleton' t).symm

/-- With anything in front of it, a sequence is at the end of a text. -/
theorem matches_dots_cons :
    (Node.ofParts (dots :: nodes)).Matches t ↔ ∃ ending, ending <:+ t ∧ (Node.ofParts nodes).Matches ending := by
  rw [Node.matches_ofParts_cons]
  constructor
  · rintro ⟨front, ending, -, found, rfl⟩
    exact ⟨ending, List.suffix_append _ _, found⟩
  · rintro ⟨ending, ⟨front, rfl⟩, found⟩
    exact ⟨front, ending, matches_dots front, found, rfl⟩

/-- With anything behind it, a sequence is at the beginning of a text. -/
theorem matches_append_dots :
    (Node.ofParts (nodes ++ [dots])).Matches t ↔ ∃ beginning, beginning <+: t ∧ (Node.ofParts nodes).Matches beginning := by
  rw [Node.matches_ofParts_append]
  constructor
  · rintro ⟨beginning, rest, found, -, rfl⟩
    exact ⟨beginning, List.prefix_append _ _, found⟩
  · rintro ⟨beginning, ⟨rest, rfl⟩, found⟩
    exact ⟨beginning, rest, found, matches_dots rest, rfl⟩

theorem matches_around : (around first others).Matches t ↔ Contains first others t := by
  rcases List.eq_nil_or_concat others with rfl | ⟨middle, last, rfl⟩
  · rw [around, Contains, List.getLast?_nil, List.cons_append, matches_dots_cons]
    simp only [matches_append_dots]
    constructor
    · rintro ⟨ending, behind, part, front, found⟩
      exact ⟨part, front.isInfix.trans behind.isInfix, found⟩
    · rintro ⟨part, ⟨front, rest, rfl⟩, found⟩
      exact ⟨part ++ rest, ⟨front, (List.append_assoc _ _ _).symm⟩, part, List.prefix_append _ _, found⟩
  · rw [List.concat_eq_append, around_append, Contains, List.getLast?_concat, List.dropLast_concat, Node.matches_eitherOf]
    simp [or_and_right, exists_or, matches_dots_cons, matches_append_dots]

/-- What an error string is looked for in a text. -/
theorem accepts_ofErrorString {e : String} {node : Node} (valid : read errorModes e.toList = .ok node)
    (regular : node.isRegular = true) :
    ∃ first others pattern, alternatives errorModes e.toList = .ok (first, others) ∧ node = .ofAlternatives .exact first others ∧
      ofErrorString (some e) = .ok pattern ∧
        ∀ t, ∃ answer, accepts pattern t = .ok answer ∧ (answer = true ↔ Contains first others t) := by
  obtain ⟨first, others, found, same, wrapped⟩ := read_anything valid regular
  have regular := isRegular_around (Node.isRegular_of_ofAlternatives (same ▸ regular))
  by_cases empty : e.isEmpty = true
  · obtain rfl := String.isEmpty_iff.mp empty
    cases found
    refine ⟨[], [], none, rfl, same, rfl, fun t => ⟨true, rfl, iff_of_true rfl ⟨[], List.nil_infix, rfl⟩⟩⟩
  · refine ⟨first, others, some (around first others), found, same, ?_, fun t => ?_⟩
    · rw [ofErrorString, if_neg empty]
      dsimp only
      rw [wrapped]
    · obtain ⟨answer, run, meaning⟩ := Node.fullMatch_of_isRegular regular t
      exact ⟨answer, run, meaning.trans matches_around⟩

end Pattern

namespace Judge

variable {σ : Type} {dispatcher : Dispatcher σ} {candidate : Candidate} {world left : World σ}

/-- A candidate without an image is judged by its log. -/
theorem isInteresting_noImage {pattern : Option Pattern.Node} {skip : Bool} {outcome : RenderOutcome}
    (rendered : dispatcher.render candidate.path candidate.image skip world = .ok outcome left)
    (noImage : outcome.producedImage? left.files = none)
    (fails : ¬(skip = true ∧ (outcome.status = .success ∨ outcome.status = .skipped))) :
    (Judge.noImage pattern skip).isInteresting dispatcher candidate world =
      Action.ofExcept (Pattern.accepts pattern outcome.log) left := by
  have judged : acceptsLog pattern skip outcome = Pattern.accepts pattern outcome.log := by
    rw [acceptsLog, if_neg (by simpa using fails)]
  rw [isInteresting, judgeNoImage, bind_of_ok rendered,
    bind_of_ok (show Action.files left = .ok left.files left from rfl), noImage]
  dsimp only
  rw [judged]

/-- A candidate that the validator refuses is judged by the validator's output. -/
theorem isInteresting_validatorError {pattern : Pattern.Node} {outcome : ValidationOutcome}
    (validated : dispatcher.validate candidate.path world = .ok outcome left) (fails : outcome.failed = true) :
    (Judge.validatorError pattern).isInteresting dispatcher candidate world =
      Action.ofExcept (pattern.fullMatch outcome.output) left := by
  rw [isInteresting, judgeValidator, bind_of_ok validated, if_pos fails]

/-- A judge looks for an error string as its pattern does: in the log of a candidate without an image, and in what the
validator says of a candidate that it refuses. -/
theorem errorString_judged {e : String} {node : Pattern.Node} (valid : Pattern.read Pattern.errorModes e.toList = .ok node)
    (regular : node.isRegular = true) :
    ∃ first others pattern, Pattern.alternatives Pattern.errorModes e.toList = .ok (first, others) ∧
      node = .ofAlternatives .exact first others ∧ Pattern.ofErrorString (some e) = .ok pattern ∧
      (∀ t, ∃ answer, Pattern.accepts pattern t = .ok answer ∧ (answer = true ↔ Pattern.Contains first others t)) ∧
      (∀ (dispatcher : Dispatcher σ) (candidate : Candidate) (world left : World σ) (skip : Bool) (outcome : RenderOutcome),
        dispatcher.render candidate.path candidate.image skip world = .ok outcome left →
        outcome.producedImage? left.files = none →
        ¬(skip = true ∧ (outcome.status = .success ∨ outcome.status = .skipped)) →
        ∃ answer, (Judge.noImage pattern skip).isInteresting dispatcher candidate world = .ok answer left ∧
          (answer = true ↔ Pattern.Contains first others outcome.log)) ∧
      ∀ (dispatcher : Dispatcher σ) (candidate : Candidate) (world left : World σ) (outcome : ValidationOutcome),
        dispatcher.validate candidate.path world = .ok outcome left → outcome.failed = true →
        ∀ node ∈ pattern, ∃ answer, (Judge.validatorError node).isInteresting dispatcher candidate world = .ok answer left ∧
          (answer = true ↔ Pattern.Contains first others outcome.output) := by
  obtain ⟨first, others, pattern, found, same, made, meaning⟩ := Pattern.accepts_ofErrorString valid regular
  refine ⟨first, others, pattern, found, same, made, meaning, ?_, ?_⟩
  · intro dispatcher candidate world left skip outcome rendered noImage fails
    obtain ⟨answer, run, contains⟩ := meaning outcome.log
    refine ⟨answer, ?_, contains⟩
    rw [isInteresting_noImage rendered noImage fails, run]
    rfl
  · rintro dispatcher candidate world left outcome validated fails node rfl
    obtain ⟨answer, run, contains⟩ := meaning outcome.output
    refine ⟨answer, ?_, contains⟩
    rw [isInteresting_validatorError validated fails]
    exact congrArg (Action.ofExcept · left) run

/-- With a bar in it, an error string is looked for at the ends of a text alone. -/
theorem errorString_judged_bar :
    Pattern.read Pattern.errorModes "a|b".toList = .ok (.one (.set .exact false [.one 97, .one 98])) ∧
      ∃ pattern, Pattern.ofErrorString (some "a|b") = .ok pattern ∧ Pattern.accepts pattern "xa".toList = .ok true ∧
        Pattern.accepts pattern "xbx".toList = .ok false := by
  have valid : Pattern.read Pattern.errorModes "a|b".toList = .ok (.one (.set .exact false [.one 97, .one 98])) := by
    decide +kernel
  have split : Pattern.alternatives Pattern.errorModes "a|b".toList =
      .ok ([.one (.one .exact false 97)], [[.one (.one .exact false 98)]]) := by decide +kernel
  refine ⟨valid, ?_⟩
  obtain ⟨first, others, pattern, found, -, made, meaning, -⟩ := errorString_judged (σ := Unit) valid rfl
  cases split.symm.trans found
  refine ⟨pattern, made, ?_, ?_⟩
  · obtain ⟨answer, run, contains⟩ := meaning "xa".toList
    rw [run, contains.mpr (.inl ⟨['a'], ⟨['x'], rfl⟩, 'a', by decide, rfl⟩)]
  · obtain ⟨answer, run, contains⟩ := meaning "xbx".toList
    rw [run]
    refine congrArg Except.ok (Bool.eq_false_iff.mpr fun positive => ?_)
    rcases contains.mp positive with ⟨_, ⟨front, whole⟩, c, passes, rfl⟩ | ⟨_, member, -⟩ | ⟨_, ⟨rest, whole⟩, c, passes, rfl⟩
    · obtain rfl : 'x' = c := by simpa using congrArg List.getLast? whole.symm
      exact absurd passes (by decide)
    · cases member
    · obtain rfl : 'x' = c := by simpa using congrArg List.head? whole.symm
      exact absurd passes (by decide)

end Judge

end ShaderShrink
