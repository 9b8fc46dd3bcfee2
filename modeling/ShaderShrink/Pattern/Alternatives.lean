import ShaderShrink.Pattern.Basic

/-!
# Alternatives

Alternatives are put together in the plainest way: what all of them begin with stands in front, and if
all that is left are characters and sets of characters, they become one set.
-/

namespace ShaderShrink.Pattern

namespace Node

/-- Whether two patterns that are written the same way are the same. -/
def isPlain : Node → Bool
  | one _ | anchor _ | again .. => true
  | _ => false

/-- What some sequences begin with, the first of them being given apart, and what is left of them. -/
def splitFront : (first : List Node) → (others : List (List Node)) →
    List Node × List Node × List (List Node)
  | [], others => ([], [], others)
  | node :: first, others =>
    if node.isPlain && others.all fun other => other.head? == some node then
      let (front, first, others) := splitFront first (others.map List.tail)
      (node :: front, first, others)
    else ([], node :: first, others)

/-- The items of a sequence that tests a single character, if it says which characters pass. -/
def items? : List Node → Option (List SetItem)
  | [.one (.one _ false code)] => some [.one code]
  | [.one (.set _ false items)] => some items
  | _ => none

/-- Alternatives in their order; the last one is kept apart from alternatives of its own. -/
def eitherOf (first : List Node) : (others : List (List Node)) → Node
  | [] => if (ofParts first).isEither then .enclosed false (ofParts first) else ofParts first
  | other :: others => .either (ofParts first) (eitherOf other others)

/-- The pattern of some alternatives, the first of them being given apart. -/
def ofAlternatives (rule : CaseRule) (first : List Node) (others : List (List Node)) : Node :=
  if others.isEmpty then ofParts first
  else
    let (front, first, others) := splitFront first others
    match (first :: others).mapM items? with
    | some items => ofParts (front ++ [.one (.ofItems rule false items.flatten.eraseDups)])
    | none => ofParts (front ++ [eitherOf first others])

/-- The patterns that stand in a sequence once parentheses that change nothing are left out. -/
def unwrapped (nodes : List Node) : List Node :=
  nodes.flatMap fun node =>
    match node with
    | .enclosed false body => body.parts
    | node => [node]

end Node

end ShaderShrink.Pattern
