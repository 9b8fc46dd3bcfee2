import ShaderShrink.Pattern.Character

/-!
# Patterns

A pattern is a tree of tests of single characters, of tests of a place in the text, and of ways to put
patterns together.  A group that captures keeps the text that it matched last; a pattern may ask for
that text again, or whether there is one.
-/

namespace ShaderShrink.Pattern

/-- A test of a place in the text. -/
inductive Anchor where
  | start
  | lineStart
  /-- The end, or in front of a line feed at the end. -/
  | finish
  | lineFinish
  | textEnd
  | boundary (asciiOnly negated : Bool)
  deriving DecidableEq, Repr

/-- The least and the greatest number of characters that a pattern matches. -/
structure Width where
  least : Nat
  greatest : Nat
  deriving DecidableEq, Repr

/-- How a repetition goes on. -/
inductive Eagerness where
  | greedy
  | lazy
  | possessive
  deriving DecidableEq, Repr

/-- A pattern. -/
inductive Node where
  | empty
  | one (test : CharTest)
  | anchor (anchor : Anchor)
  | seq (first second : Node)
  | either (first second : Node)
  /-- A pattern in parentheses that capture nothing; they may change how the pattern is read. -/
  | enclosed (changed : Bool) (body : Node)
  | capture (group : Nat) (body : Node)
  | loop (eagerness : Eagerness) (least : Nat) (most : Option Nat) (body : Node)
  /-- The text that a group matched; its width is that of the group. -/
  | again (group : Nat) (rule : CaseRule) (width : Width)
  | ahead (negated : Bool) (body : Node)
  | behind (negated : Bool) (body : Node)
  | atomic (body : Node)
  /-- The first pattern if the group has matched, and else the second one. -/
  | choice (group : Nat) (yes no : Node)
  deriving DecidableEq, Repr

namespace Node

/-- The number from which on repetitions and widths are without bound. -/
def repeatLimit : Nat := 4294967295

/-- A width with both ends cut down: the least one stays below the limit, the greatest may reach it. -/
def cut (width : Width) : Width :=
  ⟨Nat.min width.least (repeatLimit - 1), Nat.min width.greatest repeatLimit⟩

/-- The width of a repetition. -/
def loopWidth (least : Nat) (most : Option Nat) (width : Width) : Width :=
  ⟨width.least * least, width.greatest * most.getD repeatLimit⟩

/-- The width of a pattern. -/
def width : Node → Width
  | empty | anchor _ | ahead .. | behind .. => ⟨0, 0⟩
  | one _ => ⟨1, 1⟩
  | seq first second =>
    cut ⟨first.width.least + second.width.least, first.width.greatest + second.width.greatest⟩
  | either first second | choice _ first second =>
    ⟨Nat.min first.width.least second.width.least, Nat.max first.width.greatest second.width.greatest⟩
  | enclosed _ body | capture _ body | atomic body => body.width
  | loop _ least most body => cut (loopWidth least most body.width)
  | again _ _ width => width

/-- Whether every look back has a fixed width. -/
def looksBackFixed : Node → Bool
  | empty | anchor _ | one _ | again .. => true
  | seq first second | either first second | choice _ first second =>
    first.looksBackFixed && second.looksBackFixed
  | enclosed _ body | capture _ body | atomic body | loop _ _ _ body | ahead _ body =>
    body.looksBackFixed
  | behind _ body => body.width.least = body.width.greatest && body.looksBackFixed

/-- The least number of characters that no look back may go back. -/
def lookBackLimit : Nat := 2147483648

/-- Whether no look back goes back too far. -/
def looksBackNear : Node → Bool
  | empty | anchor _ | one _ | again .. => true
  | seq first second | either first second | choice _ first second =>
    first.looksBackNear && second.looksBackNear
  | enclosed _ body | capture _ body | atomic body | loop _ _ _ body | ahead _ body =>
    body.looksBackNear
  | behind _ body => body.width.least < lookBackLimit && body.looksBackNear

/-- The patterns that a pattern puts one behind the other. -/
def parts : Node → List Node
  | empty => []
  | seq first second => first :: second.parts
  | node => [node]

/-- Puts patterns one behind the other. -/
def ofParts : List Node → Node
  | [] => empty
  | [node] => node
  | node :: nodes => seq node (ofParts nodes)

/-- The test of a pattern that is nothing but a test of one character. -/
def single? : Node → Option CharTest
  | one test => some test
  | enclosed _ body => body.single?
  | _ => none

/-- Whether a pattern has alternatives. -/
def isEither : Node → Bool
  | either .. => true
  | _ => false

end Node

end ShaderShrink.Pattern
