import ShaderShrink.Fault
import ShaderShrink.Pattern.Basic

/-!
# Matching

A pattern is tried at a place of the text, with what follows it as a continuation; where that fails, the
pattern tries its next way.  A matcher keeps a memory, which it hands back also when it fails: where it
looked last, and where groups began and ended.

The rules of the memory are these.

- Between the ways of a pattern, the marks of groups are put back.  Outside of repetitions only marks of
  further groups are removed, and a mark that was set anew stays.
- The marks of a turn that a repetition must make stay when the turn fails, and so do those of the last
  turn of a lazy repetition.
- A possessive repetition goes on from where its last turn looked last, even if that turn failed.

A repetition does not begin a further turn at the place where its last one began.
-/

namespace ShaderShrink.Pattern

/-- What a matcher keeps in mind. -/
structure Memory where
  /-- Where the matcher looked last. -/
  place : Nat
  /-- Where groups begin and end, two marks for each group. -/
  marks : List (Option Nat)
  deriving DecidableEq, Repr

namespace Memory

/-- The memory, looking at another place. -/
def moved (memory : Memory) (place : Nat) : Memory := { memory with place := place }

/-- The memory with a mark at a place. -/
def mark (memory : Memory) (index place : Nat) : Memory :=
  let marks := memory.marks ++ List.replicate (index + 1 - memory.marks.length) none
  { memory with marks := marks.set index (some place) }

/-- The memory after a way has failed, with the marks as they were before; unless all are put back, only
those that were added are removed. -/
def restore (saved : Memory) (all : Bool) (memory : Memory) : Memory :=
  { memory with marks := if all then saved.marks else memory.marks.take saved.marks.length }

/-- Where a group begins and ends. -/
def group? (memory : Memory) (group : Nat) : Option (Nat × Nat) :=
  match memory.marks[2 * group - 2]?, memory.marks[2 * group - 1]? with
  | some (some first), some (some last) => if first ≤ last then some (first, last) else none
  | _, _ => none

end Memory

/-- The answer of a matcher, and its memory then. -/
structure Trial where
  matched : Bool
  memory : Memory
  deriving DecidableEq, Repr

namespace Trial

/-- The trial itself if it succeeded, and else another way from its memory. -/
def orElse (trial : Trial) (other : Memory → Trial) : Trial :=
  if trial.matched then trial else other trial.memory

/-- The trial, with another memory if it failed. -/
def failWith (trial : Trial) (memory : Memory → Memory) : Trial :=
  trial.orElse fun after => ⟨false, memory after⟩

/-- The trial, which looked last at a place if it failed. -/
def failAt (trial : Trial) (place : Nat) : Trial := trial.failWith (·.moved place)

end Trial

/-- A matcher of what follows at a place. -/
abbrev Matcher := (place : Nat) → Memory → Trial

/-- What follows a pattern. -/
structure Follow where
  /-- The test with which it begins, if it begins with one. -/
  head : Option CharTest
  run : Matcher

/-- Nothing follows: the matcher succeeds where it is. -/
def Follow.done : Follow := ⟨none, fun place memory => ⟨true, memory.moved place⟩⟩

/-- Whether a character at a place passes a test. -/
def CharTest.holds (test : CharTest) (t : Array Char) (place : Nat) : Bool :=
  t[place]?.any test.passes

/-- Whether the character at a place belongs to a word. -/
def inWord (asciiOnly : Bool) (c : Option Char) : Bool := c.any (Category.word.has asciiOnly)

/-- The character in front of a place. -/
def before? (t : Array Char) : (place : Nat) → Option Char
  | 0 => none
  | place + 1 => t[place]?

/-- Whether an anchor holds at a place.  A text without characters has no boundaries and no places
between them. -/
def Anchor.holds (anchor : Anchor) (t : Array Char) (place : Nat) : Bool :=
  match anchor with
  | start => place = 0
  | lineStart => place = 0 || before? t place == some '\n'
  | finish => place = t.size || (place + 1 = t.size && t[place]? == some '\n')
  | lineFinish => place = t.size || t[place]? == some '\n'
  | textEnd => place = t.size
  | boundary asciiOnly negated =>
    !t.isEmpty && (inWord asciiOnly (before? t place) != inWord asciiOnly t[place]?) != negated

/-- The test with which a pattern begins, where it is known what follows. -/
def Node.head? (node : Node) (follow : Option CharTest) : Option CharTest :=
  match node with
  | empty => follow
  | one test => some test
  | seq first second => first.head? (second.head? follow)
  | enclosed _ body => body.head? follow
  | _ => none

/-- Whether a matcher that begins with one of some tests can fail at once. -/
def rulesOut (selects : CharTest → Bool) (head : Option CharTest) (t : Array Char) (place : Nat) :
    Bool :=
  head.any fun test => selects test && !test.holds t place

/-! ### Repetitions of single characters -/

/-- The place behind the characters from a place on that pass a test, up to `limit` of them. -/
def behindPassing (test : CharTest) (t : Array Char) : (limit place : Nat) → Nat
  | 0, place => place
  | limit + 1, place =>
    if test.holds t place then behindPassing test t limit (place + 1) else place

/-- Where a matcher looked last that has counted characters from a place on. -/
def countPlace (test : CharTest) (place count : Nat) : Nat :=
  if test.isFolded then place + count else place

/-- Tries what follows behind `extra` characters from `first` on, then behind fewer. -/
def tryShorter (follow : Follow) (all : Bool) (saved : Memory) (t : Array Char) (first : Nat) :
    (extra : Nat) → Memory → Trial
  | extra, memory =>
    let place := first + extra
    let trial :=
      if rulesOut CharTest.isLiteral follow.head t place then ⟨false, memory⟩
      else (follow.run place (memory.moved place)).failWith (saved.restore all)
    match extra with
    | 0 => trial
    | extra + 1 => trial.orElse (tryShorter follow all saved t first extra)

/-- Tries what follows at a place, then behind one more character, up to `extra` of them. -/
def tryLonger (follow : Follow) (test : CharTest) (all : Bool) (saved : Memory) (t : Array Char) :
    (extra place : Nat) → Memory → Trial
  | extra, place, memory =>
    (follow.run place (memory.moved place)).orElse fun after =>
      let memory := (saved.restore all after).moved place
      if test.holds t place then
        match extra with
        | 0 => ⟨false, memory.moved (countPlace test place 1)⟩
        | extra + 1 => tryLonger follow test all saved t extra (place + 1)
            (memory.moved (countPlace test place 1))
      else ⟨false, memory⟩

/-- Repeats a test of a single character. -/
def repeatTest (eagerness : Eagerness) (least : Nat) (most : Option Nat) (test : CharTest) (all : Bool)
    (follow : Follow) (t : Array Char) : Matcher := fun place memory =>
  let left := t.size - place
  if left < least then ⟨false, memory⟩
  else
    let limit := most.elim left (Nat.min · left)
    let wanted := if eagerness = .lazy then least else limit
    let count := behindPassing test t wanted place - place
    let counted := memory.moved (countPlace test place count)
    if count < least then ⟨false, counted⟩
    else
      match eagerness with
      | .greedy => tryShorter follow all counted t (place + least) (count - least) counted
      | .lazy => tryLonger follow test all counted t (limit - least) (place + least) counted
      | .possessive => follow.run (place + count) (counted.moved (place + count))

/-! ### Repetitions of patterns -/

/-- Repeats a pattern with all its ways; `turns` have been made, and the last turn beyond the least number
began at `last`. -/
def repeatFrom (body : Follow → Matcher) (isLazy : Bool) (least : Nat) (most : Option Nat) (all : Bool)
    (follow : Matcher) : (fuel turns : Nat) → (last : Option Nat) → Matcher
  | 0, _, _, _, memory => ⟨false, memory⟩
  | fuel + 1, turns, last, place, memory =>
    let memory := memory.moved place
    let turn (last : Option Nat) : Trial :=
      body ⟨none, repeatFrom body isLazy least most all follow fuel (turns + 1) last⟩ place memory
    let mayGoOn := most.all (fun most => turns < most) && last != some place
    if turns < least then (turn last).failAt place
    else if isLazy then
      (follow place memory).orElse fun after =>
        let memory := (memory.restore all after).moved place
        if mayGoOn then
          (body ⟨none, repeatFrom body isLazy least most all follow fuel (turns + 1) (some place)⟩ place
            memory).failAt place
        else ⟨false, memory⟩
    else if mayGoOn then (turn (some place)).orElse fun _ => (follow place memory).failAt place
    else (follow place memory).failAt place

/-- Makes the turns that a possessive repetition must make. -/
def mustRepeat (body : Matcher) (first : Nat) : (turns : Nat) → Memory → Trial
  | 0, memory => ⟨true, memory⟩
  | turns + 1, memory =>
    let trial := body memory.place memory
    if trial.matched then mustRepeat body first turns trial.memory
    else ⟨false, trial.memory.moved first⟩

/-- Makes the turns that a possessive repetition may make, and gives the memory after them. -/
def mayRepeat (body : Matcher) (most : Option Nat) :
    (fuel turns : Nat) → (last : Option Nat) → Memory → Memory
  | 0, _, _, memory => memory
  | fuel + 1, turns, last, memory =>
    if most.all (fun most => turns < most) && last != some memory.place then
      let trial := body memory.place memory
      if trial.matched then mayRepeat body most fuel (turns + 1) (some memory.place) trial.memory
      else memory.restore true trial.memory
    else memory

/-- How many turns a repetition can make. -/
def turnBound (least : Nat) (t : Array Char) : Nat := least + t.size + 2

/-! ### Patterns -/

/-- Whether the character at one place counts as the one at another. -/
def sameAt (rule : CaseRule) (t : Array Char) (a b : Nat) : Bool :=
  match t[a]?, t[b]? with
  | some a, some b => rule.fold a.toNat == rule.fold b.toNat
  | _, _ => false

/-- Matches a pattern at a place and then what follows; `inLoop` tells whether the pattern is part of a
repetition. -/
def Node.run (node : Node) (t : Array Char) (inLoop : Bool) (follow : Follow) : Matcher :=
  match node with
  | empty => follow.run
  | one test => fun place memory =>
    if test.holds t place then follow.run (place + 1) memory else ⟨false, memory⟩
  | anchor test => fun place memory =>
    if test.holds t place then follow.run place memory else ⟨false, memory⟩
  | seq first second =>
    first.run t inLoop ⟨second.head? follow.head, second.run t inLoop follow⟩
  | either first second => fun place memory =>
    let attempt (node : Node) (run : Matcher) (memory : Memory) : Trial :=
      if rulesOut CharTest.isPlain (node.head? none) t place then ⟨false, memory⟩
      else (run place (memory.moved place)).failWith (memory.restore inLoop)
    let follow : Follow := ⟨none, follow.run⟩
    (attempt first (first.run t inLoop follow) memory).orElse fun memory =>
      if second.isEither then second.run t inLoop follow place memory
      else attempt second (second.run t inLoop follow) memory
  | enclosed _ body => body.run t inLoop follow
  | capture group body => fun place memory =>
    body.run t inLoop
      ⟨none, fun last memory => follow.run last (memory.mark (2 * group - 1) last)⟩ place
      (memory.mark (2 * group - 2) place)
  | loop eagerness least most body =>
    match body.single?, eagerness with
    | some test, _ => repeatTest eagerness least most test inLoop follow t
    | none, .possessive => fun place memory =>
      let body := body.run t inLoop .done
      let trial := mustRepeat body place least (memory.moved place)
      if trial.matched then
        let memory := mayRepeat body most (turnBound least t) least none trial.memory
        follow.run memory.place memory
      else trial
    | none, eagerness =>
      repeatFrom (body.run t true) (eagerness = .lazy) least most inLoop follow.run (turnBound least t)
        0 none
  | again group rule _ => fun place memory =>
    match memory.group? group with
    | some (first, last) =>
      if (List.range (last - first)).all fun i => sameAt rule t (first + i) (place + i) then
        follow.run (place + (last - first)) memory
      else ⟨false, memory⟩
    | none => ⟨false, memory⟩
  | ahead false body => fun place memory =>
    let trial := body.run t inLoop .done place (memory.moved place)
    if trial.matched then follow.run place trial.memory else trial
  | ahead true body => fun place memory =>
    let trial := body.run t inLoop .done place (memory.moved place)
    if trial.matched then ⟨false, trial.memory⟩ else follow.run place (memory.restore inLoop trial.memory)
  | behind false body => fun place memory =>
    if place < body.width.least then ⟨false, memory⟩
    else
      let back := place - body.width.least
      let trial := body.run t inLoop .done back (memory.moved back)
      if trial.matched then follow.run place trial.memory else trial
  | behind true body => fun place memory =>
    if place < body.width.least then follow.run place memory
    else
      let back := place - body.width.least
      let trial := body.run t inLoop .done back (memory.moved back)
      if trial.matched then ⟨false, trial.memory⟩ else follow.run place (memory.restore inLoop trial.memory)
  | atomic body => fun place memory =>
    let trial := body.run t inLoop .done place (memory.moved place)
    if trial.matched then follow.run trial.memory.place trial.memory else trial.failAt place
  | choice group yes no => fun place memory =>
    if (memory.group? group).isSome then
      yes.run t inLoop ⟨if no = .empty then follow.head else none, follow.run⟩ place memory
    else no.run t inLoop follow place memory

/-- Success at the end of a text. -/
def atEnd (t : Array Char) : Follow :=
  ⟨none, fun place memory => ⟨place = t.size, memory.moved place⟩⟩

/-- Tries a pattern on a whole text. -/
def Node.tryWhole (node : Node) (text : Text) : Trial :=
  let t := text.toArray
  if node.width.least ≤ t.size then node.run t false (atEnd t) 0 ⟨0, []⟩ else ⟨false, ⟨0, []⟩⟩

/-- Whether a pattern matches a whole text. -/
def Node.matchesWhole (node : Node) (text : Text) : Bool := (node.tryWhole text).matched

/-- Whether some group ends in front of its beginning. -/
def crossed : (marks : List (Option Nat)) → Bool
  | some first :: some last :: marks => last < first || crossed marks
  | _ :: _ :: marks => crossed marks
  | _ => false

/-- Whether a pattern has possessive repetitions. -/
def Node.hasPossessive : Node → Bool
  | empty | anchor _ | one _ | again .. => false
  | seq first second | either first second | choice _ first second =>
    first.hasPossessive || second.hasPossessive
  | enclosed _ body | capture _ body | atomic body | ahead _ body | behind _ body =>
    body.hasPossessive
  | loop eagerness _ _ body => eagerness = .possessive || body.hasPossessive

/-- Whether a pattern matches a whole text.  A possessive repetition may leave groups crossed, since the
marks of a way that fails in a turn of it stay; then the answer cannot be told. -/
def Node.fullMatch (node : Node) (text : Text) : Except Fault Bool :=
  if node.hasPossessive && crossed (node.tryWhole text).memory.marks && node.matchesWhole text then
    .error .crossedGroup
  else .ok (node.matchesWhole text)

end ShaderShrink.Pattern
