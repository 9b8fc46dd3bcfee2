import ShaderShrink.Text.CaseFold
import ShaderShrink.Text.Word

/-!
# Tests of single characters

A pattern tests characters one by one: for being a certain character, for being any, or for being in a set.
A test may leave the case of letters aside.  Then the character is put into lower case first, and it passes
if some letter that the test names counts as the same.

A set leaves case aside by the code points with at most four digits in base sixteen.  Of the letters beyond
them, a single one of a set counts as it is written, and a range has a letter if it has its lower or its
upper case form.
-/

namespace ShaderShrink.Pattern

/-- When two characters count as the same. -/
inductive CaseRule where
  | exact
  /-- ASCII letters of both cases are the same. -/
  | ascii
  /-- All letters of both cases are the same. -/
  | anyLetter
  deriving DecidableEq, Repr

namespace CaseRule

/-- The code point that stands for all that count as the same only in case. -/
def fold (rule : CaseRule) (code : Nat) : Nat :=
  match rule with
  | exact => code
  | ascii => if 65 ≤ code && code ≤ 90 then code + 32 else code
  | anyLetter => Text.lowerCode code

/-- The code points that count as the given one. -/
def variants (rule : CaseRule) (code : Nat) : List Nat :=
  match rule with
  | exact => [code]
  | ascii =>
    if 65 ≤ code && code ≤ 90 then [code, code + 32]
    else if 97 ≤ code && code ≤ 122 then [code, code - 32]
    else [code]
  | anyLetter => Text.caseVariants code

/-- Whether a character has a form in another case. -/
def hasCase (rule : CaseRule) (code : Nat) : Bool :=
  match rule with
  | exact => false
  | ascii => (65 ≤ code && code ≤ 90) || (97 ≤ code && code ≤ 122)
  | anyLetter => Text.isCased code

end CaseRule

/-- A class of characters with a name. -/
inductive Category where
  | digit
  | space
  | word
  deriving DecidableEq, Repr

/-- Whether a character belongs to a class; the class may be cut down to ASCII. -/
def Category.has (category : Category) (asciiOnly : Bool) (c : Char) : Bool :=
  match category with
  | digit => if asciiOnly then Text.isAsciiDigit c else Text.isDigit c
  | space => if asciiOnly then c == ' ' || (9 ≤ c.toNat && c.toNat ≤ 13) else Text.isBlank c
  | word =>
    if asciiOnly then Text.isAsciiLetter c || Text.isAsciiDigit c || c == '_' else Text.isWord c

/-- A member of a set of characters, by code points. -/
inductive SetItem where
  | one (code : Nat)
  | range (first last : Nat)
  | category (category : Category) (asciiOnly negated : Bool)
  deriving DecidableEq, Repr

namespace SetItem

/-- The last code point with at most four digits in base sixteen. -/
def lastShort : Nat := 0xFFFF

/-- Whether an item has letters that make the case of its set matter. -/
def hasCase (rule : CaseRule) : SetItem → Bool
  | one code => lastShort < code || rule.hasCase code
  | range first last =>
    lastShort < last || (List.range' first (last + 1 - first)).any rule.hasCase
  | category .. => false

/-- Whether an item has a character that was put into lower case by the rule. -/
def has (rule : CaseRule) (code : Nat) : SetItem → Bool
  | one member =>
    if rule = .exact || lastShort < member then code = member
    else (rule.variants member).contains code
  | range first last =>
    if rule = .exact then first ≤ code && code ≤ last
    else
      ((rule.variants code).any fun form => first ≤ form && form ≤ Nat.min last lastShort) ||
        (lastShort < last &&
          ((first ≤ code && code ≤ last) ||
            (first ≤ Text.upperCode code && Text.upperCode code ≤ last)))
  | category kind asciiOnly negated => kind.has asciiOnly (Char.ofNat code) != negated

end SetItem

/-- A test of a single character. -/
inductive CharTest where
  /-- Every character, or every one but a line feed. -/
  | any (lineFeed : Bool)
  | one (rule : CaseRule) (negated : Bool) (code : Nat)
  | set (rule : CaseRule) (negated : Bool) (items : List SetItem)
  deriving DecidableEq, Repr

namespace CharTest

/-- The test for a character; case matters unless the character has a form in another case. -/
def ofCode (rule : CaseRule) (negated : Bool) (code : Nat) : CharTest :=
  .one (if rule.hasCase code then rule else .exact) negated code

/-- The test for a set; case matters unless the set has letters. -/
def ofItems (rule : CaseRule) (negated : Bool) (items : List SetItem) : CharTest :=
  .set (if rule != .exact && items.any (SetItem.hasCase rule) then rule else .exact) negated items

/-- Whether a character passes the test. -/
def passes (test : CharTest) (c : Char) : Bool :=
  match test with
  | any lineFeed => lineFeed || c != '\n'
  | one rule negated code => (rule.variants code).contains c.toNat != negated
  | set rule negated items => items.any (SetItem.has rule (rule.fold c.toNat)) != negated

/-- Whether the test is for one character as it is written. -/
def isLiteral : CharTest → Bool
  | one .exact false _ => true
  | _ => false

/-- Whether the test is for characters as they are written, be it one or a set of them. -/
def isPlain : CharTest → Bool
  | one .exact false _ | set .exact _ _ => true
  | _ => false

/-- Whether the test is for several letters in both cases. -/
def isFolded : CharTest → Bool
  | one .anyLetter _ code => Text.hasForms code
  | set rule _ _ => rule != .exact
  | _ => false

end CharTest

end ShaderShrink.Pattern
