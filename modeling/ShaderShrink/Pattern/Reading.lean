import ShaderShrink.Fault
import ShaderShrink.Pattern.Alternatives
import ShaderShrink.Pattern.Problem
import ShaderShrink.Text.CharacterName
import ShaderShrink.Text.Name

/-!
# Reading patterns

A pattern is read from left to right by characters, where a backslash and the character behind it
count as one.  Groups are numbered by their opening parentheses, and a pattern may refer only to groups
that have been closed.
-/

namespace ShaderShrink.Pattern

/-- A character, or a backslash with the character behind it, and where it stands. -/
structure Token where
  text : Text
  position : Nat
  deriving DecidableEq, Repr

/-- The tokens of a text that starts at a position. -/
def tokensFrom : Nat → Text → List Token
  | _, [] => []
  | position, '\\' :: c :: rest => ⟨['\\', c], position⟩ :: tokensFrom (position + 2) rest
  | position, c :: rest => ⟨[c], position⟩ :: tokensFrom (position + 1) rest

/-- Why a text was refused. -/
inductive Refusal where
  | problem (problem : Problem) (position : Option Nat)
  /-- Some number in the text cannot be used. -/
  | fault (fault : Fault)
  deriving DecidableEq, Repr

/-- How a part of a pattern is read. -/
structure Modes where
  caseless : Bool
  asciiOnly : Bool
  multiline : Bool
  dotAll : Bool
  verbose : Bool
  deriving DecidableEq, Repr

namespace Modes

/-- When characters count as the same. -/
def caseRule (modes : Modes) : CaseRule :=
  if !modes.caseless then .exact else if modes.asciiOnly then .ascii else .anyLetter

/-- The modes with a flag turned on or off. -/
def withFlag (on : Bool) (modes : Modes) : Char → Modes
  | 'i' => { modes with caseless := on }
  | 'm' => { modes with multiline := on }
  | 's' => { modes with dotAll := on }
  | 'x' => { modes with verbose := on }
  | 'a' => { modes with asciiOnly := true }
  | 'u' => { modes with asciiOnly := false }
  | _ => modes

/-- The modes with some flags turned on and then others off. -/
def withFlags (modes : Modes) (on off : List Char) : Modes :=
  off.foldl (withFlag false) (on.foldl (withFlag true) modes)

end Modes

/-- What is left of a text, and what is known of its groups. -/
structure Cursor where
  tokens : List Token
  size : Nat
  /-- The width of each group that has been closed. -/
  groups : List (Option Width)
  names : List (Text × Nat)
  /-- The number of groups in front of the look back that is being read. -/
  lookBehind : Option Nat
  /-- Where the groups of choices were first named. -/
  references : List (Nat × Nat)
  /-- How deep what is read is nested: a choice counts once, and every other group twice. -/
  depth : Nat

/-- Reads a part of a pattern. -/
abbrev Reading := StateT Cursor (Except Refusal)

/-- The text of the next token. -/
def peek : Reading (Option Text) := return (← get).tokens.head?.map (·.text)

/-- Where the next token stands. -/
def tell : Reading Nat := return (((← get).tokens.head?).map (·.position)).getD (← get).size

/-- Goes on to the token behind. -/
def advance : Reading Unit := modify fun cursor => { cursor with tokens := cursor.tokens.tail }

/-- The next token, which is left behind. -/
def take : Reading (Option Text) := do
  let token ← peek
  advance
  return token

/-- Leaves the next token behind, if it is the given character. -/
def skip (c : Char) : Reading Bool := do
  if (← peek) == some [c] then
    advance
    return true
  else return false

/-- Refuses the text for a problem that lies `offset` characters back. -/
def refuse {α : Type} (problem : Problem) (offset : Nat) : Reading α := do
  throw (.problem problem (some ((← tell) - offset)))

/-- Refuses the text for a problem at a position. -/
def refuseAt {α : Type} (problem : Problem) (position : Nat) : Reading α :=
  throw (.problem problem (some position))

/-- The tokens at the front that are single characters with a property, up to `count` of them. -/
def takeWhile (accepts : Char → Bool) : (count : Nat) → Reading Text
  | 0 => pure []
  | count + 1 => do
    match ← peek with
    | some [c] =>
      if accepts c then
        advance
        return c :: (← takeWhile accepts count)
      else return []
    | _ => return []

/-- Reads up to a closing character; `what` names what is read. -/
def takeUntil (closing : Char) (what : String) : (fuel : Nat) → Text → Reading Text
  | 0, _ => refuse (.missingName what) 0
  | fuel + 1, done => do
    match ← take with
    | none =>
      if done.isEmpty then refuse (.missingName what) 0
      else refuse (.unterminatedName closing) done.length
    | some token =>
      if token == [closing] then
        if done.isEmpty then refuse (.missingName what) 1 else return done
      else takeUntil closing what fuel (done ++ token)

/-- Reads a name up to a closing character. -/
def takeName (closing : Char) (what : String) : Reading Text := do
  takeUntil closing what ((← get).tokens.length + 1) []

/-! ### Groups -/

/-- Checks a name that was just read. -/
def checkGroupName (name : Text) : Reading Unit := do
  if !Text.isName name then refuse (.badGroupName name) (name.length + 1)

/-- The width of a group that has been closed. -/
def closedWidth? (group : Nat) : Reading (Option Width) :=
  return ((← get).groups[group]?).join

/-- Checks that a look back does not refer to a group of its own. -/
def checkLookBehind (group : Nat) : Reading Unit := do
  match (← get).lookBehind with
  | none => pure ()
  | some first =>
    if (← closedWidth? group).isNone then refuse .openGroup 0
    if first ≤ group then refuse .sameLookBehind 0

/-- Numbers a group that opens. -/
def openGroup (name : Option Text) : Reading Nat := do
  let number := (← get).groups.length
  modify fun cursor => { cursor with groups := cursor.groups ++ [none] }
  match name with
  | none => pure ()
  | some name =>
    match (← get).names.find? fun entry => entry.1 = name with
    | some (_, earlier) => refuse (.redefinedGroup name number earlier) (name.length + 1)
    | none => modify fun cursor => { cursor with names := (name, number) :: cursor.names }
  return number

/-- Records that a group has been closed. -/
def closeGroup (number : Nat) (width : Width) : Reading Unit :=
  modify fun cursor => { cursor with groups := cursor.groups.set number (some width) }

/-! ### Single characters -/

/-- Whether a character is an octal digit. -/
def isOctal (c : Char) : Bool := '0' ≤ c && c ≤ '7'

/-- The code point of a control character with a letter of its own. -/
def controlCode? : Char → Option Nat
  | 'a' => some 7
  | 'b' => some 8
  | 'f' => some 12
  | 'n' => some 10
  | 'r' => some 13
  | 't' => some 9
  | 'v' => some 11
  | '\\' => some 92
  | _ => none

/-- The class of characters of a letter, and whether it is negated. -/
def category? : Char → Option (Category × Bool)
  | 'd' => some (.digit, false)
  | 'D' => some (.digit, true)
  | 's' => some (.space, false)
  | 'S' => some (.space, true)
  | 'w' => some (.word, false)
  | 'W' => some (.word, true)
  | _ => none

/-- Reads the `count` hexadecimal digits of an escape. -/
def hexEscape (c : Char) (count : Nat) : Reading Nat := do
  let digits ← takeWhile (fun c => (Text.hexValue? c).isSome) count
  let escape := '\\' :: c :: digits
  if digits.length != count then refuse (.incompleteEscape escape) escape.length
  let code := Text.numberIn 16 digits
  if 0x10FFFF < code then refuse (.badEscape escape) escape.length
  return code

/-- The code point of octal digits. -/
def octalCode (digits : Text) : Reading Nat := do
  let escape := '\\' :: digits
  let code := Text.numberIn 8 digits
  if 255 < code then refuse (.octalRange escape) escape.length
  return code

/-- Reads an escape with a character's name. -/
def namedEscape : Reading Nat := do
  if !(← skip '\x7b') then refuse .missingBrace 0
  let name ← takeName '\x7d' "character name"
  match Text.codeOfName? name with
  | some code => return code
  | none => refuse (.unknownCharacter name) (name.length + 4)

/-- Reads the escapes that mean the same inside and outside of sets. -/
def commonEscape (c : Char) : Reading Nat := do
  match c with
  | 'x' => hexEscape 'x' 2
  | 'u' => hexEscape 'u' 4
  | 'U' => hexEscape 'U' 8
  | 'N' => namedEscape
  | c =>
    if Text.isAsciiLetter c || Text.isAsciiDigit c then refuse (.badEscape ['\\', c]) 2
    else return c.toNat

/-- Reads an escape inside of a set. -/
def setEscape (modes : Modes) (c : Char) : Reading SetItem := do
  match controlCode? c, category? c with
  | some code, _ => return .one code
  | none, some (category, negated) => return .category category modes.asciiOnly negated
  | none, none =>
    if isOctal c then
      let digits ← takeWhile isOctal 2
      return .one (← octalCode (c :: digits))
    else return .one (← commonEscape c)

/-- The test for a code point. -/
def literal (modes : Modes) (code : Nat) : Node :=
  .one (.ofCode modes.caseRule false code)

/-- Reads a reference to the group with a number, which the escape has in decimal digits. -/
def groupEscape (modes : Modes) (digits : Text) : Reading Node := do
  let number := Text.numberIn 10 digits
  if (← get).groups.length ≤ number then refuse (.invalidGroup number) digits.length
  match ← closedWidth? number with
  | none => refuse .openGroup (digits.length + 1)
  | some width =>
    checkLookBehind number
    return .again number modes.caseRule width

/-- Reads an escape that begins with a digit other than zero. -/
def numberEscape (modes : Modes) (first : Char) : Reading Node := do
  match ← takeWhile Text.isAsciiDigit 1 with
  | [] => groupEscape modes [first]
  | second :: _ =>
    if isOctal first && isOctal second then
      match ← takeWhile isOctal 1 with
      | [] => groupEscape modes [first, second]
      | third :: _ => return literal modes (← octalCode [first, second, third])
    else groupEscape modes [first, second]

/-- The place that an escape tests. -/
def anchorEscape? (modes : Modes) : Char → Option Anchor
  | 'A' => some .start
  | 'Z' => some .textEnd
  | 'b' => some (.boundary modes.asciiOnly false)
  | 'B' => some (.boundary modes.asciiOnly true)
  | _ => none

/-- Reads an escape outside of sets. -/
def escape (modes : Modes) (c : Char) : Reading Node := do
  match anchorEscape? modes c, category? c, controlCode? c with
  | some anchor, _, _ => return .anchor anchor
  | none, some (category, negated), _ =>
    return .one (.ofItems modes.caseRule false [.category category modes.asciiOnly negated])
  | none, none, some code => return literal modes code
  | none, none, none =>
    if c == '0' then
      let digits ← takeWhile isOctal 2
      return literal modes (Text.numberIn 8 digits)
    else if Text.isAsciiDigit c then numberEscape modes c
    else return literal modes (← commonEscape c)

/-! ### Sets -/

/-- Reads what a token inside of a set stands for. -/
def setToken (modes : Modes) (token : Text) : Reading SetItem := do
  match token with
  | '\\' :: c :: _ => setEscape modes c
  | ['\\'] => refuse .endingEscape 1
  | c :: _ => return .one c.toNat
  | [] => return .one 0

/-- The code point of an item that is one character. -/
def codeOf? : SetItem → Option Nat
  | .one code => some code
  | _ => none

/-- Reads the items of a set up to its end; `start` is where the set began. -/
def setItems (modes : Modes) (start : Nat) : (fuel : Nat) → List SetItem → Reading (List SetItem)
  | 0, items => pure items
  | fuel + 1, items => do
    match ← take with
    | none => refuseAt .unterminatedSet start
    | some first =>
      if first == [']'] && !items.isEmpty then return items
      else
        let item ← setToken modes first
        if ← skip '-' then
          match ← take with
          | none => refuseAt .unterminatedSet start
          | some last =>
            if last == [']'] then return items ++ [item, .one '-'.toNat]
            else
              let other ← setToken modes last
              match codeOf? item, codeOf? other with
              | some low, some high =>
                if high < low then refuse (.badRange first last) (first.length + 1 + last.length)
                setItems modes start fuel (items ++ [.range low high])
              | _, _ => refuse (.badRange first last) (first.length + 1 + last.length)
        else setItems modes start fuel (items ++ [item])

/-- Reads a set whose bracket was just read.  A set of one character is that character. -/
def set (modes : Modes) (start : Nat) : Reading Node := do
  let negated ← skip '^'
  let items ← setItems modes start ((← get).tokens.length + 1) []
  match items.eraseDups with
  | [.one code] => return .one (.ofCode modes.caseRule negated code)
  | items => return .one (.ofItems modes.caseRule negated items)

/-! ### Repetitions -/

/-- The number of a repetition. -/
def repeatNumber (digits : Text) : Reading Nat := do
  match Text.boundedNumeral digits with
  | .error fault => throw (.fault fault)
  | .ok number => if Node.repeatLimit ≤ number then throw (.fault .tooLarge) else return number

/-- The digits of a repetition in braces. -/
structure Braces where
  least : Text
  most : Text

/-- Reads a repetition in braces, of which the first was just read.  If it is none, nothing is read. -/
def braces? : Reading (Option Braces) := do
  let cursor ← get
  let size := cursor.tokens.length
  let least ← takeWhile Text.isAsciiDigit size
  let most ← if ← skip ',' then takeWhile Text.isAsciiDigit size else pure least
  if ← skip '\x7d' then return some ⟨least, most⟩
  else
    StateT.set cursor
    return none

/-- The least and the greatest number of turns that braces ask for; `start` is where the digits begin. -/
def bracesBounds (start : Nat) (braces : Braces) : Reading (Nat × Option Nat) := do
  let least ← if braces.least.isEmpty then pure 0 else repeatNumber braces.least
  if braces.most.isEmpty then return (least, none)
  else
    let most ← repeatNumber braces.most
    if most < least then refuseAt .leastAboveMost start
    return (least, some most)

/-- Reads how a repetition goes on. -/
def eagerness : Reading Eagerness := do
  match ← peek with
  | some ['?'] =>
    advance
    return .lazy
  | some ['+'] =>
    advance
    return .possessive
  | _ => return .greedy

/-- What is repeated of an item: parentheses that change nothing are left out. -/
def repeated : Node → Node
  | .enclosed false body => body
  | node => node

/-- Repeats the last item, where `start` is where the repetition is asked for. -/
def repeatLast (start least : Nat) (most : Option Nat) : List Node → Reading (List Node)
  | [] => refuseAt .nothingToRepeat start
  | .anchor _ :: _ => refuseAt .nothingToRepeat start
  | .loop .. :: _ => refuseAt .multipleRepeat start
  | item :: items => return .loop (← eagerness) least most (repeated item) :: items

/-! ### Flags -/

/-- The letters of all flags. -/
def flagLetters : List Char := ['i', 'L', 'm', 's', 'x', 'a', 't', 'u']

/-- The flags that say which characters there are. -/
def typeFlags : List Char := ['a', 'L', 'u']

/-- The flag of a token. -/
def flag? : Text → Option Char
  | [c] => if flagLetters.contains c then some c else none
  | _ => none

/-- The problem of a token where a flag or an end should be. -/
def flagProblem (token : Text) (missing : FlagProblem) : FlagProblem :=
  match token with
  | [c] => if Text.isLetter c then .unknown else missing
  | _ => missing

/-- Reads flags to turn on, of which the first was just read, and the character that ends them. -/
def flagsOn : (fuel : Nat) → Char → List Char → Reading (List Char × Char)
  | 0, _, _ => refuse (.flags .noneAndNoEnd) 0
  | fuel + 1, flag, on => do
    if flag == 'L' then refuse (.flags .localeFlag) 0
    let on := on ++ [flag]
    if on.contains 'a' && on.contains 'u' then refuse (.flags .incompatible) 0
    match ← take with
    | none => refuse (.flags .noneAndNoEnd) 0
    | some token =>
      if token == [')'] || token == ['-'] || token == [':'] then return (on, token.headD ':')
      else
        match flag? token with
        | some next => flagsOn fuel next on
        | none => refuse (.flags (flagProblem token .noneAndNoEnd)) token.length

/-- Reads flags to turn off, of which the first was just read. -/
def flagsOff : (fuel : Nat) → Char → List Char → Reading (List Char)
  | 0, _, _ => refuse (.flags .noColon) 0
  | fuel + 1, flag, off => do
    if typeFlags.contains flag then refuse (.flags .typeOff) 0
    let off := off ++ [flag]
    match ← take with
    | none => refuse (.flags .noColon) 0
    | some token =>
      if token == [':'] then return off
      else
        match flag? token with
        | some next => flagsOff fuel next off
        | none => refuse (.flags (flagProblem token .noColon)) token.length

/-- Reads the flags of a group, of which the first character was just read.  Flags for the whole
pattern have no modes. -/
def groupModes? (modes : Modes) (first : Char) : Reading (Option Modes) := do
  let fuel := (← get).tokens.length + 1
  let (on, closing) ← if first == '-' then pure ([], '-') else flagsOn fuel first []
  if closing == ')' then return none
  if on.contains 't' then refuse (.flags .globalOn) 1
  let off ←
    if closing == '-' then do
      match ← take with
      | none => refuse (.flags .none) 0
      | some token =>
        match flag? token with
        | some next => flagsOff fuel next []
        | none => refuse (.flags (flagProblem token .none)) token.length
    else pure []
  if off.contains 't' then refuse (.flags .globalOff) 1
  if on.any fun flag => off.contains flag then refuse (.flags .onAndOff) 1
  return some (modes.withFlags on off)

/-! ### Whole patterns -/

/-- What begins with a parenthesis. -/
inductive GroupKind where
  | comment
  | named (node : Node)
  | look (behind negated : Bool)
  | choice (group : Nat)
  | atomic
  | capture (name : Option Text)
  | plain (changed : Bool) (modes : Modes)

/-- The greatest number of groups. -/
def groupLimit : Nat := 1073741823

/-- The group with a number that was just read. -/
def numberedGroup (name : Text) : Reading Nat := do
  match Text.integer? name with
  | none => refuse (.badGroupName name) (name.length + 1)
  | some number =>
    if number < 0 then refuse (.badGroupName name) (name.length + 1)
    if number = 0 then refuse .badGroupNumber (name.length + 1)
    let number := number.toNat
    if groupLimit ≤ number then refuse (.invalidGroup number) (name.length + 1)
    let position := (← tell) - name.length - 1
    if !(← get).references.any fun entry => entry.1 = number then
      modify fun cursor => { cursor with references := cursor.references ++ [(number, position)] }
    return number

/-- The group with a name that was just read. -/
def namedGroup (name : Text) : Reading Nat := do
  checkGroupName name
  match (← get).names.find? fun entry => entry.1 = name with
  | none => refuse (.unknownGroupName name) (name.length + 1)
  | some (_, number) => return number

/-- Reads a comment up to its end; `start` is where it began. -/
def skipComment (start : Nat) : (fuel : Nat) → Reading Unit
  | 0 => refuseAt .unterminatedComment start
  | fuel + 1 => do
    match ← take with
    | none => refuseAt .unterminatedComment start
    | some token => if token == [')'] then pure () else skipComment start fuel

/-- Reads a group with a name or a reference to one. -/
def nameExtension (modes : Modes) : Reading GroupKind := do
  match ← take with
  | none => refuse .unexpectedEnd 0
  | some ['<'] =>
    let name ← takeName '>' "group name"
    checkGroupName name
    return .capture (some name)
  | some ['='] =>
    let name ← takeName ')' "group name"
    let number ← namedGroup name
    match ← closedWidth? number with
    | none => refuse .openGroup (name.length + 1)
    | some width =>
      checkLookBehind number
      return .named (.again number modes.caseRule width)
  | some token => refuse (.unknownExtension ('P' :: token)) (token.length + 2)

/-- Reads what kind of group begins, behind its question mark; `start` is where it began. -/
def extension (modes : Modes) (start : Nat) : Reading GroupKind := do
  match ← take with
  | none => refuse .unexpectedEnd 0
  | some ['P'] => nameExtension modes
  | some [':'] => return .plain false modes
  | some ['#'] =>
    skipComment start ((← get).tokens.length + 1)
    return .comment
  | some ['='] => return .look false false
  | some ['!'] => return .look false true
  | some ['<'] =>
    match ← take with
    | none => refuse .unexpectedEnd 0
    | some ['='] => return .look true false
    | some ['!'] => return .look true true
    | some token => refuse (.unknownExtension ('<' :: token)) (token.length + 2)
  | some ['('] =>
    let name ← takeName ')' "group name"
    let number ← if Text.isName name then namedGroup name else numberedGroup name
    checkLookBehind number
    return .choice number
  | some ['>'] => return .atomic
  | some token =>
    match flag? token with
    | some flag => flagGroup modes start flag
    | none =>
      if token == ['-'] then flagGroup modes start '-'
      else refuse (.unknownExtension token) (token.length + 1)
where
  flagGroup (modes : Modes) (start : Nat) (first : Char) : Reading GroupKind := do
    match ← groupModes? modes first with
    | some modes => return .plain true modes
    | none => refuseAt .lateGlobalFlags start

/-- The greatest depth. -/
def depthLimit : Nat := 976

/-- Reads something that is nested. -/
def nested {α : Type} (weight : Nat) (reading : Reading α) : Reading α := do
  let depth := (← get).depth
  if depthLimit < depth + weight then throw (.fault .tooDeep)
  modify fun cursor => { cursor with depth := depth + weight }
  let result ← reading
  modify fun cursor => { cursor with depth := depth }
  return result

/-- Checks that the group that began at `start` ends here. -/
def closeParenthesis (start : Nat) : Reading Unit := do
  if !(← skip ')') then refuseAt .unterminatedGroup start

/-- The items in order, the last one being the first of the list. -/
def sequence (items : List Node) : List Node := Node.unwrapped items.reverse

/-- Whether a token is white space that a verbose pattern leaves out. -/
def isVerboseSpace (token : Text) : Bool :=
  match token with
  | [c] => c == ' ' || (9 ≤ c.toNat && c.toNat ≤ 13)
  | _ => false

/-- Leaves out the rest of a line. -/
def skipLine : (fuel : Nat) → Reading Unit
  | 0 => pure ()
  | fuel + 1 => do
    match ← take with
    | none => pure ()
    | some token => if token == ['\n'] then pure () else skipLine fuel

/-- The item of a token that is no parenthesis, no repetition and no bar. -/
def simpleItem (modes : Modes) (start : Nat) (token : Text) : Reading Node := do
  match token with
  | ['\\'] => refuseAt .endingEscape start
  | '\\' :: c :: _ => escape modes c
  | ['['] => set modes start
  | ['.'] =>
    return .one (.any modes.dotAll)
  | ['^'] => return .anchor (if modes.multiline then .lineStart else .start)
  | ['$'] => return .anchor (if modes.multiline then .lineFinish else .finish)
  | token => return literal modes (token.headD '\x00').toNat

mutual

/-- Reads a pattern up to a closing parenthesis or the end; `fuel` bounds what can be read. -/
def branches (modes : Modes) : (fuel : Nat) → Reading Node
  | 0 => refuse .unexpectedEnd 0
  | fuel + 1 => do
    let first ← items modes fuel []
    return .ofAlternatives modes.caseRule first (← otherBranches modes fuel)

/-- Reads the alternatives behind the first one. -/
def otherBranches (modes : Modes) : (fuel : Nat) → Reading (List (List Node))
  | 0 => refuse .unexpectedEnd 0
  | fuel + 1 => do
    if ← skip '|' then
      let next ← items modes fuel []
      return next :: (← otherBranches modes fuel)
    else return []

/-- Reads items up to the end of an alternative; those before are given, the last one first. -/
def items (modes : Modes) : (fuel : Nat) → List Node → Reading (List Node)
  | 0, _ => refuse .unexpectedEnd 0
  | fuel + 1, done => do
    let start ← tell
    match ← peek with
    | none => return sequence done
    | some token =>
      if token == ['|'] || token == [')'] then return sequence done
      else
        advance
        if modes.verbose && isVerboseSpace token then items modes fuel done
        else if modes.verbose && token == ['#'] then
          skipLine ((← get).tokens.length + 1)
          items modes fuel done
        else
          match token with
          | ['*'] => items modes fuel (← repeatLast start 0 none done)
          | ['+'] => items modes fuel (← repeatLast start 1 none done)
          | ['?'] => items modes fuel (← repeatLast start 0 (some 1) done)
          | ['\x7b'] =>
            if (← peek) == some ['\x7d'] then items modes fuel (literal modes 123 :: done)
            else
              match ← braces? with
              | none => items modes fuel (literal modes 123 :: done)
              | some braces =>
                let (least, most) ← bracesBounds (start + 1) braces
                items modes fuel (← repeatLast start least most done)
          | ['('] =>
            match ← group modes start fuel with
            | some node => items modes fuel (node :: done)
            | none => items modes fuel done
          | token => items modes fuel ((← simpleItem modes start token) :: done)

/-- Reads a group whose parenthesis, at `start`, was just read; a comment is no group. -/
def group (modes : Modes) (start : Nat) : (fuel : Nat) → Reading (Option Node)
  | 0 => refuse .unexpectedEnd 0
  | fuel + 1 => do
    let kind ← if ← skip '?' then extension modes start else pure (.capture none)
    match kind with
    | .comment => return none
    | .named node => return some node
    | .look behind negated =>
      let outer := (← get).lookBehind
      if behind && outer.isNone then
        modify fun cursor => { cursor with lookBehind := some cursor.groups.length }
      let body ← nested 2 (branches modes fuel)
      if behind && outer.isNone then modify fun cursor => { cursor with lookBehind := none }
      closeParenthesis start
      return some (if behind then .behind negated body else .ahead negated body)
    | .choice number =>
      let yes ← nested 1 (items modes fuel [])
      let no ←
        if ← skip '|' then do
          let no ← nested 1 (items modes fuel [])
          if (← peek) == some ['|'] then refuse .moreThanTwoBranches 0
          pure no
        else pure []
      closeParenthesis start
      return some (.choice number (.ofParts yes) (.ofParts no))
    | .atomic =>
      let body ← nested 2 (branches modes fuel)
      closeParenthesis start
      return some (.atomic body)
    | .plain changed modes =>
      let body ← nested 2 (branches modes fuel)
      closeParenthesis start
      return some (.enclosed changed body)
    | .capture name =>
      let number ← openGroup name
      let body ← nested 2 (branches modes fuel)
      closeParenthesis start
      closeGroup number body.width
      return some (.capture number body)

end

/-- Reads a whole pattern. -/
def whole (modes : Modes) : Reading Node := do
  let node ← branches modes (5 * (← get).tokens.length + 5)
  if (← peek).isSome then refuse .unopenedGroup 0
  let cursor ← get
  match cursor.references.find? fun entry => cursor.groups.length ≤ entry.1 with
  | some (number, position) => refuseAt (.invalidGroup number) position
  | none =>
    if !node.looksBackFixed then throw (.problem .lookBehindWidth none)
    else if !node.looksBackNear then throw (.fault (.runtime "invalid SRE code"))
    else return node

/-- The pattern that a text stands for. -/
def read (modes : Modes) (t : Text) : Except Refusal Node :=
  (whole modes ⟨tokensFrom 0 t, t.length, [none], [], none, [], 0⟩).map (·.1)

end ShaderShrink.Pattern
