import ShaderShrink.Text.Blank

/-!
# Files of variables

A file of variables has a name on each line and, behind an equals sign, a value.  A value stands bare up
to the end of its line or to a comment, or in quotes, where it may run over several lines.  A line of
another form is skipped.  A value may refer to variables that are set before it.
-/

namespace ShaderShrink.VariableFile

/-- White space within a line. -/
def isGap (c : Char) : Bool := Text.isBlank c && c != '\n' && c != '\r'

/-- Drops white space within a line. -/
def skipGap (t : Text) : Text := t.dropWhile isGap

/-- What follows the line. -/
def nextLine (t : Text) : Text := (t.dropWhile (· != '\n')).drop 1

/-- The text up to a quote, last character first, and what follows the quote.  A quote behind a
backslash only ends the text if no other quote does. -/
def quotedRun (quote : Char) : (before : Text) → Text → Option (Text × Text)
  | _, [] => none
  | before, '\\' :: c :: rest =>
    if c == quote then
      (quotedRun quote (c :: '\\' :: before) rest).or (some ('\\' :: before, rest))
    else quotedRun quote ('\\' :: before) (c :: rest)
  | before, c :: rest => if c == quote then some (before, rest) else quotedRun quote (c :: before) rest

/-- The characters that a backslash gives a meaning in double quotes. -/
def escapes : List (Char × Char) :=
  [('\\', '\\'), ('\'', '\''), ('"', '"'), ('a', '\x07'), ('b', '\x08'), ('f', '\x0c'), ('n', '\n'),
    ('r', '\r'), ('t', '\t'), ('v', '\x0b')]

/-- A quoted text with its escapes read. -/
def unescape (meanings : List (Char × Char)) : Text → Text
  | '\\' :: c :: rest =>
    match meanings.find? fun meaning => meaning.1 = c with
    | some (_, meant) => meant :: unescape meanings rest
    | none => '\\' :: unescape meanings (c :: rest)
  | c :: rest => c :: unescape meanings rest
  | [] => []

/-- A bare value up to a comment, `previous` being the character before it. -/
def beforeComment (previous : Char) : Text → Text
  | [] => []
  | c :: rest => if c == '#' && Text.isBlank previous then [] else c :: beforeComment c rest

/-- The value at the front of a text and what follows it; nothing if a quote is not closed. -/
def value? : Text → Option (Text × Text)
  | '\'' :: rest =>
    (quotedRun '\'' [] rest).map fun (found, rest) =>
      (unescape (escapes.take 2) found.reverse, rest)
  | '"' :: rest => (quotedRun '"' [] rest).map fun (found, rest) => (unescape escapes found.reverse, rest)
  | t =>
    let line := t.takeWhile fun c => c != '\n' && c != '\r'
    some (Text.trimRight (beforeComment 'x' line), t.drop line.length)

/-- The name at the front of a text and what follows it. -/
def name? : Text → Option (Text × Text)
  | '\'' :: rest =>
    match rest.takeWhile (· != '\''), rest.dropWhile (· != '\'') with
    | c :: cs, _ :: rest => some (c :: cs, rest)
    | _, _ => none
  | t =>
    let inName := fun c => c != '=' && c != '#' && !Text.isBlank c
    if (t.takeWhile inName).isEmpty then none else some (t.takeWhile inName, t.dropWhile inName)

/-- The text behind a word that may stand in front of a name. -/
def dropExport (t : Text) : Text :=
  match Text.drop? "export".toList t with
  | some (c :: rest) => if isGap c then skipGap rest else t
  | _ => t

/-- What follows the end of the line, before which only a comment stands. -/
def lineEnd? (t : Text) : Option Text :=
  match skipGap t with
  | [] => some []
  | '#' :: rest => some (nextLine rest)
  | '\n' :: rest => some rest
  | _ => none

/-- What a line sets: a name, perhaps with a value. -/
abbrev Assignment := String × Option Text

/-- The assignment at the front of a text and what follows its line; the assignment is absent if the
line has another form. -/
def assignment (t : Text) : Option Assignment × Text :=
  let t := dropExport t
  match name? t with
  | none => (none, nextLine t)
  | some (name, rest) =>
    let name := String.ofList name
    match skipGap rest with
    | '=' :: rest =>
      match value? (skipGap rest) with
      | none => (none, nextLine rest)
      | some (value, rest) =>
        match lineEnd? rest with
        | some next => (some (name, some value), next)
        | none => (none, nextLine rest)
    | rest =>
      match lineEnd? rest with
      | some next => (some (name, none), next)
      | none => (none, nextLine rest)

/-- The assignments of a text; `fuel` bounds the number of lines. -/
def assignments : (fuel : Nat) → Text → List Assignment
  | 0, _ => []
  | fuel + 1, t =>
    match Text.trimLeft t with
    | [] => []
    | t =>
      let (found, rest) := assignment t
      found.toList ++ assignments fuel rest

/-- Variables with their values; a name alone has none. -/
abbrev Variables := List (String × Option String)

/-- The value of a variable, the last one of its name; nothing if there is none. -/
def lookup? (entries : Variables) (name : String) : Option (Option String) :=
  (entries.findRev? fun entry => entry.1 = name).map (·.2)

/-- A reference to a variable behind a dollar sign: its name, what stands for it if it is absent, and
what follows. -/
def reference? : Text → Option (Text × Text × Text)
  | '\x7b' :: rest =>
    let name := rest.takeWhile fun c => c != '\x7d' && c != ':'
    match rest.drop name.length with
    | '\x7d' :: rest => some (name, [], rest)
    | ':' :: '-' :: rest =>
      match rest.dropWhile (· != '\x7d') with
      | _ :: after => some (name, rest.takeWhile (· != '\x7d'), after)
      | [] => none
    | _ => none
  | _ => none

/-- A value with its references replaced; `fuel` bounds their number. -/
def resolve (entries : Variables) : (fuel : Nat) → Text → Text
  | 0, t => t
  | _, [] => []
  | fuel + 1, c :: rest =>
    match if c == '$' then reference? rest else none with
    | some (name, default, rest) =>
      let found :=
        match lookup? entries (String.ofList name) with
        | some value => (value.getD "").toList
        | none => default
      found ++ resolve entries fuel rest
    | none => c :: resolve entries fuel rest

/-- The variables that assignments set behind those of the environment. -/
def assign (environment : Variables) (found : List Assignment) : Variables :=
  found.foldl (fun set (name, value) =>
    let value := value.map fun value =>
      String.ofList (resolve (environment ++ set) (value.length + 1) value)
    set ++ [(name, value)]) []

/-- The variables of a file. -/
def read (environment : Variables) (t : Text) : Variables :=
  assign environment (assignments (t.length + 1) t)

end ShaderShrink.VariableFile
