import ShaderShrink.Text.Word

/-!
# Code of a line

What a line says to the shading language, as far as the reduction looks at it: the code in front of
a comment, the declaration that a line holds, the output it declares, and the outputs it writes.
All of these look at one line alone.
-/

namespace ShaderShrink.Code

open ShaderShrink.Text

/-- The part of a line in front of its comment. -/
def beforeComment : Text → Text
  | [] => []
  | '/' :: '/' :: _ => []
  | c :: rest => c :: beforeComment rest

/-- The code of a line: the part in front of the comment, without white space at its end. -/
def ofLine (line : Text) : Text := trimRight (beforeComment line)

/-- The qualifiers that may stand in front of a declared type. -/
def qualifiers : List Text := ["const".toList, "highp".toList, "mediump".toList, "lowp".toList]

/-- The types of numbers and truth values. -/
def scalarTypes : List Text := ["float".toList, "int".toList, "uint".toList, "bool".toList]

/-- The types of vectors. -/
def vectorTypes : List Text :=
  ["vec".toList, "bvec".toList, "ivec".toList, "uvec".toList].flatMap fun base =>
    ['2', '3', '4'].map fun size => base ++ [size]

/-- The types of matrices. -/
def matrixTypes : List Text :=
  ['2', '3', '4'].flatMap fun columns =>
    ("mat".toList ++ [columns]) ::
      ['2', '3', '4'].map fun rows => "mat".toList ++ [columns, 'x', rows]

/-- The types whose declarations are recognised. -/
def declarableTypes : List Text := scalarTypes ++ vectorTypes ++ matrixTypes

/-- Splits off the word at the front. -/
def splitWord (t : Text) : Text × Text := (t.takeWhile isWord, t.dropWhile isWord)

/-- The rest after white space, of which there has to be some. -/
def gap? (t : Text) : Option Text := if t.head?.any isBlank then some (trimLeft t) else none

/-- Skips qualifiers, each with the white space after it; `fuel` bounds their number. -/
def skipQualifiers : Nat → Text → Text
  | 0, t => t
  | fuel + 1, t =>
    let (word, rest) := splitWord t
    if qualifiers.contains word then
      match gap? rest with
      | some rest => skipQualifiers fuel rest
      | none => t
    else t

/-- A declaration of one line. -/
structure Declaration where
  /-- Everything in front of the initial value. -/
  lead : Text
  /-- The declared type. -/
  type : Text
  /-- The first declared name. -/
  name : Text
  /-- Everything between the equals sign and the final semicolon, if there is an equals sign. -/
  initial : Option Text
  deriving DecidableEq, Repr

/-- Drops the final semicolon and the white space around it. -/
def dropSemicolon? (t : Text) : Option Text :=
  match (trimRight t).reverse with
  | ';' :: rest => some (trimRight rest.reverse)
  | _ => none

/-- The initial value that starts behind an equals sign, and where it starts.  It is not empty: in
front of a semicolon alone it is the last of the white space. -/
def initial? (afterEquals : Text) : Option (Text × Text) :=
  let value := trimLeft afterEquals
  match dropSemicolon? value with
  | none => none
  | some [] =>
    match (afterEquals.takeWhile isBlank).getLast? with
    | some blank => some ([blank], blank :: value)
    | none => none
  | some initial => some (initial, value)

/-- The brackets of an array, and what follows them. -/
def skipArraySize? : Text → Option Text
  | '[' :: rest =>
    match rest.dropWhile (· != ']') with
    | ']' :: rest => some rest
    | _ => none
  | _ => none

/-- Whether a text is a semicolon with nothing but white space around it. -/
def onlySemicolon (t : Text) : Bool := trim t == [';']

/-- The declaration that a line of code holds: qualifiers, a type, a name, perhaps an array size or
an initial value, and a semicolon at the end. -/
def declaration? (code : Text) : Option Declaration := do
  let t := trimLeft code
  let t := skipQualifiers t.length t
  let (type, t) := splitWord t
  if !declarableTypes.contains type then none
  else
    let t ← gap? t
    let (name, t) := splitWord t
    if !isIdentifier name then none
    else
      match trimLeft t with
      | '=' :: rest => do
        let (initial, value) ← initial? rest
        some ⟨code.take (code.length - value.length), type, name, some initial⟩
      | t =>
        if onlySemicolon ((skipArraySize? t).getD t) then some ⟨code, type, name, none⟩ else none

/-- The rest after the layout qualifier, if one stands at the front. -/
def skipLayout (t : Text) : Text :=
  match (drop? "layout".toList t).map trimLeft with
  | some ('(' :: rest) =>
    match rest.dropWhile (· != ')') with
    | ')' :: rest => trimLeft rest
    | _ => t
  | _ => t

/-- The name of the output that a line declares: `out`, a type, the name and a semicolon. -/
def declaredOutput? (line : Text) : Option Text := do
  let t ← drop? "out".toList (skipLayout (trimLeft line))
  let t ← gap? t
  let (type, t) := splitWord t
  if type.isEmpty then none
  else
    let t ← gap? t
    let (name, t) := splitWord t
    if name.isEmpty then none
    else if startsWith (trimLeft t) [';'] then some name
    else none

/-- The outputs that every shader has. -/
def builtinOutputs : List Text := ["gl_FragColor".toList, "_GLF_color".toList]

/-- The outputs of a shader with the given lines. -/
def outputs (lines : List Text) : List Text := builtinOutputs ++ lines.filterMap declaredOutput?

/-- Whether an assignment follows: the first equals sign or semicolon is an equals sign that belongs
to no comparison.  `before` is the character in front of the text. -/
def assigns (before : Char) (t : Text) : Bool :=
  let skipped := t.takeWhile fun c => c != ';' && c != '='
  let last := skipped.getLast?.getD before
  match t.dropWhile fun c => c != ';' && c != '=' with
  | '=' :: rest => !(last == '!' || last == '<' || last == '>' || last == '=') && rest.head? != some '='
  | _ => false

/-- Whether the text behind the character `before` assigns to `name` somewhere. -/
def writesAfter (name : Text) (before : Option Char) : Text → Bool
  | [] => false
  | c :: rest =>
    (wordAt name before (c :: rest) && assigns (name.getLast?.getD c) ((c :: rest).drop name.length)) ||
      writesAfter name (some c) rest

/-- Whether a line of code writes one of the outputs. -/
def writesOutput (outputs : List Text) (code : Text) : Bool :=
  outputs.any fun name => writesAfter name none code

/-- Whether a line of code opens a block that can be removed: a condition, a loop, an alternative or
a plain block. -/
def isBlockHeader (code : Text) : Bool :=
  let t := trimLeft code
  (["if".toList, "for".toList, "while".toList].any fun word =>
      (drop? word t).any fun rest => startsWith (trimLeft rest) ['(']) ||
    (drop? "else".toList t).any (fun rest => !rest.head?.any isWord) ||
    startsWith t ['{']

/-- Whether a text has one of the words that open a block which is no function. -/
def opensData (header : Text) : Bool :=
  (words header).any fun word =>
    ["struct".toList, "uniform".toList, "buffer".toList].contains word

/-- Whether an initial value goes on with a further declarator. -/
def declaresMore : Text → Bool
  | [] => false
  | c :: rest =>
    (c == ',' &&
        (let (name, t) := splitWord (trimLeft rest)
         isIdentifier name && (trimLeft t).head?.all (· == '='))) ||
      declaresMore rest

/-- Whether a name is one of those given to renamed identifiers. -/
def isFreshName (name : Text) : Bool :=
  (drop? "_v".toList name).any fun digits => !digits.isEmpty && digits.all isDigit

/-- Whether a name could also select components of a vector. -/
def isSelector (name : Text) : Bool :=
  !name.isEmpty && decide (name.length ≤ 4) &&
    (["xyzw".toList, "rgba".toList, "stpq".toList].any fun letters => name.all letters.contains)

/-- The words that are never renamed. -/
def keywords : List Text :=
  ["attribute", "bool", "break", "bvec2", "bvec3", "bvec4", "const", "continue", "discard", "do",
    "else", "false", "float", "for", "highp", "if", "in", "inout", "int", "ivec2", "ivec3", "ivec4",
    "layout", "lowp", "main", "mat2", "mat3", "mat4", "mediump", "out", "precision", "return",
    "sampler2D", "struct", "true", "uint", "uniform", "uvec2", "uvec3", "uvec4", "varying", "vec2",
    "vec3", "vec4", "void", "while"].map String.toList

end ShaderShrink.Code
