import ShaderShrink.Shader.Code

/-!
# Outlines

The outline of a shader says for each line how many blocks are open in front of it and whether the
outermost of them is a function.  Lines that begin with a number sign open and close nothing.  A
closing brace without an opening one changes nothing.
-/

namespace ShaderShrink

/-- A line with its place in the block structure. -/
structure OutlineLine where
  index : Nat
  code : Text
  depth : Nat
  inFunction : Bool
  deriving DecidableEq, Repr

namespace Outline

open ShaderShrink.Text

/-- What is known in front of a line. -/
structure Nesting where
  /-- The number of open blocks. -/
  depth : Nat
  /-- Whether the outermost block opened last is a function. -/
  outerIsFunction : Bool
  /-- The last code that was not blank. -/
  lastCode : Text
  deriving DecidableEq, Repr

/-- The nesting at the start of a shader. -/
def Nesting.start : Nesting := ⟨0, false, []⟩

/-- Whether a block behind a header is a function. -/
def isFunctionHeader (header : Text) : Bool := header.contains '(' && !Code.opensData header

/-- The nesting behind a brace; `before` is the code in front of it. -/
def Nesting.afterChar (nesting : Nesting) (before : Text) (c : Char) : Nesting :=
  if c = '{' then
    if nesting.depth = 0 then
      let header := trim before
      { nesting with
        depth := 1
        outerIsFunction := isFunctionHeader (if header.isEmpty then nesting.lastCode else header) }
    else { nesting with depth := nesting.depth + 1 }
  else if c = '}' then { nesting with depth := nesting.depth - 1 }
  else nesting

/-- The nesting behind some code; `reversed` is the code in front of it, backwards. -/
def Nesting.afterCode (nesting : Nesting) (reversed : Text) : Text → Nesting
  | [] => nesting
  | c :: rest => (nesting.afterChar reversed.reverse c).afterCode (c :: reversed) rest

/-- The nesting behind a line. -/
def Nesting.afterLine (nesting : Nesting) (line : Text) : Nesting :=
  let code := Code.ofLine line
  let trimmed := trim code
  if startsWith trimmed ['#'] then nesting
  else
    let nesting := nesting.afterCode [] code
    if trimmed.isEmpty then nesting else { nesting with lastCode := trimmed }

/-- The outline of the lines from the given index on. -/
def linesFrom (index : Nat) (nesting : Nesting) : List Text → List OutlineLine
  | [] => []
  | line :: rest =>
    ⟨index, Code.ofLine line, nesting.depth, decide (0 < nesting.depth) && nesting.outerIsFunction⟩ ::
      linesFrom (index + 1) (nesting.afterLine line) rest

/-- The outline of a shader's lines. -/
def ofLines (lines : List Text) : List OutlineLine := linesFrom 0 .start lines

/-- The index of the first line that closes a block opened at `depth` and holds nothing else, if no
line before it lies outside of the block. -/
def closingLine? (depth : Nat) : List OutlineLine → Option Nat
  | [] => none
  | line :: rest =>
    if line.depth = depth + 1 && trim line.code == ['}'] then some line.index
    else if line.depth ≤ depth then none
    else closingLine? depth rest

/-- The index of the line that closes the block opened on a line. -/
def blockEnd? (outline : List OutlineLine) (index : Nat) : Option Nat :=
  outline[index]?.bind fun line => closingLine? line.depth (outline.drop (index + 1))

/-- The first code behind a line that is not blank. -/
def nextCode (outline : List OutlineLine) (index : Nat) : Text :=
  (((outline.drop (index + 1)).map fun line => trim line.code).find? fun code => !code.isEmpty).getD []

/-- Whether a statement starts on a line: the last code in front of it that is not blank, if there
is any, ends a statement or opens or closes a block. -/
def startsStatement (outline : List OutlineLine) (index : Nat) : Bool :=
  (((outline.take index).reverse.map fun line => trim line.code).find? fun code => !code.isEmpty).all
    fun code => code.getLast?.any fun c => c == ';' || c == '{' || c == '}'

end Outline

end ShaderShrink
