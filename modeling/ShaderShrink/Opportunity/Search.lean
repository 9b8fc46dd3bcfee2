import ShaderShrink.Opportunity.Basic
import ShaderShrink.Shader.Outline

/-!
# Finding opportunities

The opportunities of a shader come in a fixed order: blank lines and comments, blocks, statements,
initial values, names; and within each of these in the order of the lines.  Unless the rules allow
it, nothing that writes an output and no `return` is removed.
-/

namespace ShaderShrink

namespace Opportunity

open ShaderShrink.Text
open ShaderShrink.Outline

/-- Whether a line is blank or holds nothing but a comment. -/
def isBlankOrComment (line : Text) : Bool :=
  let trimmed := trim line
  if startsWith trimmed ['#'] then false
  else
    trimmed.isEmpty || startsWith trimmed "//".toList ||
      (startsWith trimmed "/*".toList && endsWith trimmed "*/".toList &&
        !hasPart "*/".toList ((trimmed.take (trimmed.length - 2)).drop 2))

/-- The blank lines and comments. -/
def blankLines (lines : List Text) : List Opportunity :=
  lines.zipIdx.filterMap fun (line, index) =>
    if isBlankOrComment line then some ⟨.removeBlankOrComment, index, index, []⟩ else none

/-- The removable block that a line of the outline opens. -/
def blockAt? (rules : Rules) (outputs : List Text) (outline : List OutlineLine) (line : OutlineLine) :
    Option Opportunity :=
  if line.inFunction && endsWith line.code ['{'] && Code.isBlockHeader line.code then
    match blockEnd? outline line.index with
    | none => none
    | some last =>
      let body := (outline.take (last + 1)).drop line.index
      if startsWith (nextCode outline last) "else".toList then none
      else if !rules.reduceEverywhere && body.any fun line => Code.writesOutput outputs line.code then
        none
      else some ⟨.removeBlock, line.index, last, []⟩
  else none

/-- Whether a name occurs on a line other than the one with the given index. -/
def usedElsewhere (outline : List OutlineLine) (index : Nat) (name : Text) : Bool :=
  outline.any fun line => line.index != index && (identifiers line.code).contains name

/-- The removable statement on a line of the outline. -/
def statementAt? (rules : Rules) (outputs : List Text) (outline : List OutlineLine)
    (line : OutlineLine) : Option Opportunity :=
  let code := trim line.code
  if !line.inFunction || !endsWith code [';'] || startsWith code "for".toList then none
  else if !startsStatement outline line.index ||
      startsWith (nextCode outline line.index) "else".toList then none
  else if (startsWith code "return".toList || Code.writesOutput outputs code) &&
      !rules.reduceEverywhere then none
  else if (Code.declaration? line.code).any fun declaration =>
      usedElsewhere outline line.index declaration.name then none
  else some ⟨.removeStatement, line.index, line.index, []⟩

/-- The simplest value of a type other than a matrix, in a version that has the type. -/
def constantOf? (version : Version) (type : Text) : Option Text :=
  if type.head? = some 'u' && !version.hasUnsigned then none
  else if type = "float".toList then some "1.0".toList
  else if type = "int".toList then some ['1']
  else if type = "uint".toList then some "1u".toList
  else if type = "bool".toList then some "true".toList
  else
    let element :=
      match type.head? with
      | some 'i' => ['1']
      | some 'u' => "1u".toList
      | some 'b' => "true".toList
      | _ => "1.0".toList
    some (type ++ ['('] ++ element ++ [')'])

/-- The initial value on a line of the outline that is not yet simple. -/
def initializerAt? (rules : Rules) (line : OutlineLine) : Option Opportunity := do
  let declaration ← Code.declaration? line.code
  let initial ← declaration.initial
  if startsWith declaration.type "mat".toList || Code.declaresMore initial then none
  else
    let constant ← constantOf? rules.version declaration.type
    if trim initial = constant then none
    else some ⟨.simplifyInitializer, line.index, line.index, constant⟩

/-- The name declared on a line of the outline, if it may be renamed. -/
def renamableAt? (outputs : List Text) (line : OutlineLine) : Option Text := do
  if !line.inFunction then none
  else
    let declaration ← Code.declaration? line.code
    let name := declaration.name
    if outputs.contains name || Code.keywords.contains name || startsWith name "gl_".toList ||
        Code.isFreshName name || Code.isSelector name then none
    else some name

/-- The first line for each renamable name, in order. -/
def renames (outputs : List Text) : List OutlineLine → List Text → List Opportunity
  | [], _ => []
  | line :: rest, seen =>
    match renamableAt? outputs line with
    | none => renames outputs rest seen
    | some name =>
      if seen.contains name then renames outputs rest seen
      else ⟨.renameIdentifier, line.index, line.index, name⟩ :: renames outputs rest (name :: seen)

end Opportunity

/-- The opportunities of the given lines. -/
def Opportunity.ofLines (rules : Rules) (lines : List Text) : List Opportunity :=
  let outline := Outline.ofLines lines
  let outputs := Code.outputs lines
  Opportunity.blankLines lines ++
    outline.filterMap (Opportunity.blockAt? rules outputs outline) ++
    outline.filterMap (Opportunity.statementAt? rules outputs outline) ++
    outline.filterMap (Opportunity.initializerAt? rules) ++
    Opportunity.renames outputs outline []

/-- The opportunities of a shader. -/
def Shader.opportunities (rules : Rules) (shader : Shader) : List Opportunity :=
  Opportunity.ofLines rules shader.lines

end ShaderShrink
