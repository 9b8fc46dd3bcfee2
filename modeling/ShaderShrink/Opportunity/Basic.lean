import ShaderShrink.Opportunity.Context
import ShaderShrink.Shader.Basic
import ShaderShrink.Shader.Code

/-!
# Opportunities

An opportunity is one small change to a shader: some lines go, an initial value becomes a constant,
or an identifier gets a fresh name.  Its key names it among the opportunities of one shader.
-/

namespace ShaderShrink

/-- The kinds of opportunities, in the order in which they are tried. -/
inductive OpportunityKind where
  | removeBlankOrComment
  | removeBlock
  | removeStatement
  | simplifyInitializer
  | renameIdentifier
  deriving DecidableEq, Repr

/-- The name of a kind in keys and records. -/
def OpportunityKind.label : OpportunityKind → String
  | removeBlankOrComment => "remove_blank_or_comment"
  | removeBlock => "remove_block"
  | removeStatement => "remove_statement"
  | simplifyInitializer => "simplify_initializer"
  | renameIdentifier => "rename_identifier"

/-- Kinds with a smaller number are tried first. -/
def OpportunityKind.priority : OpportunityKind → Nat
  | removeBlankOrComment => 0
  | removeBlock => 1
  | removeStatement => 2
  | simplifyInitializer => 3
  | renameIdentifier => 4

/-- A change to a shader.  Lines are addressed by integers, and a negative one counts from the
end. -/
inductive Edit where
  | removeLines (first last : Int)
  | simplifyInitializer (line : Int) (value : Text)
  | renameIdentifier (name : Text)
  deriving DecidableEq, Repr

namespace Edit

/-- Where a list of the given size is cut; cuts outside of it fall on its ends. -/
def cut (size : Nat) (place : Int) : Nat :=
  if place < 0 then (size + place).toNat else Nat.min place.toNat size

/-- The position of an item in a list of the given size. -/
def position? (size : Nat) (place : Int) : Option Nat :=
  let place := if place < 0 then size + place else place
  if 0 ≤ place && place < size then some place.toNat else none

/-- The lines without those from `first` to `last`. -/
def withoutLines (lines : List Text) (first last : Int) : List Text :=
  lines.take (cut lines.length first) ++ lines.drop (cut lines.length (last + 1))

/-- The line with the value in place of its initial value, if it has one. -/
def simplified? (line value : Text) : Option Text :=
  match Code.declaration? (Code.ofLine line) with
  | some ⟨lead, _, _, some _⟩ => some (lead ++ value ++ [';'])
  | _ => none

/-- The shader after the change, and the context after the names it took. -/
def apply (edit : Edit) (shader : Shader) (context : Context) : Except Fault (Shader × Context) :=
  let lines := shader.lines
  match edit with
  | removeLines first last => .ok (shader.withLines (withoutLines lines first last), context)
  | simplifyInitializer line value =>
    match position? lines.length line with
    | none => .error .index
    | some place =>
      match simplified? (lines.getD place []) value with
      | none =>
        .error (.value ("line " ++ toString line ++ " no longer holds an initializer"))
      | some new => .ok (shader.withLines (lines.set place new), context)
  | renameIdentifier name =>
    let (new, context) := context.freshName (Text.identifiers shader.text)
    .ok (shader.withLines (lines.map (Text.replaceWord name new)), context)

end Edit

/-- An opportunity found in a shader, with the lines it was found on. -/
structure Opportunity where
  kind : OpportunityKind
  first : Nat
  last : Nat
  detail : Text
  deriving DecidableEq, Repr

namespace Opportunity

/-- The text that names a change by its kind, its lines and its detail. -/
def keyText (label : String) (first last : Int) (detail : Text) : String :=
  label ++ ":" ++ toString first ++ ":" ++ toString last ++ ":" ++ String.ofList detail

/-- The key of an opportunity. -/
def key (opportunity : Opportunity) : String :=
  keyText opportunity.kind.label opportunity.first opportunity.last opportunity.detail

/-- The priority of an opportunity. -/
def priority (opportunity : Opportunity) : Nat := opportunity.kind.priority

/-- The change that an opportunity makes. -/
def edit (opportunity : Opportunity) : Edit :=
  match opportunity.kind with
  | .removeBlankOrComment | .removeBlock | .removeStatement =>
    .removeLines opportunity.first opportunity.last
  | .simplifyInitializer => .simplifyInitializer opportunity.first opportunity.detail
  | .renameIdentifier => .renameIdentifier opportunity.detail

/-- The shader after the change, and the context after the names it took. -/
def apply (opportunity : Opportunity) (shader : Shader) (context : Context) :
    Except Fault (Shader × Context) :=
  opportunity.edit.apply shader context

end Opportunity

end ShaderShrink
