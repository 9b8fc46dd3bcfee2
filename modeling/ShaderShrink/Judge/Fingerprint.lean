import ShaderShrink.Digest.Blake3
import ShaderShrink.Dispatch.Outcome
import ShaderShrink.Json.Writer
import ShaderShrink.Text.Word

/-!
# Fingerprints of behaviours

Two renderings show the same behaviour if they end with the same status and either with the same image
or, without images, with logs that differ only in numbers.  The fingerprint of a rendering is the digest
of a document that holds just that.
-/

namespace ShaderShrink

namespace Text

/-- Whether a character is a hexadecimal digit. -/
def isHexDigit (c : Char) : Bool :=
  isAsciiDigit c || ('a' ≤ c && c ≤ 'f') || ('A' ≤ c && c ≤ 'F')

/-- The length of the number at the front: an address in hexadecimal digits, or else a run of decimal
digits. -/
def numberLength (t : Text) : Nat :=
  match t with
  | '0' :: 'x' :: rest =>
    let digits := (rest.takeWhile isHexDigit).length
    if digits = 0 then (t.takeWhile isDigit).length else digits + 2
  | t => (t.takeWhile isDigit).length

/-- What stands for a number. -/
def numberMark : Char := 'N'

/-- Puts the mark in the place of every number; `skip` characters belong to a number already replaced. -/
def maskNumbersFrom : (skip : Nat) → Text → Text
  | _, [] => []
  | skip + 1, _ :: rest => maskNumbersFrom skip rest
  | 0, c :: rest =>
    match numberLength (c :: rest) with
    | 0 => c :: maskNumbersFrom 0 rest
    | length + 1 => numberMark :: maskNumbersFrom length rest

/-- Puts the mark in the place of every number. -/
def maskNumbers (t : Text) : Text := maskNumbersFrom 0 t

end Text

namespace RenderOutcome

/-- What a fingerprint depends on: the status, and the digest of the image or else the log without its
numbers. -/
def behaviour (outcome : RenderOutcome) (image : Option String) : Json :=
  .obj [("status", .str outcome.status.name),
    ("image", match image with
      | some digest => .str digest
      | none => .null),
    ("log", match image with
      | some _ => .str ""
      | none => .str (String.ofList (Text.maskNumbers outcome.log)))]

/-- The digest of the image that a rendering produced. -/
def imageDigest {σ : Type} (outcome : RenderOutcome) : Action σ (Option String) := do
  match outcome.producedImage? (← Action.files) with
  | none => pure none
  | some image => return some (Blake3.digest (← Action.readBytes image))

/-- The fingerprint of a rendering. -/
def fingerprint {σ : Type} (outcome : RenderOutcome) : Action σ String := do
  let image ← outcome.imageDigest
  return Blake3.digest (Text.utf8 ((outcome.behaviour image).write .compact 0))

end RenderOutcome

end ShaderShrink
