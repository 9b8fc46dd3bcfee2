import ShaderShrink.Text.Blank

/-!
# Base 64

Four characters of 64 stand for three bytes; one or two equals signs fill up the last group.  Reading
is strict: characters outside of the alphabet and padding in a wrong place are problems of their own.
-/

namespace ShaderShrink.Base64

/-- What is wrong with a text in base 64. -/
inductive Problem where
  | leadingPadding
  | dataAfterPadding
  | foreignCharacter
  | splitPadding
  | loneCharacter (count : Nat)
  | missingPadding
  deriving DecidableEq, Repr

/-- The description of a problem. -/
def Problem.message : Problem → String
  | leadingPadding => "Leading padding not allowed"
  | dataAfterPadding => "Excess data after padding"
  | foreignCharacter => "Only base64 data is allowed"
  | splitPadding => "Discontinuous padding not allowed"
  | loneCharacter count =>
    "Invalid base64-encoded string: number of data characters (" ++ toString count ++
      ") cannot be 1 more than a multiple of 4"
  | missingPadding => "Incorrect padding"

/-- The value of a character of the alphabet. -/
def digit? (c : Char) : Option Nat :=
  let n := c.toNat
  if 65 ≤ n && n ≤ 90 then some (n - 65)
  else if 97 ≤ n && n ≤ 122 then some (n - 71)
  else if 48 ≤ n && n ≤ 57 then some (n + 4)
  else if c = '+' then some 62
  else if c = '/' then some 63
  else none

/-- What has been read of a text. -/
structure State where
  /-- The bytes so far, the last one first. -/
  bytes : List UInt8
  /-- The characters of the present group. -/
  position : Nat
  /-- The bits of the last character that are in no byte yet. -/
  rest : Nat
  /-- The equals signs since the last character. -/
  pads : Nat
  /-- Whether any equals sign was read. -/
  padded : Bool

/-- The state with one more character of the alphabet. -/
def State.push (state : State) (value : Nat) : State :=
  match state.position with
  | 0 => { state with position := 1, rest := value, pads := 0 }
  | 1 => { state with
      bytes := UInt8.ofNat (state.rest * 4 + value / 16) :: state.bytes
      position := 2, rest := value % 16, pads := 0 }
  | 2 => { state with
      bytes := UInt8.ofNat (state.rest * 16 + value / 4) :: state.bytes
      position := 3, rest := value % 4, pads := 0 }
  | _ => { state with
      bytes := UInt8.ofNat (state.rest * 64 + value) :: state.bytes
      position := 0, rest := 0, pads := 0 }

/-- Reads the rest of a text. -/
def readFrom (state : State) : Text → Except Problem (List UInt8)
  | [] =>
    if state.position = 0 then .ok state.bytes.reverse
    else if state.position = 1 then .error (.loneCharacter (state.bytes.length / 3 * 4 + 1))
    else .error .missingPadding
  | c :: rest =>
    if c = '=' then
      if 2 ≤ state.position && 4 ≤ state.position + state.pads + 1 then
        if rest.isEmpty then .ok state.bytes.reverse else .error .dataAfterPadding
      else
        readFrom { state with
          padded := true
          pads := if 2 ≤ state.position then state.pads + 1 else state.pads } rest
    else
      match digit? c with
      | none => .error .foreignCharacter
      | some value => if state.padded then .error .splitPadding else readFrom (state.push value) rest

/-- The bytes that a text in base 64 stands for. -/
def read (t : Text) : Except Problem ByteArray :=
  if t.head? = some '=' then .error .leadingPadding
  else (readFrom ⟨[], 0, 0, 0, false⟩ t).map fun bytes => ⟨bytes.toArray⟩

end ShaderShrink.Base64
