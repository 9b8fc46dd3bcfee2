import ShaderShrink.Dispatch.NumericAddress
import ShaderShrink.Fault
import ShaderShrink.Text.Quoted

/-!
# Addresses of requests

An address may have white space, angle brackets and the mark `URL:` around it.  What is left starts
with a scheme and a colon.  A host in brackets is a numeric address, and no character of a host may be a
form of a mark that ends hosts.
-/

namespace ShaderShrink.Address

/-- The address without the white space, brackets and mark around it. -/
def unwrap (address : Text) : Text :=
  let t := Text.trim address
  let t :=
    if t.head? = some '<' && t.getLast? = some '>' then Text.trim ((t.drop 1).dropLast) else t
  match Text.drop? "URL:".toList t with
  | some rest => Text.trim rest
  | none => t

/-- The address in front of its last number sign, and the fragment behind it. -/
def splitFragment (t : Text) : Text × Option Text :=
  match t.reverse.dropWhile (· != '#') with
  | _ :: before => (before.reverse, some (t.reverse.takeWhile (· != '#')).reverse)
  | [] => (t, none)

/-- Whether a text starts with a scheme and a colon. -/
def hasScheme (t : Text) : Bool :=
  let scheme := t.takeWhile fun c => c != '/' && c != ':'
  !scheme.isEmpty && (t.drop scheme.length).head? = some ':'

/-- Whether a character may stand in a scheme. -/
def isSchemeCharacter (c : Char) : Bool :=
  c.isAlpha || c.isDigit || c == '+' || c == '-' || c == '.'

/-- The text behind a scheme of plain characters. -/
def afterScheme (t : Text) : Text :=
  let scheme := t.takeWhile (· != ':')
  if scheme.head?.any Char.isAlpha && scheme.all isSchemeCharacter && scheme.length < t.length then
    t.drop (scheme.length + 1)
  else t

/-- The host with its port and user, if the address has one. -/
def host (t : Text) : Text :=
  let plain := (t.dropWhile fun c => c.toNat ≤ 32).filter fun c => c != '\t' && c != '\r' && c != '\n'
  match Text.drop? ['/', '/'] (afterScheme plain) with
  | some rest => rest.takeWhile fun c => c != '/' && c != '?' && c != '#'
  | none => []

/-- Whether a text in brackets is an address of a later version: its number and a point stand in front. -/
def isLaterVersion (t : Text) : Bool :=
  let digits := (t.drop 1).takeWhile NumericAddress.isHexDigit
  match t.drop (digits.length + 1) with
  | '.' :: c :: rest => !digits.isEmpty && !(c :: rest).contains '\n'
  | _ => false

/-- Checks a host in brackets. -/
def checkBracketed (name : Text) : Except Fault Unit :=
  if name.head? = some 'v' then
    if isLaterVersion name then .ok () else .error (.value "IPvFuture address is invalid")
  else if NumericAddress.isShort name then .error (.value "An IPv4 address cannot be in brackets")
  else if NumericAddress.isLong name then .ok ()
  else
    .error (.value (String.ofList (Text.quoted name) ++
      " does not appear to be an IPv4 or IPv6 address"))

/-- The fault of brackets that stand in the wrong places. -/
def misplacedBrackets : Fault := .value "Invalid IPv6 URL"

/-- Checks the brackets of a host: nothing stands in front of them, and only a port behind. -/
def checkBrackets (host : Text) : Except Fault Unit :=
  if host.contains '[' != host.contains ']' then .error misplacedBrackets
  else if !host.contains '[' then .ok ()
  else
    let place := (host.reverse.takeWhile (· != '@')).reverse
    match place with
    | '[' :: rest =>
      let name := rest.takeWhile (· != ']')
      match rest.drop (name.length + 1) with
      | [] | ':' :: _ => checkBracketed name
      | _ => .error misplacedBrackets
    | place =>
      if place.contains '[' then .error misplacedBrackets
      else checkBracketed (place.takeWhile (· != ':'))

/-- The code points of characters that are forms of texts with a slash, a question mark, a number sign, an
at sign or a colon. -/
def markForms : List Nat :=
  [0x2047, 0x2048, 0x2049, 0x2100, 0x2101, 0x2105, 0x2106, 0x2a74, 0xfe13, 0xfe16, 0xfe55, 0xfe56,
    0xfe5f, 0xfe6b, 0xff03, 0xff0f, 0xff1a, 0xff1f, 0xff20]

/-- Checks that no character of a host is a form of a mark. -/
def checkForms (host : Text) : Except Fault Unit :=
  if host.any fun c => markForms.contains c.toNat then
    .error (.value ("netloc '" ++ String.ofList host ++
      "' contains invalid characters under NFKC normalization"))
  else .ok ()

/-- The address to which a request goes. -/
def read (address : String) : Except Fault String := do
  let (base, fragment) := splitFragment (unwrap address.toList)
  let full :=
    match fragment with
    | some (c :: rest) => base ++ '#' :: c :: rest
    | _ => base
  if !hasScheme base then
    throw (.value ("unknown url type: " ++ String.ofList (Text.quoted full)))
  checkBrackets (host full)
  checkForms (host full)
  return String.ofList full

end ShaderShrink.Address
