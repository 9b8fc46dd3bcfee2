/-!
# White space

White space is a property of single characters: the ASCII blanks and separators together with the
Unicode spaces.  Line breaks are the white space that also ends a line.  Trimming removes white
space from the ends of a text and keeps everything between them.
-/

namespace ShaderShrink

/-- A text is the list of its characters. -/
abbrev Text := List Char

namespace Text

/-- Whether one of some closed ranges has a number. -/
def inRanges (ranges : List (Nat × Nat)) (n : Nat) : Bool :=
  ranges.any fun range => range.1 ≤ n && n ≤ range.2

/-- White space: the tab to carriage return block, the four separators and the space, and the
Unicode spaces. -/
def isBlank (c : Char) : Bool :=
  let n := c.toNat
  (9 ≤ n && n ≤ 13) || (28 ≤ n && n ≤ 32) || n == 0x85 || n == 0xa0 || n == 0x1680 ||
    (0x2000 ≤ n && n ≤ 0x200a) || n == 0x2028 || n == 0x2029 || n == 0x202f || n == 0x205f ||
    n == 0x3000

/-- The characters that end a line. -/
def isLineBreak (c : Char) : Bool :=
  let n := c.toNat
  (10 ≤ n && n ≤ 13) || (28 ≤ n && n ≤ 30) || n == 0x85 || n == 0x2028 || n == 0x2029

/-- Every line break is white space. -/
theorem isBlank_of_isLineBreak {c : Char} (ends : isLineBreak c = true) : isBlank c = true := by
  simp only [isLineBreak, isBlank, Bool.or_eq_true, Bool.and_eq_true, decide_eq_true_eq,
    beq_iff_eq] at ends ⊢
  omega

/-- The text without its leading white space. -/
def trimLeft (t : Text) : Text := t.dropWhile isBlank

/-- The text without its trailing white space. -/
def trimRight (t : Text) : Text := (t.reverse.dropWhile isBlank).reverse

/-- The text without white space at either end. -/
def trim (t : Text) : Text := trimRight (trimLeft t)

/-- Whether a text holds nothing but white space. -/
def blank (t : Text) : Bool := t.all isBlank

/-- Whether `p` begins the text. -/
def startsWith (t p : Text) : Bool := p.isPrefixOf t

/-- Whether `p` ends the text. -/
def endsWith (t p : Text) : Bool := p.reverse.isPrefixOf t.reverse

/-- The rest of a text after `p`, if the text begins with it. -/
def drop? (p : Text) (t : Text) : Option Text := if startsWith t p then some (t.drop p.length) else none

/-- Whether `p` occurs in the text. -/
def hasPart (p : Text) : Text → Bool
  | [] => p.isEmpty
  | c :: rest => startsWith (c :: rest) p || hasPart p rest

/-- The lower-case form of a character, as far as it is an ASCII letter: besides the ASCII capitals
only the Kelvin sign has one. -/
def lowerChar (c : Char) : Char :=
  if 65 ≤ c.toNat && c.toNat ≤ 90 then Char.ofNat (c.toNat + 32)
  else if c.toNat == 0x212a then 'k'
  else c

/-- The text with its letters in lower case. -/
def lower (t : Text) : Text := t.map lowerChar

/-- Whether one text comes before another in the order of their code points. -/
def precedes : Text → Text → Bool
  | [], [] => false
  | [], _ :: _ => true
  | _ :: _, [] => false
  | a :: as, b :: bs => if a = b then precedes as bs else a.toNat < b.toNat

end Text

end ShaderShrink
