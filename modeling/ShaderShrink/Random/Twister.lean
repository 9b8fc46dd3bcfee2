/-!
# The Mersenne twister

The generator keeps 624 words of 32 bits.  A seed of any length is spread over them word by word;
every 624 outputs the words are renewed together, and each output is a tempered word.
-/

namespace ShaderShrink

/-- The state of the generator: its words and how many of them have been used. -/
structure Twister where
  words : Array UInt32
  used : Nat
  deriving Repr, DecidableEq

namespace Twister

/-- The number of words. -/
def size : Nat := 624

/-- The words that follow from a word: the one at position `i` depends on its predecessor. -/
def spread : Nat → Nat → UInt32 → Array UInt32 → Array UInt32
  | 0, _, _, words => words
  | n + 1, i, last, words =>
    let next : UInt32 := (1812433253 : UInt32) * (last ^^^ (last >>> 30)) + UInt32.ofNat i
    spread n (i + 1) next (words.push next)

/-- Words that depend on one seed word. -/
def ofWord (seed : UInt32) : Array UInt32 := spread (size - 1) 1 seed #[seed]

/-- One step through the words: position and words after `f` has changed the word at the position;
at the end the last word is carried to the front. -/
def turn (f : UInt32 → UInt32 → UInt32) (i : Nat) (words : Array UInt32) : Nat × Array UInt32 :=
  let last := words.getD (i - 1) 0
  let words := words.setIfInBounds i (f (words.getD i 0) last)
  if i + 1 < size then (i + 1, words) else (1, words.setIfInBounds 0 (words.getD (size - 1) 0))

/-- Mixes the words of a key into the words of the generator. -/
def mixKey (key : Array UInt32) : Nat → Nat → Nat → Array UInt32 → Nat × Array UInt32
  | 0, i, _, words => (i, words)
  | n + 1, i, j, words =>
    let add := key.getD j 0 + UInt32.ofNat j
    let (i, words) := turn (fun word last => (word ^^^ ((last ^^^ (last >>> 30)) * 1664525)) + add) i words
    mixKey key n i (if j + 1 < key.size then j + 1 else 0) words

/-- Mixes the positions into the words of the generator. -/
def mixPositions : Nat → Nat → Array UInt32 → Array UInt32
  | 0, _, words => words
  | n + 1, i, words =>
    let (next, words) :=
      turn (fun word last => (word ^^^ ((last ^^^ (last >>> 30)) * 1566083941)) - UInt32.ofNat i) i words
    mixPositions n next words

/-- The little-endian words of a number, at least one. -/
def keyWords : Nat → Nat → Array UInt32 → Array UInt32
  | 0, _, words => words
  | fuel + 1, n, words =>
    let words := words.push (UInt32.ofNat n)
    if n >>> 32 = 0 then words else keyWords fuel (n >>> 32) words

/-- The generator for a seed; a seed and its negation give the same one. -/
def ofSeed (seed : Int) : Twister :=
  let key := keyWords (seed.natAbs.log2 / 32 + 1) seed.natAbs #[]
  let (i, words) := mixKey key (Nat.max size key.size) 1 0 (ofWord 19650218)
  ⟨(mixPositions (size - 1) i words).setIfInBounds 0 0x80000000, size⟩

/-- The renewed word at position `i`. -/
def renewed (words : Array UInt32) (i : Nat) : UInt32 :=
  let y := (words.getD i 0 &&& 0x80000000) ||| (words.getD ((i + 1) % size) 0 &&& 0x7fffffff)
  words.getD ((i + 397) % size) 0 ^^^ (y >>> 1) ^^^ (if y &&& 1 = 0 then 0 else 0x9908b0df)

/-- Renews `n` words from position `i` on. -/
def renew : Nat → Nat → Array UInt32 → Array UInt32
  | 0, _, words => words
  | n + 1, i, words => renew n (i + 1) (words.setIfInBounds i (renewed words i))

/-- The bits of a word spread for output. -/
def temper (y : UInt32) : UInt32 :=
  let y := y ^^^ (y >>> 11)
  let y := y ^^^ ((y <<< 7) &&& 0x9d2c5680)
  let y := y ^^^ ((y <<< 15) &&& 0xefc60000)
  y ^^^ (y >>> 18)

/-- The next output. -/
def next (t : Twister) : UInt32 × Twister :=
  let t := if t.used < size then t else ⟨renew size 0 t.words, 0⟩
  (temper (t.words.getD t.used 0), { t with used := t.used + 1 })

/-- A number of `bits` bits: whole outputs from the least significant on, and the top bits of one
more for the rest. -/
def bits (t : Twister) (count : Nat) : Nat × Twister :=
  if count ≤ 32 then
    let (word, t) := t.next
    (word.toNat >>> (32 - count), t)
  else
    let (low, t) := t.next
    let (high, t) := bits t (count - 32)
    (low.toNat + high <<< 32, t)

/-- The first number below `bound` among `fuel` draws of as many bits as `bound` has; the last draw
is reduced to the bound. -/
def draw (bound width : Nat) : Nat → Twister → Nat × Twister
  | 0, t =>
    let (n, t) := t.bits width
    (n % bound, t)
  | fuel + 1, t =>
    let (n, t) := t.bits width
    if n < bound then (n, t) else draw bound width fuel t

/-- A number below a positive bound. -/
def below (t : Twister) (bound : Nat) : Nat × Twister := draw bound (bound.log2 + 1) 100000 t

/-- Every way a draw can end gives a number below the bound. -/
theorem draw_lt {bound : Nat} (positive : 0 < bound) (width fuel : Nat) (t : Twister) :
    (draw bound width fuel t).1 < bound := by
  induction fuel generalizing t with
  | zero => exact Nat.mod_lt _ positive
  | succ fuel ih =>
    simp only [draw]
    split
    · assumption
    · exact ih _

/-- The generator keeps to a positive bound. -/
theorem below_lt {bound : Nat} (positive : 0 < bound) (t : Twister) : (t.below bound).1 < bound :=
  draw_lt positive _ _ t

end Twister

end ShaderShrink
