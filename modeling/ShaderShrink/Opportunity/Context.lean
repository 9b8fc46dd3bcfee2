import ShaderShrink.Fault
import ShaderShrink.Random.Twister
import ShaderShrink.Shader.Version

/-!
# Contexts

A reduction carries the rules for what may be changed, a source of random choices, and the next
number for fresh names.  Numbers are used once, so that no fresh name comes twice.
-/

namespace ShaderShrink

/-- What may be changed in a shader. -/
structure Rules where
  /-- Whether writes to outputs may be removed too. -/
  reduceEverywhere : Bool
  /-- The version that decides which constants exist. -/
  version : Version
  deriving DecidableEq, Repr

/-- A source of random choices and the seed it was made from. -/
structure RandomSource where
  seed : Int
  twister : Twister

namespace RandomSource

/-- The source made from a seed. -/
def ofSeed (seed : Int) : RandomSource := ⟨seed, Twister.ofSeed seed⟩

/-- A number from zero to below the bound. -/
def below (source : RandomSource) (bound : Int) : Except Fault (Nat × RandomSource) :=
  if bound ≤ 0 then .error (.value "bound must be positive")
  else
    let (n, twister) := source.twister.below bound.toNat
    .ok (n, { source with twister })

/-- One of the items. -/
def choice {α : Type} (source : RandomSource) (items : List α) : Except Fault (α × RandomSource) :=
  match items with
  | [] => .error (.value "cannot choose from an empty sequence")
  | first :: _ =>
    let (n, twister) := source.twister.below items.length
    .ok (items.getD n first, { source with twister })

end RandomSource

/-- What a reduction carries from step to step. -/
structure Context where
  rules : Rules
  random : RandomSource
  nextId : Nat

namespace Context

/-- The context at the start of a reduction. -/
def create (seed : Int) (rules : Rules) : Context := ⟨rules, .ofSeed seed, 0⟩

/-- The next number. -/
def freshId (context : Context) : Nat × Context :=
  (context.nextId, { context with nextId := context.nextId + 1 })

/-- The next number behind the given letters. -/
def freshPrefixed (context : Context) (letters : Text) : Text × Context :=
  let (n, context) := context.freshId
  (letters ++ Nat.toDigits 10 n, context)

/-- The name made from a number. -/
def nameOf (n : Nat) : Text := "_v".toList ++ Nat.toDigits 10 n

/-- The first number from `n` on whose name is not taken, or the number `fuel` steps further. -/
def firstFree (taken : List Text) : Nat → Nat → Nat
  | 0, n => n
  | fuel + 1, n => if taken.contains (nameOf n) then firstFree taken fuel (n + 1) else n

/-- A name that is not taken.  Among one more numbers than there are taken names one has a free
name. -/
def freshName (context : Context) (taken : List Text) : Text × Context :=
  let n := firstFree taken taken.length context.nextId
  (nameOf n, { context with nextId := n + 1 })

end Context

end ShaderShrink
