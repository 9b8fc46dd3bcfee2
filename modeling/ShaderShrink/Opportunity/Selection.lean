import ShaderShrink.Opportunity.Basic
import ShaderShrink.Json.Writer

/-!
# Selecting an opportunity

Only the opportunities of the least priority compete.  They are put in the order of their keys, and
the context chooses one of them at random.
-/

namespace ShaderShrink.Opportunity

/-- The least priority among some opportunities. -/
def leastPriority : List Opportunity → Nat
  | [] => 0
  | [opportunity] => opportunity.priority
  | opportunity :: rest => Nat.min opportunity.priority (leastPriority rest)

/-- The opportunities that compete, in the order of their keys. -/
def competing (opportunities : List Opportunity) : List Opportunity :=
  let least := leastPriority opportunities
  (opportunities.filter fun opportunity => opportunity.priority == least).mergeSort fun a b =>
    !Text.precedes b.key.toList a.key.toList

/-- Chooses an opportunity. -/
def select (opportunities : List Opportunity) (context : Context) :
    Except Fault (Opportunity × Context) :=
  match opportunities with
  | [] => .error (.value "no opportunities to select from")
  | _ =>
    (context.random.choice (competing opportunities)).map fun (chosen, random) =>
      (chosen, { context with random })

end ShaderShrink.Opportunity
