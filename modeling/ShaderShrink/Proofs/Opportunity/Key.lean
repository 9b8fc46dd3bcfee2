import Mathlib.Data.List.Basic
import Mathlib.Data.List.Forall2
import Mathlib.Data.List.Nodup
import ShaderShrink.Proofs.Opportunity.Catalogue

/-!
# Keys of opportunities

A key tells the kind of an opportunity and the line that it begins on, and a shader has at most one opportunity of
a kind that begins on a line.  So the opportunities of a shader have keys of their own: turning one down turns down
no other.
-/

namespace ShaderShrink

namespace Opportunity

/-! ## What a key tells -/

private theorem label_inj {a b : OpportunityKind} (same : a.label = b.label) : a = b := by
  revert same
  cases a <;> cases b <;> decide

private theorem colon_notMem_label (kind : OpportunityKind) : ':' ∉ kind.label.toList := by
  cases kind <;> decide

private theorem colon_notMem_toDigits (n : Nat) : ':' ∉ Nat.toDigits 10 n := fun member =>
  absurd (Nat.isDigit_of_mem_toDigits (by decide) (by decide) member) (by decide)

/-- A text is cut in one way only at the first of its colons. -/
private theorem cut_inj {front front' back back' : Text} (plain : ':' ∉ front) (plain' : ':' ∉ front')
    (same : front ++ ':' :: back = front' ++ ':' :: back') : front = front' ∧ back = back' := by
  induction front generalizing front' with
  | nil =>
    cases front' with
    | nil => exact ⟨rfl, (List.cons.inj same).2⟩
    | cons c rest => exact absurd ((List.cons.inj same).1 ▸ List.mem_cons_self) plain'
  | cons c rest ih =>
    cases front' with
    | nil => exact absurd ((List.cons.inj same).1 ▸ List.mem_cons_self) plain
    | cons c' rest' =>
      obtain ⟨rfl, tails⟩ := List.cons.inj same
      obtain ⟨rfl, behind⟩ := ih (fun member => plain (List.mem_cons_of_mem c member))
        (fun member => plain' (List.mem_cons_of_mem c member)) tails
      exact ⟨rfl, behind⟩

private theorem key_toList (opportunity : Opportunity) :
    opportunity.key.toList = opportunity.kind.label.toList ++ ':' :: (Nat.toDigits 10 opportunity.first ++
      ':' :: (Nat.toDigits 10 opportunity.last ++ ':' :: opportunity.detail)) := by
  have shown : ∀ n : Nat, ((n : Int).repr).toList = Nat.toDigits 10 n := fun n => String.toList_ofList
  simp [key, keyText, String.toList_append, shown]

/-- Opportunities with the same key are of the same kind and begin on the same line. -/
theorem key_inj {a b : Opportunity} (same : a.key = b.key) : a.kind = b.kind ∧ a.first = b.first := by
  have texts := congrArg String.toList same
  rw [key_toList, key_toList] at texts
  obtain ⟨labels, rest⟩ := cut_inj (colon_notMem_label _) (colon_notMem_label _) texts
  obtain ⟨numbers, -⟩ := cut_inj (colon_notMem_toDigits _) (colon_notMem_toDigits _) rest
  refine ⟨label_inj (String.toList_inj.mp labels), ?_⟩
  rw [← Nat.ofDigitChars_ten_toDigits (n := a.first), numbers, Nat.ofDigitChars_ten_toDigits]

/-! ## Where opportunities begin -/

/-- Whether opportunities are all of one kind, and in the order of the lines that they begin on. -/
structure InOrder (kind : OpportunityKind) (opportunities : List Opportunity) : Prop where
  kind : ∀ opportunity ∈ opportunities, opportunity.kind = kind
  first : opportunities.Pairwise fun a b => a.first < b.first

section InOrder

variable {rules : Rules} {lines outputs : List Text} {outline : List OutlineLine}

/-- What is found line by line is in order. -/
private theorem inOrder_filterMap {α : Type} {kind : OpportunityKind} {items : List α} {place : α → Nat}
    {find : α → Option Opportunity} (ordered : items.Pairwise fun a b => place a < place b)
    (found : ∀ item opportunity, find item = some opportunity → opportunity.kind = kind ∧ opportunity.first = place item) :
    InOrder kind (items.filterMap find) := by
  refine ⟨fun opportunity member => ?_, ?_⟩
  · obtain ⟨item, -, here⟩ := List.mem_filterMap.mp member
    exact (found item opportunity here).1
  · refine ordered.filterMap find fun a b before x atA y atB => ?_
    rw [(found a x atA).2, (found b y atB).2]
    exact before

private theorem inOrder_blankLines (lines : List Text) : InOrder .removeBlankOrComment (blankLines lines) := by
  have ordered : lines.zipIdx.Pairwise fun a b => a.2 < b.2 := by
    rw [← List.pairwise_map, List.zipIdx_map_snd]
    exact List.pairwise_lt_range'
  refine inOrder_filterMap ordered fun ⟨line, index⟩ opportunity found => ?_
  dsimp only at found
  split_ifs at found
  cases found
  exact ⟨rfl, rfl⟩

theorem blockAt?_some {line : OutlineLine} {opportunity : Opportunity}
    (found : blockAt? rules outputs outline line = some opportunity) :
    opportunity.kind = .removeBlock ∧ opportunity.first = line.index := by
  unfold blockAt? at found
  split_ifs at found
  split at found
  · cases found
  · dsimp only at found
    split_ifs at found
    cases found
    exact ⟨rfl, rfl⟩

theorem statementAt?_some {line : OutlineLine} {opportunity : Opportunity}
    (found : statementAt? rules outputs outline line = some opportunity) :
    opportunity.kind = .removeStatement ∧ opportunity.first = line.index := by
  unfold statementAt? at found
  dsimp only at found
  split_ifs at found
  cases found
  exact ⟨rfl, rfl⟩

theorem initializerAt?_some {line : OutlineLine} {opportunity : Opportunity}
    (found : initializerAt? rules line = some opportunity) :
    opportunity.kind = .simplifyInitializer ∧ opportunity.first = line.index := by
  rw [initializerAt?_eq] at found
  obtain ⟨constant, -, rfl⟩ := Option.map_eq_some_iff.mp found
  exact ⟨rfl, rfl⟩

private theorem inOrder_renames (ordered : outline.Pairwise fun a b => a.index < b.index) (seen : List Text) :
    InOrder .renameIdentifier (renames outputs outline seen) := by
  refine ⟨fun opportunity member => ?_, ?_⟩
  · obtain ⟨line, -, name, -, rfl⟩ := exists_of_mem_renames member
    rfl
  · fun_induction renames outputs outline seen with
    | case1 => exact .nil
    | case2 line rest seen none ih | case3 line rest seen name found again ih => exact ih (List.pairwise_cons.mp ordered).2
    | case4 line rest seen name found new ih =>
      obtain ⟨before, ordered⟩ := List.pairwise_cons.mp ordered
      refine List.pairwise_cons.mpr ⟨fun other member => ?_, ih ordered⟩
      obtain ⟨later, inside, name', -, rfl⟩ := exists_of_mem_renames member
      exact before later inside

end InOrder

/-- Whether two opportunities differ in their kinds or in the lines that they begin on. -/
def Apart (a b : Opportunity) : Prop := a.kind ≠ b.kind ∨ a.first ≠ b.first

theorem InOrder.apart {kind : OpportunityKind} {opportunities : List Opportunity} (ordered : InOrder kind opportunities) :
    opportunities.Pairwise Apart := ordered.first.imp fun before => .inr (Nat.ne_of_lt before)

/-- Opportunities of different kinds come together without a clash. -/
private theorem apart_flatten {kinds : List OpportunityKind} {parts : List (List Opportunity)}
    (ordered : List.Forall₂ InOrder kinds parts) (different : kinds.Nodup) : parts.flatten.Pairwise Apart := by
  have known : ∀ {kinds parts}, List.Forall₂ InOrder kinds parts → ∀ opportunity ∈ parts.flatten, opportunity.kind ∈ kinds := by
    intro kinds parts ordered
    induction ordered with
    | nil => simp
    | cons first _ ih =>
      intro opportunity member
      rcases List.mem_append.mp member with here | later
      · exact first.kind opportunity here ▸ List.mem_cons_self
      · exact List.mem_cons_of_mem _ (ih opportunity later)
  induction ordered with
  | nil => exact .nil
  | @cons kind part kinds parts first rest ih =>
    obtain ⟨new, different⟩ := List.nodup_cons.mp different
    refine List.pairwise_append.mpr ⟨first.apart, ih different, fun a here b later => .inl fun same => new ?_⟩
    exact first.kind a here ▸ same ▸ known rest b later

end Opportunity

open Opportunity in
/-- No two opportunities of a shader are of one kind and begin on one line. -/
theorem Shader.pairwise_apart (rules : Rules) (shader : Shader) : (shader.opportunities rules).Pairwise Apart := by
  have outline := Outline.pairwise_ofLines shader.lines
  have ordered : List.Forall₂ InOrder
      [.removeBlankOrComment, .removeBlock, .removeStatement, .simplifyInitializer, .renameIdentifier]
      [blankLines shader.lines,
        (Outline.ofLines shader.lines).filterMap (blockAt? rules (Code.outputs shader.lines) (Outline.ofLines shader.lines)),
        (Outline.ofLines shader.lines).filterMap (statementAt? rules (Code.outputs shader.lines) (Outline.ofLines shader.lines)),
        (Outline.ofLines shader.lines).filterMap (initializerAt? rules),
        renames (Code.outputs shader.lines) (Outline.ofLines shader.lines) []] :=
    .cons (inOrder_blankLines _) <| .cons (inOrder_filterMap outline fun _ _ => blockAt?_some) <|
      .cons (inOrder_filterMap outline fun _ _ => statementAt?_some) <|
      .cons (inOrder_filterMap outline fun _ _ => initializerAt?_some) <| .cons (inOrder_renames outline []) .nil
  have apart := apart_flatten ordered (by decide)
  simpa only [List.flatten_cons, List.flatten_nil, List.append_nil, List.append_assoc, opportunities, ofLines] using apart

/-- No two opportunities of a shader have the same key. -/
theorem Shader.pairwise_key_ne (rules : Rules) (shader : Shader) :
    (shader.opportunities rules).Pairwise fun a b => a.key ≠ b.key := by
  refine (shader.pairwise_apart rules).imp fun apart same => ?_
  obtain ⟨kind, first⟩ := Opportunity.key_inj same
  exact apart.elim (· kind) (· first)

end ShaderShrink
