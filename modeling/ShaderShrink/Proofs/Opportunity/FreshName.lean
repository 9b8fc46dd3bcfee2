import Mathlib.Data.List.Nodup
import Mathlib.Data.List.Perm.Subperm
import Mathlib.Tactic.SplitIfs
import ShaderShrink.Opportunity.Context

/-!
# Fresh names

Different numbers make different names, so that among one more numbers than there are taken names one has a free name.
The name that is drawn is that of the least such number from the next one on.
-/

namespace ShaderShrink.Context

theorem toDigits_inj {m n : Nat} (same : Nat.toDigits 10 m = Nat.toDigits 10 n) : m = n := by
  rw [← Nat.ofDigitChars_ten_toDigits (n := m), same, Nat.ofDigitChars_ten_toDigits]

theorem nameOf_inj {m n : Nat} (same : nameOf m = nameOf n) : m = n := toDigits_inj (List.append_cancel_left same)

/-- The search passes over taken names only, and ends at a free one or as far on as it may go. -/
theorem firstFree_spec (taken : List Text) (fuel n : Nat) :
    n ≤ firstFree taken fuel n ∧ (∀ m, n ≤ m → m < firstFree taken fuel n → nameOf m ∈ taken) ∧
      (nameOf (firstFree taken fuel n) ∉ taken ∨ firstFree taken fuel n = n + fuel) := by
  induction fuel generalizing n with
  | zero => exact ⟨Nat.le_refl n, fun m fromHere before => absurd before (Nat.not_lt.mpr fromHere), .inr rfl⟩
  | succ fuel ih =>
    rw [firstFree]
    split_ifs with used
    · obtain ⟨further, passed, ends⟩ := ih (n + 1)
      refine ⟨by omega, fun m fromHere before => ?_, ends.imp_right fun last => by omega⟩
      rcases Nat.eq_or_lt_of_le fromHere with rfl | later
      · exact List.contains_iff_mem.mp used
      · exact passed m later before
    · refine ⟨Nat.le_refl n, fun m fromHere before => absurd before (Nat.not_lt.mpr fromHere), .inl fun member => ?_⟩
      exact used (List.contains_iff_mem.mpr member)

/-- With as many steps as there are taken names the search ends at a free one. -/
theorem nameOf_firstFree_notMem (taken : List Text) (n : Nat) : nameOf (firstFree taken taken.length n) ∉ taken := by
  obtain ⟨-, passed, free | last⟩ := firstFree_spec taken taken.length n
  · exact free
  · intro member
    have all : (List.range' n (taken.length + 1)).map nameOf ⊆ taken := by
      intro name listed
      obtain ⟨m, inside, rfl⟩ := List.mem_map.mp listed
      obtain ⟨fromHere, before⟩ := List.mem_range'_1.mp inside
      rcases Nat.eq_or_lt_of_le (show m ≤ firstFree taken taken.length n by omega) with rfl | earlier
      · exact member
      · exact passed m fromHere earlier
    have different : ((List.range' n (taken.length + 1)).map nameOf).Nodup :=
      List.Nodup.map (fun _ _ => nameOf_inj) List.nodup_range'
    have short := (different.subperm all).length_le
    rw [List.length_map, List.length_range'] at short
    omega

/-- A fresh name is the free name with the least number from the next one on. -/
theorem exists_freshName (context : Context) (taken : List Text) :
    ∃ n, context.freshName taken = (nameOf n, { context with nextId := n + 1 }) ∧ context.nextId ≤ n ∧
      nameOf n ∉ taken ∧ ∀ m, context.nextId ≤ m → m < n → nameOf m ∈ taken := by
  obtain ⟨further, passed, -⟩ := firstFree_spec taken taken.length context.nextId
  exact ⟨_, rfl, further, nameOf_firstFree_notMem taken context.nextId, passed⟩

end ShaderShrink.Context
