import Mathlib.Data.List.GetD
import ShaderShrink.Opportunity.Selection

/-!
# What a choice and a change keep

A chosen opportunity is one of those that were offered, and choosing changes nothing but the random
source.  A change of a shader keeps its metadata and the version it was read in, and the rules.
-/

namespace ShaderShrink

namespace Opportunity

theorem exists_leastPriority {opportunities : List Opportunity} (offered : opportunities ≠ []) :
    ∃ opportunity ∈ opportunities, opportunity.priority = leastPriority opportunities := by
  fun_induction leastPriority opportunities with
  | case1 => exact absurd rfl offered
  | case2 only => exact ⟨only, List.mem_singleton_self only, rfl⟩
  | case3 first rest more ih =>
    obtain ⟨other, member, least⟩ := ih more
    rcases Nat.le_total first.priority (leastPriority rest) with low | low
    · exact ⟨first, List.mem_cons_self, (Nat.min_eq_left low).symm⟩
    · exact ⟨other, List.mem_cons_of_mem first member, least.trans (Nat.min_eq_right low).symm⟩

/-- What competes are the opportunities of the least priority. -/
theorem mem_competing {opportunities : List Opportunity} {opportunity : Opportunity} :
    opportunity ∈ competing opportunities ↔
      opportunity ∈ opportunities ∧ opportunity.priority = leastPriority opportunities := by
  rw [competing, List.mem_mergeSort, List.mem_filter, beq_iff_eq]

/-- A competing opportunity is one of those that are offered. -/
theorem mem_of_mem_competing {opportunities : List Opportunity} {opportunity : Opportunity}
    (member : opportunity ∈ competing opportunities) : opportunity ∈ opportunities := (mem_competing.mp member).1

private theorem choice_ok {source source' : RandomSource} {items : List Opportunity}
    {chosen : Opportunity} (success : source.choice items = .ok (chosen, source')) : chosen ∈ items := by
  cases items with
  | nil => cases success
  | cons first rest =>
    have bound : (source.twister.below (first :: rest).length).1 < (first :: rest).length :=
      Twister.below_lt (List.length_pos_of_mem List.mem_cons_self) source.twister
    rw [RandomSource.choice] at success
    generalize source.twister.below (first :: rest).length = drawn at bound success
    cases success
    rw [List.getD_eq_getElem _ _ bound]
    exact List.getElem_mem bound

/-- Where there is an opportunity, one is chosen. -/
theorem exists_select {opportunities : List Opportunity} (offered : opportunities ≠ []) (context : Context) :
    ∃ opportunity context', select opportunities context = .ok (opportunity, context') := by
  obtain ⟨opportunity, member, least⟩ := exists_leastPriority offered
  have competes := mem_competing.mpr ⟨member, least⟩
  cases opportunities with
  | nil => exact absurd rfl offered
  | cons first rest =>
    simp only [select]
    cases listed : competing (first :: rest) with
    | nil =>
      rw [listed] at competes
      cases competes
    | cons first rest =>
      rw [RandomSource.choice]
      generalize context.random.twister.below (first :: rest).length = drawn
      exact ⟨_, _, rfl⟩

/-- Choosing takes one of the opportunities that compete and keeps the rules. -/
theorem select_ok {opportunities : List Opportunity} {opportunity : Opportunity} {context context' : Context}
    (success : select opportunities context = .ok (opportunity, context')) :
    opportunity ∈ competing opportunities ∧ context'.rules = context.rules := by
  cases opportunities with
  | nil => cases success
  | cons first rest =>
    simp only [select] at success
    cases chosen : context.random.choice (competing (first :: rest)) with
    | error fault => rw [chosen] at success; cases success
    | ok result =>
      rw [chosen] at success
      cases success
      exact ⟨choice_ok chosen, rfl⟩

end Opportunity

/-- A change replaces the lines of a shader and nothing else, and keeps the rules. -/
theorem Edit.apply_ok {edit : Edit} {shader candidate : Shader} {context context' : Context}
    (success : edit.apply shader context = .ok (candidate, context')) :
    (∃ lines, candidate = shader.withLines lines) ∧ context'.rules = context.rules := by
  cases edit with
  | removeLines first last =>
    cases success
    exact ⟨⟨_, rfl⟩, rfl⟩
  | simplifyInitializer line value =>
    simp only [Edit.apply] at success
    split at success
    · contradiction
    · split at success
      · contradiction
      · cases success
        exact ⟨⟨_, rfl⟩, rfl⟩
  | renameIdentifier name =>
    cases success
    exact ⟨⟨_, rfl⟩, rfl⟩

/-- A candidate has the metadata and the version of the shader that it was made from. -/
theorem Opportunity.apply_ok {opportunity : Opportunity} {shader candidate : Shader}
    {context context' : Context} (success : opportunity.apply shader context = .ok (candidate, context')) :
    candidate.metadata = shader.metadata ∧ candidate.version = shader.version ∧
      context'.rules = context.rules := by
  obtain ⟨⟨lines, rfl⟩, rules⟩ := Edit.apply_ok success
  exact ⟨rfl, rfl, rules⟩

end ShaderShrink
