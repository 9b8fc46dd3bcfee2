import ShaderShrink.Proofs.Opportunity.Candidate
import ShaderShrink.Proofs.Text.FullLine

/-!
# What an opportunity leaves alone

An opportunity that takes lines away, or puts a simple initial value in a line, leaves the other lines in their places.  The
breaks between them become line feeds, whatever they were.  So the rest of the text is as it was, up to a line feed at its
end, exactly if it had no other breaks.
-/

namespace ShaderShrink.Opportunity

open Text

/-- The lines that come in the place of those that an opportunity addresses: none, or the one with a simple initial value. -/
inductive Puts (lines : List Text) : Opportunity → List Text → Prop
  | nothing {opportunity : Opportunity} : opportunity.kind ≠ .simplifyInitializer → opportunity.kind ≠ .renameIdentifier →
      Puts lines opportunity []
  | line {index : Nat} {line new constant : Text} : lines[index]? = some line → Edit.simplified? line constant = some new →
      Puts lines ⟨.simplifyInitializer, index, index, constant⟩ [new]

/-- The text of a shader with other lines in the place of those that an opportunity addresses. -/
def spliced (opportunity : Opportunity) (shader : Shader) (new : List Text) : Text :=
  splice shader.text opportunity.first opportunity.last new

/-- What an opportunity makes of the text of a shader if it addresses lines. -/
structure Replaces (opportunity : Opportunity) (shader candidate : Shader) (new : List Text) : Prop where
  puts : Puts shader.lines opportunity new
  ordered : opportunity.first ≤ opportunity.last
  inside : opportunity.last < shader.lines.length
  text : candidate.text = ended (leveled (opportunity.spliced shader new))
  kept : candidate.text = ended (opportunity.spliced shader new) ↔ LineFed (opportunity.spliced shader [])

variable {shader : Shader} {opportunity : Opportunity}

theorem replaces_of_lines {lines new : List Text} (returnless : Returnless shader.text) (puts : Puts shader.lines opportunity new)
    (ordered : opportunity.first ≤ opportunity.last) (inside : opportunity.last < shader.lines.length)
    (unbroken : ∀ line ∈ new, Unbroken line)
    (same : lines = shader.lines.take opportunity.first ++ (new ++ shader.lines.drop (opportunity.last + 1))) :
    opportunity.Replaces shader (shader.withLines lines) new := by
  have text : (shader.withLines lines).text = ended (leveled (opportunity.spliced shader new)) := by
    rw [same]
    exact unlines_splice returnless (Nat.lt_of_le_of_lt ordered inside) ordered unbroken
  refine ⟨puts, ordered, inside, text, ?_⟩
  rw [text, ended_leveled_eq_iff]
  exact lineFed_splice_iff unbroken

/-- Joining the lines of a shader, or following an opportunity that addresses some of them, makes a line feed of every break
that stays and ends the last line; nothing else of the text changes.  So the text stays as it is, up to a line feed at its
end, exactly where all breaks that stay are line feeds. -/
theorem apply_text (shader : Shader) (returnless : Returnless shader.text) :
    ((shader.withLines shader.lines).text = ended (leveled shader.text) ∧
        ((shader.withLines shader.lines).text = ended shader.text ↔ LineFed shader.text)) ∧
      ∀ (rules : Rules) (context : Context), ∀ opportunity ∈ shader.opportunities rules,
        opportunity.kind ≠ .renameIdentifier →
          ∃ candidate new, opportunity.apply shader context = .ok (candidate, context) ∧
            opportunity.Replaces shader candidate new := by
  have joined : (shader.withLines shader.lines).text = ended (leveled shader.text) := unlines_lines returnless
  refine ⟨⟨joined, by rw [joined, ended_leveled_eq_iff]⟩, ?_⟩
  intro rules context opportunity member kind
  obtain ⟨lines, context', applied, change⟩ := exists_change member context
  have unbroken := change.unbroken
  cases change with
  | removed dispensable ordered inside =>
    refine ⟨_, [], applied, replaces_of_lines returnless (.nothing dispensable.removes.1 kind) ordered inside ?_ rfl⟩
    exact fun line none => (List.not_mem_nil none).elim
  | @simplified index line constant initial declaration here offered declared valued =>
    have inside := (List.getElem?_eq_some_iff.mp here).1
    have replaced := List.set_eq_take_append_cons_drop (l := shader.lines) (i := index) (a := declaration.lead ++ constant ++ [';'])
    rw [if_pos inside] at replaced
    refine ⟨_, [declaration.lead ++ constant ++ [';']], applied,
      replaces_of_lines returnless (.line here (Edit.simplified?_eq declared valued)) (Nat.le_refl _) inside ?_ replaced⟩
    intro other same
    obtain rfl := List.mem_singleton.mp same
    exact unbroken _ (List.mem_of_getElem? (List.getElem?_set_self inside))
  | renamed here renamable => exact absurd rfl kind

/-- A shader with a form feed in a comment. -/
def formFeed : Shader := ⟨"\nfloat f; // a\x0cb\n".toList, [], .default⟩

/-- Where the blank line in front is taken away, the rest of the comment comes to stand on a line of its own. -/
theorem apply_text_formFeed :
    Returnless formFeed.text ∧ ⟨.removeBlankOrComment, 0, 0, []⟩ ∈ formFeed.opportunities ⟨false, .default⟩ ∧
      ∀ context, ∃ candidate, apply ⟨.removeBlankOrComment, 0, 0, []⟩ formFeed context = .ok (candidate, context) ∧
        candidate.text = "float f; // a\nb\n".toList ∧
        candidate.text ≠ ended (spliced ⟨.removeBlankOrComment, 0, 0, []⟩ formFeed []) := by
  have returnless : Returnless formFeed.text := by
    unfold Returnless
    decide
  have member : ⟨.removeBlankOrComment, 0, 0, []⟩ ∈ formFeed.opportunities ⟨false, .default⟩ := by decide +kernel
  refine ⟨returnless, member, fun context => ?_⟩
  obtain ⟨candidate, new, applied, replaces⟩ := (apply_text formFeed returnless).2 _ context _ member (by decide)
  have none : new = [] := by
    cases replaces.puts with
    | nothing => rfl
  subst none
  refine ⟨candidate, applied, ?_, fun same => ?_⟩
  · rw [replaces.text]
    decide +kernel
  · have fed := replaces.kept.mp same '\x0c' (by decide +kernel)
    revert fed
    decide

end ShaderShrink.Opportunity
