import ShaderShrink.Proofs.Opportunity.Candidate
import ShaderShrink.Proofs.Shader.Declared

/-!
# Used declarations

Where a statement goes, or an initial value becomes a constant, the line may have declared names that are used on other
lines.  The name that leads the line is looked at: the statement stays where it is used, and the constant is put behind
it.  No other name that the line declares is looked at, and none is declared there any more.
-/

namespace ShaderShrink.Opportunity

open Text

/-- Whether the line of an opportunity declares a name when the opportunity has been followed. -/
def StillDeclares (opportunity : Opportunity) (candidate : Shader) (name : Text) : Prop :=
  opportunity.kind ≠ .removeStatement ∧
    ∃ line, candidate.lines[opportunity.first]? = some line ∧ name ∈ Code.declaredNames (Code.ofLine line)

/-- The brackets of a constant are closed, and it is one expression. -/
theorem plain_of_offered {version : Version} {code constant : Text} (offered : newInitial? version code = some constant) :
    constant.foldl Code.bracketsBehind 0 = 0 ∧ ∀ c ∈ constant, Code.endsStatement c = false ∧ c ≠ ',' := by
  refine ⟨of_offered (p := fun constant => constant.foldl Code.bracketsBehind 0 = 0) (by decide) offered, ?_⟩
  intro c member
  rcases constant_chars_of_offered offered c member with inside | rfl | rfl | rfl
  · have apart : ∀ d : Char, isWord d = false → c ≠ d := by
      rintro d other rfl
      rw [inside] at other
      cases other
    simp [Code.endsStatement, apart ';' (by decide), apart '{' (by decide), apart '}' (by decide), apart ',' (by decide)]
  all_goals decide

variable {rules : Rules} {shader : Shader} {opportunity : Opportunity} {line : Text}

/-- Of the names that are used on other lines, a line from which a statement or an initial value goes still declares the
one that leads it, which it declared before, and no other. -/
theorem apply_keeps_leading_name (member : opportunity ∈ shader.opportunities rules)
    (kind : opportunity.kind = .removeStatement ∨ opportunity.kind = .simplifyInitializer)
    (here : shader.lines[opportunity.first]? = some line) (context : Context) :
    ∃ candidate, opportunity.apply shader context = .ok (candidate, context) ∧
      ∀ name, usedElsewhere (Outline.ofLines shader.lines) opportunity.first name = true →
        (opportunity.StillDeclares candidate name ↔ Code.Leads (Code.ofLine line) name) ∧
        (Code.Leads (Code.ofLine line) name → name ∈ Code.declaredNames (Code.ofLine line)) := by
  obtain ⟨lines, context', applied, change⟩ := exists_change member context
  have lines_eq := change.lines_eq
  cases origin_of_mem member with
  | @statement place statement =>
    cases change
    refine ⟨_, applied, fun name used => ⟨iff_of_false (fun still => still.1 rfl) fun leads => ?_, fun leads =>
      leads.mem_declaredNames⟩⟩
    obtain ⟨declaration, declared, rfl⟩ := Code.exists_declaration_iff.mpr leads
    obtain ⟨-, text, there, code⟩ := Outline.of_mem_ofLines statement.listed
    obtain rfl : line = text := Option.some.inj (here.symm.trans there)
    rw [statement.unused declaration (code ▸ declared)] at used
    cases used
  | initializer =>
    cases change with
    | removed dispensable => exact absurd rfl dispensable.removes.1
    | @simplified _ _ _ _ declaration there offered declared valued =>
      obtain rfl := Option.some.inj (here.symm.trans there)
      refine ⟨_, applied, fun name _ => ⟨?_, fun leads => leads.mem_declaredNames⟩⟩
      obtain ⟨flat, plain⟩ := plain_of_offered offered
      have names := Code.declaredNames_lead declared valued (constant_of_offered offered).tight flat plain
      have inside := (List.getElem?_eq_some_iff.mp here).1
      rw [← Code.exists_declaration_iff, StillDeclares, lines_eq]
      constructor
      · rintro ⟨-, line', there', member⟩
        rw [List.getElem?_set_self inside] at there'
        cases there'
        rw [names, List.mem_singleton] at member
        exact ⟨declaration, declared, member.symm⟩
      · rintro ⟨declaration', declared', rfl⟩
        obtain rfl := Option.some.inj (declared.symm.trans declared')
        refine ⟨(by simp), _, List.getElem?_set_self inside, ?_⟩
        rw [names, List.mem_singleton]
  | blank | block | name => rcases kind with kind | kind <;> cases kind

/-- A shader that declares two names on one line and uses both on another. -/
def twoOnOneLine : Shader :=
  ⟨"void main() \x7b\n  float a = 0.5; float b = 0.5;\n  gl_FragColor = vec4(a, b, a, b);\n\x7d\n".toList, [], .default⟩

/-- The second name is declared no more. -/
theorem apply_keeps_leading_name_twoOnOneLine :
    ∃ candidate, (⟨.simplifyInitializer, 1, 1, "1.0".toList⟩ : Opportunity).apply twoOnOneLine
        (.create 0 ⟨false, .default⟩) = .ok (candidate, .create 0 ⟨false, .default⟩) ∧
      StillDeclares ⟨.simplifyInitializer, 1, 1, "1.0".toList⟩ candidate ['a'] ∧
      ['b'] ∈ Code.declaredNames "  float a = 0.5; float b = 0.5;".toList ∧
      ¬ StillDeclares ⟨.simplifyInitializer, 1, 1, "1.0".toList⟩ candidate ['b'] := by
  have member : ⟨.simplifyInitializer, 1, 1, "1.0".toList⟩ ∈ twoOnOneLine.opportunities ⟨false, .default⟩ := by
    decide +kernel
  have here : twoOnOneLine.lines[1]? = some "  float a = 0.5; float b = 0.5;".toList := by decide +kernel
  have code : Code.ofLine "  float a = 0.5; float b = 0.5;".toList = "  float a = 0.5; float b = 0.5;".toList := by
    decide +kernel
  have headed : Code.heading? "  float a = 0.5; float b = 0.5;".toList =
      some ("float".toList, ['a'], '=' :: (" 0.5; float b = 0.5".toList ++ [';'])) := by decide +kernel
  obtain ⟨candidate, applied, names⟩ := apply_keeps_leading_name member (.inr rfl) here (.create 0 ⟨false, .default⟩)
  have first := names ['a'] (by decide +kernel)
  have second := names ['b'] (by decide +kernel)
  rw [code] at first second
  refine ⟨candidate, applied, first.1.mpr ⟨_, _, headed, .initial (by decide)⟩, by decide +kernel, fun still => ?_⟩
  obtain ⟨type, rest, headed', -⟩ := second.1.mp still
  rw [headed] at headed'
  cases headed'

end ShaderShrink.Opportunity
