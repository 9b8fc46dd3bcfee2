import ShaderShrink.Proofs.Opportunity.Effort
import ShaderShrink.Proofs.Shader.Directive

/-!
# The version directive under change

If the version directive is the first line of a shader, it stays there: it is no blank line and no comment, it lies
in no function, and it declares nothing.  Only renaming goes through the directive too, and changes it when the name
is one of its words.  And a directive without a profile is read on below its line, so that it takes up a profile
from a line that names one when the lines between the two are gone.
-/

namespace ShaderShrink

open Text

namespace Shader

/-- Whether the first line of a shader is its version directive, and nothing below it can be taken for the rest of
the directive. -/
structure DirectiveFirst (shader : Shader) (line digits : Text) (profile : Profile) : Prop where
  first : shader.lines.head? = some line
  own : Version.directiveAt? line = some (digits, profile)
  whole : Version.directive? shader.text = some (digits, profile)
  alone : profile = .unspecified → ∀ other ∈ shader.lines, ¬ Version.NamesProfile other

/-- Whether a shader comes of another one by following an opportunity that is found there and renames none of the
given words. -/
def FollowsSparing (spared : List Text) (a b : Shader) : Prop :=
  ∃ rules opportunity context context', opportunity ∈ a.opportunities rules ∧
    opportunity.apply a context = .ok (b, context') ∧
    (opportunity.kind = .renameIdentifier → opportunity.detail ∉ spared)

end Shader

namespace Version

/-- What can be seen on a line is still there without the white space around it. -/
theorem mem_trim {c : Char} {t : Text} (visible : isBlank c = false) (member : c ∈ t) : c ∈ trim t := by
  have apart : ∀ {blanks : Text}, (∀ d ∈ blanks, isBlank d = true) → c ∉ blanks := by
    intro blanks blank inside
    rw [blank c inside] at visible
    cases visible
  obtain ⟨front, blank, whole⟩ := exists_trimLeft t
  obtain ⟨back, blank', whole'⟩ := exists_trimRight (trimLeft t)
  rw [whole, whole'] at member
  rcases List.mem_append.mp member with inside | inside
  · exact absurd inside (apart blank)
  · exact (List.mem_append.mp inside).resolve_right (apart blank')

/-- A statement names no profile. -/
theorem not_namesProfile_statement (t : Text) : ¬ NamesProfile (t ++ [';']) := by
  rintro ⟨profile, -, named⟩
  have member := mem_trim (t := t ++ [';']) (by decide : isBlank ';' = false) (List.mem_append_right t List.mem_cons_self)
  rw [named] at member
  cases profile <;> exact absurd member (by decide)

/-- Renaming makes no profile. -/
theorem namesProfile_of_replaceWord {name line : Text} {n : Nat} (isName : IsWord name)
    (named : NamesProfile (replaceWord name (Context.nameOf n) line)) : NamesProfile line := by
  obtain ⟨profile, listed, named⟩ := named
  have keeps : KeepsWords (replacing name (Context.nameOf n)) :=
    keepsWords_replacing (isWord_of_isIdentifier (Context.isIdentifier_nameOf n))
  rw [replaceWord_eq isName, trim_mapWords keeps] at named
  have single : ∀ profile ∈ [Profile.es, .core, .compatibility], words profile.name.toList = [profile.name.toList] := by
    decide
  have notFresh : Code.isFreshName profile.name.toList = false := by cases profile <;> decide
  -- the one word there is cannot be the new name, so it is an old one
  have change : ∀ w, replacing name (Context.nameOf n) w = profile.name.toList → w = profile.name.toList := by
    intro w same
    unfold replacing at same
    split_ifs at same with replaced
    · rw [← same, Context.isFreshName_nameOf] at notFresh
      cases notFresh
    · exact same
  have listed' := words_mapWords keeps (trim line)
  rw [named, single profile listed] at listed'
  obtain ⟨w, own, changed⟩ := List.map_eq_singleton_iff.mp listed'.symm
  obtain rfl := change w changed
  refine ⟨profile, listed, ?_⟩
  rw [← named]
  refine (mapWords_id_of fun v member => ?_).symm
  rw [own] at member
  rw [List.mem_singleton.mp member, changed]

end Version

namespace Opportunity

variable {rules : Rules} {shader : Shader} {context context' : Context} {opportunity : Opportunity} {lines : List Text}
  {line digits : Text} {profile : Profile}

/-- The line of a directive is neither blank nor a comment. -/
theorem not_isBlankOrComment_of_directive {found : Text × Profile} (directive : Version.directiveAt? line = some found) :
    isBlankOrComment line = false := by
  obtain ⟨blanks, rest, blank, rfl⟩ := Version.exists_sign directive
  have trimmed : trim (blanks ++ '#' :: rest) = '#' :: trimRight rest := by
    rw [trim, trimLeft_append blank rfl, show '#' :: rest = [] ++ '#' :: rest from rfl,
      trimRight_append_cons (by decide), List.nil_append]
  rw [isBlankOrComment, trimmed]
  rfl

/-- A change that renames no word of the directive leaves the first line where it is. -/
theorem Change.head?_eq (change : Change rules shader context opportunity lines context')
    (start : shader.DirectiveFirst line digits profile)
    (spares : opportunity.kind = .renameIdentifier → opportunity.detail ∉ words line) : lines.head? = some line := by
  obtain ⟨rest, listed⟩ : ∃ rest, shader.lines = line :: rest :=
    ⟨shader.lines.tail, (List.cons_head?_tail start.first).symm⟩
  cases change with
  | @removed kind first last dispensable ordered inside =>
    have later : 0 < first := by
      cases dispensable with
      | @blank _ other here comment =>
        refine Nat.pos_of_ne_zero ?_
        rintro rfl
        rw [listed] at here
        cases here
        rw [not_isBlankOrComment_of_directive start.own] at comment
        cases comment
      | code _ positive _ => exact positive
    obtain ⟨n, rfl⟩ := Nat.exists_eq_succ_of_ne_zero (Nat.ne_of_gt later)
    rw [listed, List.take_succ_cons]
    rfl
  | @simplified index other constant initial declaration here offered declared valued =>
    cases index with
    | zero =>
      rw [listed] at here
      cases here
      rw [Version.declaration?_of_directive start.own] at declared
      cases declared
    | succ index => rw [listed]; rfl
  | @renamed index other name here renamable =>
    obtain ⟨declaration, declared, rfl⟩ := renamable.declared
    have isName := isWord_of_isIdentifier (Code.name_mem_words declared).1
    have apart : declaration.name ∉ words line := spares rfl
    rw [listed, List.map_cons, List.head?_cons, replaceWord_eq isName, mapWords_id_of]
    intro w member
    refine if_neg ?_
    rintro rfl
    exact apart member

/-- No change makes a line that names a profile. -/
theorem Change.not_namesProfile (change : Change rules shader context opportunity lines context')
    (alone : ∀ other ∈ shader.lines, ¬ Version.NamesProfile other) : ∀ other ∈ lines, ¬ Version.NamesProfile other := by
  cases change with
  | removed _ _ _ =>
    intro other member
    rcases List.mem_append.mp member with front | back
    · exact alone other (List.mem_of_mem_take front)
    · exact alone other (List.mem_of_mem_drop back)
  | simplified _ _ _ _ =>
    intro other member
    rcases List.mem_or_eq_of_mem_set member with old | rfl
    · exact alone other old
    · exact Version.not_namesProfile_statement _
  | renamed _ renamable =>
    intro other member named
    obtain ⟨declaration, declared, rfl⟩ := renamable.declared
    obtain ⟨old, inside, rfl⟩ := List.mem_map.mp member
    exact alone old inside
      (Version.namesProfile_of_replaceWord (isWord_of_isIdentifier (Code.name_mem_words declared).1) named)

/-- After a change that renames no word of it, the directive is still the first line. -/
theorem Change.directiveFirst (change : Change rules shader context opportunity lines context')
    (start : shader.DirectiveFirst line digits profile)
    (spares : opportunity.kind = .renameIdentifier → opportunity.detail ∉ words line) :
    (shader.withLines lines).DirectiveFirst line digits profile := by
  have first := change.head?_eq start spares
  have alone := fun plain => change.not_namesProfile (start.alone plain)
  obtain ⟨rest, rfl⟩ : ∃ rest, lines = line :: rest := ⟨lines.tail, (List.cons_head?_tail first).symm⟩
  refine ⟨?_, start.own, ?_, ?_⟩
  · rw [change.lines_eq]
    rfl
  · exact Version.directive?_unlines change.unbroken start.own
      fun plain other member => alone plain other (List.mem_cons_of_mem line member)
  · rw [change.lines_eq]
    exact alone

end Opportunity

namespace Shader

variable {line digits : Text} {profile : Profile}

theorem FollowsSparing.directiveFirst {a b : Shader} (follows : FollowsSparing (words line) a b)
    (start : a.DirectiveFirst line digits profile) : b.DirectiveFirst line digits profile := by
  obtain ⟨rules, opportunity, context, context', member, applied, spares⟩ := follows
  obtain ⟨lines, rfl, change⟩ := Opportunity.change_of_apply member applied
  exact change.directiveFirst start spares

theorem DirectiveFirst.of_chain {shader : Shader} {later : List Shader} (start : shader.DirectiveFirst line digits profile)
    (chain : (shader :: later).IsChain (FollowsSparing (words line))) :
    ∀ candidate ∈ later, candidate.DirectiveFirst line digits profile := by
  induction later generalizing shader with
  | nil => exact fun _ member => nomatch member
  | cons next rest ih =>
    obtain ⟨follows, chain⟩ := List.isChain_cons_cons.mp chain
    have start := follows.directiveFirst start
    intro candidate member
    rcases List.mem_cons.mp member with rfl | later
    · exact start
    · exact ih start chain candidate later

/-- As long as no word of the directive is renamed, every shader that comes of opportunities followed one after
another begins with the version directive that the first one begins with, and is in the same version. -/
theorem directive_survives {shader : Shader} {later : List Shader} (start : shader.DirectiveFirst line digits profile)
    (chain : (shader :: later).IsChain (FollowsSparing (words line))) :
    ∀ candidate ∈ later, candidate.lines.head? = some line ∧
      Version.ofText candidate.text = Version.ofText shader.text := by
  intro candidate member
  have kept := start.of_chain chain candidate member
  exact ⟨kept.first, by rw [Version.ofText, Version.ofText, kept.whole, start.whole]⟩

/-- A shader with a version directive and an initial value. -/
def directiveAndValue : Shader :=
  ⟨"#version 310 es\nvoid main() \x7b\n  int a = 2;\n\x7d\n".toList, [], ⟨310, .es⟩⟩

/-- The directive stays when the initial value is simplified. -/
theorem directive_survives_directiveAndValue :
    ∃ candidate, FollowsSparing (words "#version 310 es".toList) directiveAndValue candidate ∧
      candidate.lines.head? = some "#version 310 es".toList ∧
      Version.ofText candidate.text = Version.ofText directiveAndValue.text := by
  have member : ⟨.simplifyInitializer, 2, 2, ['1']⟩ ∈ directiveAndValue.opportunities ⟨false, ⟨310, .es⟩⟩ := by
    decide +kernel
  obtain ⟨lines, context', applied, -⟩ := Opportunity.exists_change member (.create 0 ⟨false, ⟨310, .es⟩⟩)
  have follows : FollowsSparing (words "#version 310 es".toList) directiveAndValue (directiveAndValue.withLines lines) :=
    ⟨_, _, _, context', member, applied, fun renames => nomatch renames⟩
  have start : directiveAndValue.DirectiveFirst "#version 310 es".toList "310".toList .es :=
    ⟨by decide +kernel, by decide +kernel, by decide +kernel, fun plain => nomatch plain⟩
  exact ⟨_, follows, directive_survives start (.cons_cons follows (.singleton _)) _ List.mem_cons_self⟩

end Shader

end ShaderShrink
