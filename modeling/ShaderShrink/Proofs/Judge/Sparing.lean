import ShaderShrink.Judge.Choice
import ShaderShrink.Proofs.Reduction.Directory

/-!
# What judges leave alone

A judge reads the candidate and the image that the tools made of it.  It writes nothing but the corpus, which
is a directory of the working directory and none of a reduction's own files.
-/

namespace ShaderShrink

open Effect

variable {σ α β : Type} {work scratch : Path}

/-- Whether the tools leave all on which the progress in a working directory rests alone. -/
structure Dispatcher.Spares (dispatcher : Dispatcher σ) (work scratch : Path) : Prop where
  render : ∀ path skip, (dispatcher.render path (scratch.child "image.png") skip).Spares work scratch
  validate : ∀ path, (dispatcher.validate path).Spares work scratch

/-! ## Sparing actions -/

namespace Action.Spares

theorem bind {action : Action σ α} {next : α → Action σ β} (first : action.Spares work scratch)
    (rest : ∀ value, (next value).Spares work scratch) : (action >>= next).Spares work scratch :=
  fun world same standing => .bind (first world same standing) fun value middle _ agree =>
    rest value middle (agree.scratch.trans same) (agree.standing (fun _ => Progress.own_visited) standing)

/-- What leaves the world as it is spares everything. -/
theorem of_after {action : Action σ α} (still : ∀ world, after action world = world) :
    action.Spares work scratch := fun world _ _ => (still world).symm ▸ .refl _ world

theorem log (level : Level) (message : String) :
    (Action.log level message : Action σ Unit).Spares work scratch := fun world _ _ => ⟨rfl, .refl _ world.files⟩

/-- Whether a path touches nothing on which progress rests, once the working directory stands. -/
private def Safe (work path : Path) : Prop :=
  ∀ tree : FileTree, tree.Standing work → tree.Clear (Progress.Own work) path

private theorem copy {target : Path} (safe : Safe work target) (source : Path) :
    (Action.copy source target : Action σ Unit).Spares work scratch :=
  fun world _ standing => Action.copy_agrees (safe world.files standing)

private theorem writeJson {target : Path} (safe : Safe work target) (value : Json) :
    (Action.writeJson target value : Action σ Unit).Spares work scratch :=
  fun world _ standing => Action.writeJson_agrees (safe world.files standing) value

end Action.Spares

namespace Judge

/-! ## The corpus -/

private theorem digitChar_ne {c : Char} (small : ∀ m < 16, Nat.digitChar m ≠ c) (star : '*' ≠ c) (n : Nat) :
    Nat.digitChar n ≠ c := by
  by_cases bound : n < 16
  · exact small n bound
  · unfold Nat.digitChar
    repeat rw [if_neg (by omega)]
    exact star

/-- A digest is made of hexadecimal digits. -/
theorem notMem_digest (content : ByteArray) {c : Char} (small : ∀ m < 16, Nat.digitChar m ≠ c) (star : '*' ≠ c) :
    c ∉ (Blake3.digest content).toList := by
  simp only [Blake3.digest, Blake3.hex, String.toList_ofList, List.mem_flatMap, List.mem_cons,
    List.not_mem_nil, or_false, not_exists, not_and, not_or]
  exact fun byte _ => ⟨(digitChar_ne small star _).symm, (digitChar_ne small star _).symm⟩

private theorem plain_digest (content : ByteArray) : '/' ∉ (Blake3.digest content).toList :=
  notMem_digest content (by decide) (by decide)

private theorem corpusName_ne : corpusName ≠ ".." := by decide

private theorem not_isOwn_corpusName : ¬ Progress.IsOwn corpusName := by decide

/-- Neither the corpus nor a file in it is one of a reduction's own files. -/
private theorem safe_corpus : Action.Spares.Safe work (work.entry corpusName) := by
  rintro tree standing place own visited
  rcases (Path.mem_entry_visited work corpusName_ne).mp visited with way | rfl
  · exact standing place way
  · rcases own with way | ⟨name, isOwn, same⟩
    · exact standing _ way
    · obtain rfl := List.singleton_inj.mp (List.append_cancel_left same)
      exact absurd isOwn not_isOwn_corpusName

/-- What is named after a digest has a name of its own. -/
theorem isName_record (content : ByteArray) {ending : String} (plain : '/' ∉ ending.toList) (long : 3 ≤ ending.length) :
    Path.IsName (Blake3.digest content ++ ending) := Step.isName_append (plain_digest content) plain long

private theorem safe_record (content : ByteArray) {ending : String} (plain : '/' ∉ ending.toList)
    (long : 3 ≤ ending.length) :
    Action.Spares.Safe work ((work.child corpusName).child (Blake3.digest content ++ ending)) := by
  have isName := isName_record content plain long
  have corpus : Path.IsName corpusName := by decide
  rw [Path.child_of_isName work corpus, Path.child_of_isName _ isName]
  rintro tree standing place own visited
  rcases (Path.mem_entry_visited _ isName.2).mp visited with above | rfl
  · exact safe_corpus tree standing place own above
  · rcases own with way | ⟨name, -, same⟩
    · exact standing _ way
    · rw [Path.entry_place work corpusName_ne] at same
      exact absurd (congrArg List.length same) (by simp)

/-! ## Judges -/

theorem after_imageDigest (outcome : RenderOutcome) (world : World σ) :
    after outcome.imageDigest world = world := by
  refine Action.after_bind_eq rfl fun tree => ?_
  split
  · rfl
  · exact Action.after_bind_eq (Action.after_readBytes _ world) fun _ => rfl

theorem after_acceptsFiles (comparison : Comparison) (image reference : Path) (world : World σ) :
    after (comparison.acceptsFiles image reference) world = world := by
  have load : ∀ path, after (Picture.load path) world = world := fun path =>
    Action.after_bind_eq (Action.after_readBytes path world) fun _ => Action.after_ofExcept _ world
  refine Action.after_bind_eq (load image) fun _ => ?_
  exact Action.after_bind_eq (load reference) fun _ => rfl

private theorem judgeFuzzing_spares {dispatcher : Dispatcher σ} (spares : dispatcher.Spares work scratch)
    (shader : Shader) (path : Path) :
    (judgeFuzzing dispatcher (work.child corpusName) ⟨shader, path, scratch⟩).Spares work scratch := by
  unfold judgeFuzzing RenderOutcome.fingerprint
  simp only [bind_assoc, pure_bind]
  refine .bind (spares.render path false) fun outcome => ?_
  refine .bind (.of_after (after_imageDigest outcome)) fun image => ?_
  refine .bind (.of_after fun world => Action.after_isPresent _ world) fun present => ?_
  split
  · exact .of_after fun _ => rfl
  · refine .bind (.copy (safe_record _ (by decide) (by decide)) path) fun _ => ?_
    refine .bind (.of_after fun _ => rfl) fun tree => ?_
    split
    · refine .bind (.copy (safe_record _ (by decide) (by decide)) _) fun _ => ?_
      refine .bind (.writeJson (safe_record _ (by decide) (by decide)) _) fun _ => ?_
      exact .bind (.log _ _) fun _ => .of_after fun _ => rfl
    · refine .bind (.writeJson (safe_record _ (by decide) (by decide)) _) fun _ => ?_
      exact .bind (.log _ _) fun _ => .of_after fun _ => rfl

/-- Whether a judge writes into the corpus of a working directory alone. -/
def Keeps (judge : Judge) (work : Path) : Prop := ∀ corpus, judge = fuzzing corpus → corpus = work.child corpusName

/-- A judge leaves all own files of a reduction alone if the tools do. -/
theorem isInteresting_spares {judge : Judge} {dispatcher : Dispatcher σ} (keeps : judge.Keeps work)
    (spares : dispatcher.Spares work scratch) :
    Verdict.Spares (judge.isInteresting dispatcher) work scratch := by
  intro shader path
  cases judge with
  | always => exact .of_after fun _ => rfl
  | noImage pattern skipRender =>
    refine .bind (spares.render path skipRender) fun outcome => ?_
    refine .bind (.of_after fun _ => rfl) fun tree => ?_
    split
    · exact .of_after fun _ => rfl
    · exact .of_after (Action.after_ofExcept _)
  | image reference comparison =>
    refine .bind (spares.render path false) fun outcome => ?_
    refine .bind (.of_after fun _ => rfl) fun tree => ?_
    split
    · exact .of_after (after_acceptsFiles comparison _ reference)
    · exact .bind (.log _ _) fun _ => .of_after fun _ => rfl
  | validatorError pattern =>
    refine .bind (spares.validate path) fun outcome => ?_
    split
    · exact .of_after (Action.after_ofExcept _)
    · exact .of_after fun _ => rfl
  | fuzzing corpus =>
    obtain rfl := keeps corpus rfl
    exact judgeFuzzing_spares spares shader path

/-! ## Choosing a judge -/

/-- Choosing a judge makes nothing but the corpus. -/
theorem ofSettings_spares (settings : Settings) (reference : Option Path) :
    (ofSettings settings work reference : Action σ Judge).Spares work scratch := by
  have corpus : Path.IsName corpusName := by decide
  refine .bind (.of_after (Action.after_ofExcept _)) fun pattern => ?_
  split
  · exact .of_after fun _ => rfl
  · exact .of_after fun _ => rfl
  · rw [Path.child_of_isName work corpus]
    refine .bind ?_ fun _ => .of_after fun _ => rfl
    exact fun world _ standing => Action.makeDirectories_agrees (safe_corpus world.files standing)
  · split
    · exact .of_after fun _ => rfl
    · exact .of_after fun _ => rfl
  · exact .of_after (Action.after_ofExcept _)

private theorem ofComparison_keeps {settings : Settings} {reference : Option Path} {judge : Judge}
    (success : ofComparison settings reference = .ok judge) : judge.Keeps work := by
  rintro corpus rfl
  unfold ofComparison at success
  cases reference with
  | none => cases success
  | some image =>
    dsimp only at success
    cases chosen : comparison? settings with
    | error fault => rw [chosen] at success; cases success
    | ok comparison =>
      rw [chosen] at success
      cases comparison <;> cases success

/-- The judge that the settings ask for writes into the corpus of the working directory alone. -/
theorem ofSettings_keeps {settings : Settings} {reference : Option Path} {judge : Judge} {world left : World σ}
    (success : ofSettings settings work reference world = .ok judge left) : judge.Keeps work := by
  obtain ⟨pattern, -, success⟩ := Action.bind_ofExcept_ok success
  cases kind : settings.kind <;> simp only [kind] at success
  case noImage => cases success; exact fun _ same => nomatch same
  case alwaysReduce => cases success; exact fun _ same => nomatch same
  case fuzz =>
    obtain ⟨_, made, -, success⟩ := bind_ok success
    cases success
    rintro corpus same
    cases same
    rfl
  case validatorError =>
    cases pattern with
    | none => cases success
    | some pattern => cases success; exact fun _ same => nomatch same
  all_goals exact ofComparison_keeps (Action.ofExcept_eq_ok success).1

end Judge

end ShaderShrink
