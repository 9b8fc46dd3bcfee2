import ShaderShrink.Proofs.Reduction.Beginning
import ShaderShrink.Proofs.Reduction.Interest

/-!
# What finished calls end with

Over a sequence of calls whose judges decide by one property, the latest accepted step in the working directory has
the property at all times.  A call that ends with a final shader ends with one that has the property too, unless it
went on where no step was ever accepted: then nobody needs to have judged the shader that it began with.
-/

namespace ShaderShrink

open Effect
open Progress (Found Interesting Numbered)
open Shader (Legible)

variable {σ : Type} {shader work placed : Path} {base : String} {property : Property} {world entered left : World σ}

namespace Call

variable {call : Call σ} {driver : Driver σ}

/-- Whether the judge that a call makes decides by a property, whenever it answers. -/
def Decides (call : Call σ) (work : Path) (base : String) (property : Property) : Prop :=
  ∀ reference world verdict armed, Reduction.makeVerdict call.tools work call.settings reference world = .ok verdict armed →
    ∀ keepRejected stopOnError, (⟨verdict, work, keepRejected, stopOnError⟩ : Reducer σ).Decides base property

/-- The worlds behind the calls of a sequence, each call from what the one before it left. -/
def starts (shader work : Path) : List (Call σ) → World σ → List (Call σ × World σ)
  | [], _ => []
  | call :: calls, world => (call, world) :: starts shader work calls (after (call.run shader work) world)

/-- The judge of a driver is the one that its call made. -/
theorem driver?_decides (isShader : shader.IsShader base) (spare : Reduction.ToolsSpare call.tools work world.scratch)
    (decides : call.Decides work base property) (found : call.driver? shader work world = some (driver, entered)) :
    driver.reducer.Decides base property := by
  obtain ⟨intake, making, ready⟩ := enters_of_driver? found
  rename_i placed reference verdict taken armed
  have directory := (Reduction.intake_ok isShader intake).1
  have agree := after_ok making ▸ spare.makeVerdict call.settings reference taken
    (Reduction.scratch_of_intake isShader intake) (FileTree.standing_of_isDirectory directory)
  have directory := (agree.isDirectory fun _ => Progress.own_visited).trans directory
  rw [(Reduction.ready_ok directory ready).1.reducer]
  exact decides _ _ _ _ making _ _

/-- Taking the input in leaves the latest accepted step with the property. -/
theorem intake_interesting (settings : Settings) (isShader : shader.IsShader base) (settled : Settled work base False world)
    (interesting : Interesting property world.files work base) :
    Interesting property (after (Reduction.intake shader work settings) world).files work base := by
  cases stands : world.files.isDirectory work with
  | true =>
    have standing := FileTree.standing_of_isDirectory stands
    have agree : World.Agrees (Progress.Beside work (Preparation.inputNames base)) world
        (after (Reduction.intake shader work settings) world) :=
      Reduction.intake_agrees isShader (fun place _ visited => standing place visited) (Preparation.clear_inputNames standing)
    exact interesting.beside isShader.plain stands agree (Step.unrelated_inputNames base)
  | false =>
    have numbered := (Reduction.intake_numbered settings isShader settled.reachable (settled.absent stands)).1
    exact Progress.interesting_of_none fun step found =>
      absurd (numbered.below step found) (Nat.not_lt_of_le (numbered.positive step found))

/-- What a driver begins with is founded, if the latest accepted step has the property. -/
theorem driver?_founded (isShader : shader.IsShader base) (apart : Apart work base world.scratch)
    (spare : Reduction.ToolsSpare call.tools work world.scratch) (settled : Settled work base False world)
    (interesting : Interesting property world.files work base)
    (found : call.driver? shader work world = some (driver, entered))
    (readsBack : Metadata.ReadsBack driver.state.shader.metadata) :
    ∃ placed reference taken, Reduction.intake shader work call.settings world = .ok (placed, reference) taken ∧
      Entrance call work base placed taken driver entered ∧
      driver.reducer.Founded base property (fun start => Legible entered.files placed start.text start.metadata)
        driver.first driver.state entered := by
  obtain ⟨placed, reference, taken, intake, entrance⟩ := driver?_some isShader apart spare found
  obtain ⟨-, numbered, -⟩ := driver?_numbered isShader apart spare settled found
  obtain ⟨verdict, made⟩ := entrance.made
  have sameWork : driver.reducer.work = work := by rw [made.reducer]
  have taking := after_ok intake ▸ intake_interesting call.settings isShader settled interesting
  have interesting := taking.own isShader.plain (Reduction.intake_ok isShader intake).1 entrance.agree
  have fresh : call.settings.continuing = false → ∀ step, ¬ Found entered.files work base step := by
    intro fresh step found
    have first : driver.first = 1 := by simp only [made.first, fresh, Progress.start, Bool.false_eq_true, ↓reduceIte]
    exact absurd (numbered.below step found) (by have := numbered.positive step found; omega)
  have secures : Progress.Secures entered.files work base (fun start => Legible entered.files placed start.text start.metadata)
      driver.state.shader := entrance.secures fresh entrance.legible_of_none
  subst sameWork
  refine ⟨placed, reference, taken, intake, entrance, entrance.directory, ?_, secures, readsBack, interesting, ?_⟩
  · simpa only [Int.toNat_natCast] using numbered.below
  · intro resumed
    cases latest : Progress.latestSuccess? entered.files driver.reducer.work base with
    | none => exact .inr rfl
    | some number =>
      have continuing : call.settings.continuing = true := by simpa [made.isInitial] using resumed
      have legible := made.legible
      simp only [continuing, Progress.start, ↓reduceIte, entrance.isShader.stem, latest] at legible
      rw [Path.child_of_isName _ (Step.isName_fileName isShader.plain number .success)] at legible
      exact .inl (interesting number latest _ _ legible)

/-- However a call ends, the latest accepted step has the property. -/
theorem run_interesting (isShader : shader.IsShader base) (apart : Apart work base world.scratch)
    (spare : Reduction.ToolsSpare call.tools work world.scratch) (settled : Settled work base False world)
    (interesting : Interesting property world.files work base) (decides : call.Decides work base property)
    (readsBack : ∀ driver entered, call.driver? shader work world = some (driver, entered) →
      Metadata.ReadsBack driver.state.shader.metadata) :
    Interesting property (after (call.run shader work) world).files work base := by
  have taking : Interesting property (after (Reduction.intake shader work call.settings) world).files work base :=
    intake_interesting call.settings isShader settled interesting
  have reported : ∀ {a : World σ} (fault : Fault), a.files.isDirectory work = true → Interesting property a.files work base →
      Interesting property (after (Reduction.report work base fault : Action σ ReductionResult) a).files work base := by
    intro a fault directory interesting
    have agree := Reduction.report_agrees (α := ReductionResult) isShader directory fault
    rw [isShader.stem] at agree
    exact interesting.beside isShader.plain directory agree (Step.unrelated_faultFileName base)
  have reducing : ∀ {driver : Driver σ} {entered : World σ}, call.driver? shader work world = some (driver, entered) →
      (leaves (driver.reduce entered)).2.files.isDirectory work = true ∧
        Interesting property (leaves (driver.reduce entered)).2.files work base := by
    intro driver entered found
    obtain ⟨⟨sameBase, directory⟩, -, chain⟩ := driver_chain isShader apart spare settled (fun none => none.elim) found
    obtain ⟨placed, reference, taken, intake, entrance, founded⟩ :=
      driver?_founded isShader apart spare settled interesting found (readsBack driver entered found)
    obtain ⟨verdict, made⟩ := entrance.made
    have sameWork : driver.reducer.work = work := by rw [made.reducer]
    have judges := driver?_decides isShader spare decides found
    refine ⟨(Onward.chain_ends chain).extends_.directory directory, ?_⟩
    subst sameBase sameWork
    exact Reducer.reduce_interesting founded entrance.careful judges made.running
  have runs := run_cases call isShader work world
  unfold after
  generalize call.run shader work world = result at runs ⊢
  cases runs with
  | refused failed => exact after_error failed ▸ taking
  | @unready _ reference _ taken left intake failed =>
    have directory := (Reduction.intake_ok isShader intake).1
    have sameScratch := Reduction.scratch_of_intake isShader intake
    have agree := after_error failed ▸ (sameScratch ▸ spare).setUp call.settings _ reference directory
    have taking := after_ok intake ▸ taking
    exact reported _ ((agree.isDirectory fun _ => Progress.own_visited).trans directory)
      (taking.own isShader.plain directory agree)
  | failed found reduced =>
    obtain ⟨directory, interesting⟩ := reducing found
    rw [reduced] at directory interesting
    exact reported _ directory interesting
  | finished found reduced =>
    obtain ⟨-, interesting⟩ := reducing found
    rw [reduced] at interesting
    exact interesting

/-- Where a call went on without accepted steps, it ends with the placed shader that it found. -/
structure Unjudged (call : Call σ) (shader work : Path) (base : String) (world left : World σ) (final : Shader) : Prop where
  continuing : call.settings.continuing = true
  unmoved : ∀ step ∈ Progress.steps left.files work base, step.outcome ≠ .success
  placed : ∃ driver entered placed reference taken, call.driver? shader work world = some (driver, entered) ∧
    Reduction.intake shader work call.settings world = .ok (placed, reference) taken ∧
    Legible entered.files placed final.text final.metadata

/-- A call that ends with a final shader ends with one that has the property, or it went on without accepted steps;
and its final artifact holds the shader. -/
theorem run_upshot {result : ReductionResult} (isShader : shader.IsShader base) (apart : Apart work base world.scratch)
    (spare : Reduction.ToolsSpare call.tools work world.scratch) (settled : Settled work base False world)
    (interesting : Interesting property world.files work base) (decides : call.Decides work base property)
    (readsBack : ∀ driver entered, call.driver? shader work world = some (driver, entered) →
      Metadata.ReadsBack driver.state.shader.metadata)
    (success : call.run shader work world = .ok result left) :
    result.artifact.Holds left.files result.shader ∧
      (property.Met result.shader ∨ call.Unjudged shader work base world left result.shader) := by
  have runs := run_cases call isShader work world
  rw [success] at runs
  generalize ended : (EStateM.Result.ok result left : EStateM.Result Fault (World σ) ReductionResult) = outcome at runs
  cases runs with
  | refused _ => cases ended
  | unready _ _ => exact absurd ended.symm (Reduction.report_ne_ok work base _ _ _)
  | failed _ _ => exact absurd ended.symm (Reduction.report_ne_ok work base _ _ _)
  | @finished driver entered _ _ _ found reduced =>
    cases ended
    obtain ⟨placed, reference, taken, intake, entrance, founded⟩ :=
      driver?_founded isShader apart spare settled interesting found (readsBack driver entered found)
    obtain ⟨verdict, made⟩ := entrance.made
    obtain ⟨-, -, chain⟩ := driver_chain isShader apart spare settled (fun none => none.elim) found
    rw [reduced] at chain
    have extends_ := (Onward.chain_ends chain).extends_
    have sameWork : driver.reducer.work = work := by rw [made.reducer]
    have sameBase : driver.base = base := made.base.trans entrance.isShader.stem
    have judges := driver?_decides isShader spare decides found
    subst sameBase sameWork
    obtain ⟨holds, upshot⟩ := Reducer.reduce_vouched founded entrance.careful judges made.running reduced
    refine ⟨holds, upshot.imp_right fun ⟨resumed, same, unmoved⟩ => ?_⟩
    have unmoved := Progress.latestSuccess?_eq_none.mp unmoved
    have begun : Progress.latestSuccess? entered.files driver.reducer.work driver.base = none := by
      refine Progress.latestSuccess?_eq_none.mpr fun step member => unmoved step ?_
      obtain ⟨directory, inside⟩ := Progress.mem_steps.mp member
      exact Progress.mem_steps.mpr ⟨extends_.directory directory, extends_.found step inside⟩
    refine ⟨by simpa [made.isInitial] using resumed, unmoved, driver, entered, placed, reference, taken, found, intake, ?_⟩
    rw [same]
    exact entrance.legible_of_none begun

/-- Whether a call has its judge look at a shader before the first step, and gets past that. -/
def Passes (call : Call σ) (shader work : Path) (world : World σ) (begun : Shader) : Prop :=
  ∃ driver entered, call.driver? shader work world = some (driver, entered) ∧ driver.state.isInitial = true ∧
    driver.state.shader.text = begun.text ∧ driver.state.shader.metadata = begun.metadata ∧ driver.course entered ≠ []

/-- A shader that a call gets past has the property. -/
theorem Passes.met {begun : Shader} (passes : call.Passes shader work world begun) (isShader : shader.IsShader base)
    (apart : Apart work base world.scratch) (spare : Reduction.ToolsSpare call.tools work world.scratch) (decides : call.Decides work base property) :
    property.Met begun := by
  obtain ⟨driver, entered, found, isInitial, sameText, sameMetadata, goes⟩ := passes
  have judges := driver?_decides isShader spare decides found
  obtain ⟨placed, reference, taken, -, entrance⟩ := driver?_some isShader apart spare found
  obtain ⟨verdict, made⟩ := entrance.made
  have sameBase : driver.base = base := made.base.trans entrance.isShader.stem
  obtain ⟨p, rest, course⟩ := List.exists_cons_of_ne_nil goes
  obtain ⟨marked, opened, -, checks, -⟩ := Reducer.course_head (congrArg List.head? course)
  cases checks with
  | skipped isStored =>
    rw [isInitial] at isStored
    cases isStored
  | passed _ _ run =>
    have holds := judges _ _ _ _ (sameBase ▸ run)
    rw [sameText, sameMetadata] at holds
    exact holds.symm

/-- When a call of a sequence begins, the directory is settled and the latest accepted step has the property. -/
theorem interesting_of_mem_starts {calls : List (Call σ)} (isShader : shader.IsShader base)
    (apart : Apart work base world.scratch) (spare : ∀ call ∈ calls, Reduction.ToolsSpare call.tools work world.scratch)
    (settled : Settled work base False world) (interesting : Interesting property world.files work base)
    (decides : ∀ call ∈ calls, call.Decides work base property)
    (readsBack : ∀ start ∈ starts shader work calls world, ∀ driver entered,
      start.1.driver? shader work start.2 = some (driver, entered) → Metadata.ReadsBack driver.state.shader.metadata) :
    ∀ start ∈ starts shader work calls world, start.1 ∈ calls ∧ start.2.scratch = world.scratch ∧
      Settled work base False start.2 ∧ Interesting property start.2.files work base := by
  induction calls generalizing world with
  | nil => exact fun _ member => nomatch member
  | cons call calls ih =>
    intro start member
    rcases List.mem_cons.mp member with rfl | later
    · exact ⟨List.mem_cons_self, rfl, settled, interesting⟩
    · have spares := spare call List.mem_cons_self
      obtain ⟨chain, settled'⟩ := Call.chain isShader apart spares settled fun none => none.elim
      have sameScratch := (Onward.chain_ends chain).sameScratch
      obtain ⟨inside, scratch, rest⟩ := ih (by rwa [sameScratch])
        (fun other inside => sameScratch ▸ spare other (List.mem_cons_of_mem _ inside)) settled'
        (run_interesting isShader apart spares settled interesting (decides call List.mem_cons_self)
          (readsBack (call, world) List.mem_cons_self))
        (fun other inside => decides other (List.mem_cons_of_mem _ inside))
        (fun start inside => readsBack start (List.mem_cons_of_mem _ inside)) start later
      exact ⟨List.mem_cons_of_mem _ inside, scratch.trans sameScratch, rest⟩

/-- Over any sequence of calls whose judges decide by one property whenever they answer, fresh or going on, and
however each call ends: a call that ends with a final shader has an artifact that holds it, and the shader has the
property, or the call went on where no step was ever accepted, the shader is the one that was placed, and no call of
the sequence ever got past judging it. -/
theorem runs_upshot {calls : List (Call σ)} (isShader : shader.IsShader base)
    (clean : ∀ name, (Step.ofFileName? base name).isSome = true → world.files.lookup? (work.place ++ [name]) = none)
    (reachable : world.files.isDirectory work = true ∨ ".." ∉ work.parts) (apart : Apart work base world.scratch)
    (spare : ∀ call ∈ calls, Reduction.ToolsSpare call.tools work world.scratch)
    (decides : ∀ call ∈ calls, call.Decides work base property)
    (readsBack : ∀ start ∈ starts shader work calls world, ∀ driver entered,
      start.1.driver? shader work start.2 = some (driver, entered) → Metadata.ReadsBack driver.state.shader.metadata) :
    ∀ start ∈ starts shader work calls world, ∀ result left, start.1.run shader work start.2 = .ok result left →
      result.artifact.Holds left.files result.shader ∧
        (property.Met result.shader ∨ start.1.Unjudged shader work base start.2 left result.shader ∧
          ∀ other ∈ starts shader work calls world, ¬ other.1.Passes shader work other.2 result.shader) := by
  have none : ∀ step, ¬ Found world.files work base step := by
    intro step found
    have stands := found.stands
    rw [clean step.name (by rw [found.named]; rfl)] at stands
    cases stands
  have begins := interesting_of_mem_starts isShader apart spare (.start none reachable)
    (Progress.interesting_of_none none) decides readsBack
  intro start member result left success
  obtain ⟨inside, sameScratch, settled, interesting⟩ := begins start member
  obtain ⟨holds, upshot⟩ := run_upshot isShader (sameScratch ▸ apart) (sameScratch ▸ spare start.1 inside) settled
    interesting (decides start.1 inside) (readsBack start member) success
  refine ⟨holds, ?_⟩
  by_cases met : property.Met result.shader
  · exact .inl met
  · refine .inr ⟨upshot.resolve_left met, fun other inside passes => met ?_⟩
    obtain ⟨member, sameScratch, -, -⟩ := begins other inside
    exact passes.met isShader (sameScratch ▸ apart) (sameScratch ▸ spare other.1 member) (decides other.1 member)

/-! ## Going on from a shader that nobody judged -/

/-- Tools that render everything and make no image. -/
def imageless : Dispatcher Unit where
  render _ _ _ := pure ⟨.success, none, []⟩
  validate _ := pure ⟨0, []⟩

/-- The property that no shader has. -/
def never : Property := ⟨fun _ _ => false, fun _ _ _ _ => rfl⟩

/-- A call that begins afresh, and one that goes on, both with a judge that accepts nothing. -/
def refusedAndGoingOn : List (Call Unit) :=
  [⟨pure imageless, crashSettings false⟩, ⟨pure imageless, crashSettings true⟩]

/-- A shader file with an empty function, and nothing else. -/
def emptyFunction : World Unit :=
  ⟨⟨[(["s.frag"], .file "void main() \x7b\n\x7d\n".toUTF8), (["s.json"], .file "\x7b\x7d".toUTF8)]⟩, [], ⟨"", ["scratch"]⟩, 0, ()⟩

/-- The two calls, each with the world that it begins in. -/
abbrev refusedStarts : List (Call Unit × World Unit) :=
  starts ⟨"", ["s.frag"]⟩ ⟨"", ["work"]⟩ refusedAndGoingOn emptyFunction

private theorem decides_never : ∀ call ∈ refusedAndGoingOn, call.Decides ⟨"", ["work"]⟩ "s" never := by
  have decides : ∀ continuing, (⟨pure imageless, crashSettings continuing⟩ : Call Unit).Decides ⟨"", ["work"]⟩ "s" never := by
    intro continuing reference world verdict armed making keepRejected stopOnError shader judging answer left judged
    cases making
    obtain ⟨made, inside, directory, judged⟩ := Action.withScratch_ok judged
    obtain ⟨path, stored, -, judged⟩ := bind_ok judged
    cases judged
    rfl
  intro call member
  simp only [refusedAndGoingOn, List.mem_cons, List.not_mem_nil, or_false] at member
  rcases member with rfl | rfl <;> exact decides _

/-- The call that goes on ends with a final shader. -/
private theorem finishes_goingOn : ∃ start ∈ refusedStarts, ∃ result left,
    start.1.run ⟨"", ["s.frag"]⟩ ⟨"", ["work"]⟩ start.2 = .ok result left := by
  have finishes : (refusedStarts.any fun start =>
      match start.1.run ⟨"", ["s.frag"]⟩ ⟨"", ["work"]⟩ start.2 with
      | .ok _ _ => true
      | .error _ _ => false) = true := by decide +kernel
  obtain ⟨start, member, finished⟩ := List.any_eq_true.mp finishes
  refine ⟨start, member, ?_⟩
  cases ended : start.1.run ⟨"", ["s.frag"]⟩ ⟨"", ["work"]⟩ start.2 with
  | ok result left => exact ⟨result, left, rfl⟩
  | error fault left => rw [ended] at finished; cases finished

/-- Though there is no working directory at first and the judges of all calls decide by one property, a call ends
with a final shader that does not have it. -/
theorem finishes_unmet :
    emptyFunction.files.has ⟨"", ["work"]⟩ = false ∧
      (∀ call ∈ refusedAndGoingOn, call.Decides ⟨"", ["work"]⟩ "s" never) ∧
      ∃ start ∈ refusedStarts, ∃ result left,
        start.1.run ⟨"", ["s.frag"]⟩ ⟨"", ["work"]⟩ start.2 = .ok result left ∧ ¬ never.Met result.shader := by
  obtain ⟨start, member, result, left, ended⟩ := finishes_goingOn
  exact ⟨by decide +kernel, decides_never, start, member, result, left, ended, fun met => nomatch met⟩

/-- That call went on from the placed shader. -/
theorem runs_upshot_refusedAndGoingOn :
    ∃ start ∈ refusedStarts, ∃ result left, start.1.run ⟨"", ["s.frag"]⟩ ⟨"", ["work"]⟩ start.2 = .ok result left ∧
      result.artifact.Holds left.files result.shader ∧
      start.1.Unjudged ⟨"", ["s.frag"]⟩ ⟨"", ["work"]⟩ "s" start.2 left result.shader ∧
      ∀ other ∈ refusedStarts, ¬ other.1.Passes ⟨"", ["s.frag"]⟩ ⟨"", ["work"]⟩ other.2 result.shader := by
  have isShader : Path.IsShader ⟨"", ["s.frag"]⟩ "s" := ⟨rfl, by decide, by decide⟩
  have apart : Apart ⟨"", ["work"]⟩ "s" emptyFunction.scratch :=
    apart_of_ne (by decide) (by decide) (by decide) (by decide)
  have spare : ∀ call ∈ refusedAndGoingOn, Reduction.ToolsSpare call.tools ⟨"", ["work"]⟩ emptyFunction.scratch := by
    intro call member
    simp only [refusedAndGoingOn, List.mem_cons, List.not_mem_nil, or_false] at member
    rcases member with rfl | rfl <;>
      exact ⟨.of_after fun _ => rfl, fun _ _ _ success => by
        cases success
        exact ⟨fun _ _ => .of_after fun _ => rfl, fun _ => .of_after fun _ => rfl⟩⟩
  have plain : (refusedStarts.all fun start => (start.1.driver? ⟨"", ["s.frag"]⟩ ⟨"", ["work"]⟩ start.2).all fun begun =>
      begun.1.state.shader.metadata.isEmpty) = true := by decide +kernel
  have readsBack : ∀ start ∈ refusedStarts, ∀ driver entered,
      start.1.driver? ⟨"", ["s.frag"]⟩ ⟨"", ["work"]⟩ start.2 = some (driver, entered) →
        Metadata.ReadsBack driver.state.shader.metadata := by
    intro start member driver entered found
    have empty := List.all_eq_true.mp plain start member
    rw [found] at empty
    rw [List.isEmpty_iff.mp empty]
    exact Metadata.readsBack_nil
  obtain ⟨start, member, result, left, ended⟩ := finishes_goingOn
  obtain ⟨holds, upshot⟩ := runs_upshot isShader (fun name _ => by
      simp [emptyFunction, FileTree.lookup?, Path.place, Place.walk, Place.next])
    (.inr (by decide)) apart spare decides_never readsBack start member result left ended
  exact ⟨start, member, result, left, ended, holds, upshot.resolve_left Bool.false_ne_true⟩

end Call

end ShaderShrink
