import ShaderShrink.Proofs.Reduction.Account
import ShaderShrink.Proofs.Reduction.Secured

/-!
# Reductions of a fixed property

When a judge decides by a fixed property of shaders, all accepted shaders have that property.  The present shader
of a reduction has it too, or is still the one that the reduction began with and that nobody judged.
-/

namespace ShaderShrink

open Effect
open Progress (Found Secures)

variable {σ : Type} {work scratch : Path} {base : String}

/-- A property of shaders that does not depend on the order of fields in the metadata. -/
structure Property where
  holds : Text → Metadata → Bool
  unordered : ∀ text a b, Metadata.Same a b → holds text a = holds text b

/-- Whether a shader has a property. -/
def Property.Met (property : Property) (shader : Shader) : Prop := property.holds shader.text shader.metadata = true

instance (property : Property) (shader : Shader) : Decidable (property.Met shader) :=
  inferInstanceAs (Decidable (_ = true))

variable {property : Property}

/-- Whether a shader has a property and is read again, once it was stored. -/
structure Property.Lasting (property : Property) (shader : Shader) : Prop where
  met : property.Met shader
  writable : shader.Writable
  returnless : Text.Returnless shader.text
  readsBack : Metadata.ReadsBack shader.metadata

/-- What can be read where a shader with the property may be read again has the property. -/
theorem Shader.Restorable.holds {tree : FileTree} {path : Path} {shader : Shader} {text : Text} {metadata : Metadata}
    (restorable : Restorable tree path shader) (met : property.Met shader)
    (legible : Legible tree path text metadata) : property.holds text metadata = true := by
  obtain ⟨restored, legible', same⟩ := restorable
  obtain ⟨rfl, rfl⟩ := legible.unique legible'
  rw [← property.unordered _ _ _ same]
  exact met

namespace Reducer

variable {reducer : Reducer σ}

/-- Whether a judge decides by a property, whenever it answers. -/
def Decides (reducer : Reducer σ) (base : String) (property : Property) : Prop :=
  ∀ shader world answer left, reducer.judge base shader world = .ok answer left →
    answer = property.holds shader.text shader.metadata

end Reducer

/-! ## Accepted shaders that can be read -/

/-- Whatever becomes of writing a shader whose metadata can be written: nothing has changed, or nothing can be read
there but the shader. -/
theorem Artifact.write_cases (kind : ArtifactKind) {stem : String} {shader : Shader} {world : World σ}
    (isName : Path.IsName stem) (directory : world.files.isDirectory work = true)
    (writable : shader.Writable) :
    (after (write work stem kind shader) world).files = world.files ∨
      ∀ text metadata,
        Shader.Legible (after (write work stem kind shader) world).files (work.entry (stem ++ Shader.fileSuffix))
          text metadata →
        shader.StoredAt (after (write work stem kind shader) world).files (work.entry (stem ++ Shader.fileSuffix)) := by
  have stores : after (write work stem kind shader) world = after (shader.store (work.entry stem)) world := by
    unfold write
    rw [Path.child_of_isName work isName]
    cases run : shader.store (work.entry stem) world with
    | ok path stored => rw [after, bind_of_ok run, after_ok run, ← after, after_ofFile]
    | error fault left => rw [after_error (bind_of_error run _), after_error run]
  obtain ⟨document, writable⟩ := Option.isSome_iff_exists.mp writable
  have named : (work.entry stem).name ≠ "" := by
    rw [Path.entry_name]
    exact isName.ne_empty
  have possible := Shader.store_cases named (by rwa [Path.entry_parent]) writable
  rw [Path.entry_parent, Path.entry_name] at possible
  rw [stores]
  refine possible.imp_right fun stored text metadata legible => stored.resolve_right fun unread => ?_
  obtain ⟨sidecar, bytes, beside, read, -⟩ := legible.metadata
  rw [Shader.metadataPath_entry work isName.ne_empty] at beside
  cases beside
  exact unread bytes read

namespace Progress

/-- Whether the latest accepted step has a property, if it can be read. -/
def Interesting (property : Property) (tree : FileTree) (work : Path) (base : String) : Prop :=
  ∀ number, latestSuccess? tree work base = some number → ∀ text metadata,
    Shader.Legible tree (work.entry (Step.fileName base number .success)) text metadata →
    property.holds text metadata = true

variable {a b : World σ} {number : Nat}

theorem interesting_of_none {tree : FileTree} (none : ∀ step, ¬ Found tree work base step) :
    Interesting property tree work base := by
  intro number latest
  obtain ⟨step, found, -⟩ := exists_of_latestSuccess? latest
  exact absurd found (none step)

private theorem legible_of_beside {names : List String} {text : Text} {metadata : Metadata} (plain : '/' ∉ base.toList)
    (agree : World.Agrees (Beside work names) a b) (other : ∀ name ∈ Step.fileNames base number .success, name ∉ names)
    (legible : Shader.Legible b.files (work.entry (Step.fileName base number .success)) text metadata) :
    Shader.Legible a.files (work.entry (Step.fileName base number .success)) text metadata :=
  legible.of_agreeOn (Shader.agreeOn_sight (Step.isName_fileStem plain number _).ne_empty agree other).symm

/-- Changing files that belong to no step leaves the latest accepted step as it is. -/
theorem Interesting.beside {names : List String} (interesting : Interesting property a.files work base)
    (plain : '/' ∉ base.toList) (directory : a.files.isDirectory work = true)
    (agree : World.Agrees (Beside work names) a b) (unrelated : Step.Unrelated base names) :
    Interesting property b.files work base := by
  intro number latest text metadata legible
  rw [latestSuccess?_beside directory agree unrelated] at latest
  refine interesting number latest text metadata (legible_of_beside plain agree (fun name member inside => ?_) legible)
  exact (unrelated name inside).2 _ _ member

/-- The same if none of the reduction's own files changes. -/
theorem Interesting.own (interesting : Interesting property a.files work base) (plain : '/' ∉ base.toList)
    (directory : a.files.isDirectory work = true) (agree : World.Agrees (Own work) a b) :
    Interesting property b.files work base :=
  interesting.beside plain directory (Own.beside agree : World.Agrees (Beside work []) a b) fun _ member => nomatch member

/-- Writing a step leaves the latest accepted step with the property, whatever becomes of it, if an accepted
candidate has the property and lasts. -/
theorem Interesting.writeStep {outcome : StepOutcome} {candidate : Shader}
    (interesting : Interesting property a.files work base) (plain : '/' ∉ base.toList)
    (directory : a.files.isDirectory work = true) (below : ∀ step, Found a.files work base step → step.number < number)
    (lasting : outcome = .success → property.Lasting candidate) :
    Interesting property (after (Artifact.writeStep work base number outcome candidate) a).files work base := by
  have agree := Reducer.writeStep_agrees plain directory number outcome candidate
  have directory' := (agree.isDirectory fun _ => .inl).trans directory
  have steps := found_step below (agree.files.mono fun _ => Files.beside)
  intro latest isLatest text metadata legible
  obtain ⟨⟨step, member, success, rfl⟩, greatest⟩ := latestSuccess?_eq_some.mp isLatest
  rcases (steps step).mp (mem_steps.mp member).2 with before | ⟨rfl, -⟩
  · have earlier : latestSuccess? a.files work base = some step.number := by
      refine latestSuccess?_eq_some.mpr ⟨⟨step, mem_steps.mpr ⟨directory, before⟩, success, rfl⟩, ?_⟩
      intro other member success
      exact greatest other (mem_steps.mpr ⟨directory', (steps other).mpr (.inl (mem_steps.mp member).2)⟩) success
    refine interesting _ earlier text metadata (legible_of_beside plain agree (fun name member inside => ?_) legible)
    exact absurd (Step.mem_fileNames_number member inside).1 (Nat.ne_of_lt (below step before))
  · obtain rfl : outcome = .success := success
    have lasting := lasting rfl
    rw [Artifact.writeStep_eq] at member legible
    rcases Artifact.write_cases (.step .success) (Step.isName_fileStem plain number .success) directory
      lasting.writable with still | stored
    · rw [still] at member
      exact absurd (below _ (mem_steps.mp member).2) (Nat.lt_irrefl number)
    · exact ((stored text metadata legible).restorable lasting.returnless lasting.readsBack).holds lasting.met legible

end Progress

open Progress (Interesting)

namespace Reducer

variable {reducer : Reducer σ} {begun : Shader → Prop} {metadata : Metadata} {now : ReductionState}

/-- Whether the present shader of a reduction has a property, or is the one that the reduction went on with when no
step was accepted. -/
def Vouched (reducer : Reducer σ) (base : String) (property : Property) (now : ReductionState) (p : Position σ) : Prop :=
  property.Met p.state.shader ∨ now.isInitial = false ∧ p.state.shader = now.shader ∧
    Progress.latestSuccess? p.world.files reducer.work base = none

/-- A candidate that is accepted has the property and lasts. -/
theorem Proposes.lasting {rejected : List String} {opportunity : Opportunity} {candidate : Shader} {context : Context}
    {world left : World σ} (proposes : Proposes now rejected opportunity candidate context)
    (readsBack : Metadata.ReadsBack now.shader.metadata) (decides : reducer.Decides base property)
    (success : reducer.judge base candidate world = .ok true left) : property.Lasting candidate := by
  obtain ⟨returnless, same⟩ := proposes_returnless proposes
  exact ⟨(decides _ _ _ _ success).symm, writable_of_judge success, returnless, same ▸ readsBack⟩

/-- Where the present shader is secured and vouched for, the latest accepted step has the property. -/
theorem Vouched.interesting {p : Position σ} (vouched : Vouched reducer base property now p)
    (secured : Secured reducer base begun metadata scratch p) :
    Interesting property p.world.files reducer.work base := by
  intro number latest text metadata legible
  rcases vouched with met | ⟨-, -, none⟩
  · exact (secured.secures.latest number latest).holds met legible
  · rw [none] at latest
    cases latest

/-- A step keeps the present shader vouched for. -/
theorem Vouched.next {p q : Position σ} (vouched : Vouched reducer base property now p)
    (secured : Secured reducer base begun metadata scratch p) (careful : Careful reducer base scratch)
    (decides : reducer.Decides base property) (further : reducer.next? base p = some q) :
    Vouched reducer base property now q := by
  obtain ⟨opportunity, candidate, context, answer, judged, records, left, level, message, proposes, answers,
    recorded, rfl⟩ := next?_cases further
  have before := secured.sameScratch
  subst before
  have agree := (careful.recorded_agrees secured.directory answers recorded).2
  have declined : outcomeOf answer ≠ .success → property.Met p.state.shader ∨ now.isInitial = false ∧
      p.state.shader = now.shader ∧ Progress.latestSuccess? left.files reducer.work base = none := by
    intro other
    rw [Progress.latestSuccess?_declined secured.directory secured.below agree other]
    exact vouched
  rcases answer with fault | _ | _
  · have declined := declined fun same => nomatch same
    exact declined
  · have declined := declined fun same => nomatch same
    exact declined
  · exact .inl (decides _ _ _ _ answers).symm

/-- However a step ends, the latest accepted step has the property. -/
theorem Vouched.interesting_step {p : Position σ} {result : EStateM.Result Fault (ReductionState × World σ) (List String)}
    (vouched : Vouched reducer base property now p) (secured : Secured reducer base begun metadata scratch p)
    (careful : Careful reducer base scratch) (readsBack : Metadata.ReadsBack metadata)
    (decides : reducer.Decides base property) (steps : Steps reducer base p result) :
    Interesting property (leaves result).2.files reducer.work base := by
  have before := secured.sameScratch
  subst before
  have interesting := vouched.interesting secured
  have written : ∀ {opportunity candidate context answer judged},
      Proposes p.state p.rejected opportunity candidate context →
      Answers reducer base candidate p.world answer judged →
      Interesting property (after (Artifact.writeStep reducer.work base p.number (outcomeOf answer) candidate) judged).files
        reducer.work base := by
    intro opportunity candidate context answer judged proposes answers
    have agree := careful.answers_agrees secured.directory answers
    refine (interesting.own careful.plain secured.directory agree).writeStep careful.plain
      ((agree.isDirectory fun _ => Progress.own_visited).trans secured.directory) (fun step found => ?_) fun success => ?_
    · have beside : World.Agrees (Progress.Beside reducer.work []) p.world judged := Progress.Own.beside agree
      exact secured.below step ((Progress.found_of_unrelated (beside.files.mono fun _ => Progress.Files.beside)
        (fun _ member => absurd member List.not_mem_nil) step).mpr found)
    · obtain rfl := outcomeOf_eq_success.mp success
      exact proposes.lasting (secured.metadata.symm ▸ readsBack) decides answers
  have recorded : ∀ {opportunity candidate context answer judged key records left},
      Proposes p.state p.rejected opportunity candidate context →
      Answers reducer base candidate p.world answer judged →
      Recorded reducer base key p.number candidate answer judged records left →
      Interesting property left.files reducer.work base := by
    intro opportunity candidate context answer judged key records left proposes answers recorded
    cases recorded with
    | dropped _ =>
      exact interesting.own careful.plain secured.directory (careful.answers_agrees secured.directory answers)
    | written _ writing => exact after_ok writing ▸ written proposes answers
  cases steps with
  | exhausted _ => exact interesting
  | unproposed _ _ => exact interesting
  | crashed _ failed _ =>
    exact interesting.own careful.plain secured.directory
      (after_error failed ▸ careful.judge_agrees secured.directory _)
  | unwritten proposes answers _ failed => exact after_error failed ▸ written proposes answers
  | stopped proposes answers recording _ => exact recorded proposes answers recording
  | moved _ _ proposes answers recording _ =>
    have kept := recorded proposes answers recording
    exact kept

/-! ## Whole reductions -/

section Reduce

variable {first limit : Int} {world : World σ}

/-- What a reduction of a property begins with: no greater numbers, a secured shader that can be read again, and
a latest accepted step with the property; unless it begins afresh, its shader has the property or no step was
accepted. -/
structure Founded (reducer : Reducer σ) (base : String) (property : Property) (begun : Shader → Prop) (first : Int)
    (now : ReductionState) (world : World σ) : Prop where
  directory : world.files.isDirectory reducer.work = true
  below : ∀ step, Found world.files reducer.work base step → step.number < first.toNat
  secures : Secures world.files reducer.work base begun now.shader
  readsBack : Metadata.ReadsBack now.shader.metadata
  interesting : Interesting property world.files reducer.work base
  begins : now.isInitial = false →
    property.Met now.shader ∨ Progress.latestSuccess? world.files reducer.work base = none

/-- In front of the loop the starting shader is vouched for. -/
theorem vouched_start {marked opened : World σ} (founded : Founded reducer base property begun first now world)
    (careful : Careful reducer base world.scratch) (decides : reducer.Decides base property)
    (marking : Progress.placeMarker reducer.work world = .ok () marked)
    (checks : Checks reducer base now (announced base first limit now marked) (.ok () (now, opened))) :
    Vouched reducer base property now ⟨first.toNat, [], now, opened⟩ := by
  have agree := (careful.opened_agrees marking checks).1
  have same := Progress.latestSuccess?_beside founded.directory agree (Step.unrelated_markerName base)
  cases checks with
  | skipped continuing =>
    refine (founded.begins continuing).imp_right fun none => ⟨continuing, rfl, ?_⟩
    exact same.trans none
  | passed message _ success => exact .inl (decides _ _ _ _ success).symm

/-- At every position of a reduction the present shader is secured and vouched for. -/
theorem Founded.vouched {p : Position σ} (founded : Founded reducer base property begun first now world)
    (careful : Careful reducer base world.scratch) (decides : reducer.Decides base property)
    (member : p ∈ reducer.course base first limit now world) :
    Secured reducer base begun now.shader.metadata world.scratch p ∧ Vouched reducer base property now p := by
  have secured := fun p (member : p ∈ reducer.course base first limit now world) =>
    secured_of_mem careful founded.directory founded.below founded.secures founded.readsBack member
  refine ⟨secured p member, course_induction ?_ ?_ member⟩
  · exact fun _ _ marking checks => vouched_start founded careful decides marking checks
  · exact fun p member _ further vouched => vouched.next (secured p member) careful decides further

/-- However a reduction ends, the latest accepted step has the property. -/
theorem reduce_interesting (founded : Founded reducer base property begun first now world)
    (careful : Careful reducer base world.scratch) (decides : reducer.Decides base property)
    (running : now.status = .running) :
    Interesting property (leaves (reducer.reduce base first limit (now, world))).2.files reducer.work base := by
  have vouched := fun last (isLast : (reducer.course base first limit now world).getLast? = some last) =>
    founded.vouched careful decides (List.mem_of_getLast? isLast)
  have final : ∀ last, Vouched reducer base property now last →
      Secured reducer base begun now.shader.metadata world.scratch last →
      Interesting property (after (Artifact.writeFinal reducer.work base last.state.shader) last.world).files
          reducer.work base ∧
        (after (Artifact.writeFinal reducer.work base last.state.shader) last.world).files.isDirectory
          reducer.work = true := by
    intro last vouched secured
    have agree := Artifact.write_agrees .final last.state.shader (Step.isName_finalStem careful.plain)
      (FileTree.standing_of_isDirectory secured.directory)
    rw [Artifact.writeFinal_eq]
    exact ⟨(vouched.interesting secured).beside careful.plain secured.directory agree (Step.unrelated_finalNames base),
      (agree.isDirectory fun _ => .inl).trans secured.directory⟩
  have reduces := reduce_cases reducer base first limit world running
  generalize reducer.reduce base first limit (now, world) = result at reduces ⊢
  cases reduces with
  | refused _ _ => exact founded.interesting
  | unmarked _ failed =>
    exact founded.interesting.beside careful.plain founded.directory (after_error failed ▸ Progress.placeMarker_agrees
      (FileTree.standing_of_isDirectory founded.directory)) (Step.unrelated_markerName base)
  | unchecked _ marking checks =>
    exact founded.interesting.beside careful.plain founded.directory (careful.opened_agrees marking checks).1
      (Step.unrelated_markerName base)
  | crashed isLast steps =>
    obtain ⟨secured, vouched⟩ := vouched _ isLast
    have kept := vouched.interesting_step secured careful founded.readsBack decides steps
    exact kept
  | unwritten isLast failed =>
    obtain ⟨secured, vouched⟩ := vouched _ isLast
    exact after_error failed ▸ (final _ vouched secured).1
  | uncleared _ isLast writing failed =>
    obtain ⟨secured, vouched⟩ := vouched _ isLast
    obtain ⟨interesting, directory⟩ := after_ok writing ▸ final _ vouched secured
    exact interesting.beside careful.plain directory (after_error failed ▸ Progress.clearMarker_agrees
      (FileTree.standing_of_isDirectory directory)) (Step.unrelated_markerName base)
  | @finished _ _ _ cleared _ _ isLast writing clearing _ =>
    obtain ⟨secured, vouched⟩ := vouched _ isLast
    obtain ⟨interesting, directory⟩ := after_ok writing ▸ final _ vouched secured
    have kept : Interesting property cleared.files reducer.work base :=
      interesting.beside careful.plain directory (after_ok clearing ▸ Progress.clearMarker_agrees
        (FileTree.standing_of_isDirectory directory)) (Step.unrelated_markerName base)
    exact kept

/-- A reduction ends with a shader that has the property, or with the one that it went on with when no step was
accepted; and its final artifact holds the shader. -/
theorem reduce_vouched {result : ReductionResult} {left : World σ} {state : ReductionState}
    (founded : Founded reducer base property begun first now world) (careful : Careful reducer base world.scratch)
    (decides : reducer.Decides base property) (running : now.status = .running)
    (success : reducer.reduce base first limit (now, world) = .ok result (state, left)) :
    result.artifact.Holds left.files result.shader ∧
      (property.Met result.shader ∨ now.isInitial = false ∧ result.shader = now.shader ∧
        Progress.latestSuccess? left.files reducer.work base = none) := by
  have reduces := reduce_cases reducer base first limit world running
  rw [success] at reduces
  cases reduces with
  | @finished _ artifact _ cleared _ _ isLast writing clearing _ =>
    obtain ⟨secured, vouched⟩ := founded.vouched careful decides (List.mem_of_getLast? isLast)
    have isName := Step.isName_finalStem careful.plain
    rw [Artifact.writeFinal_eq] at writing
    have agree := after_ok writing ▸ Artifact.write_agrees .final _ isName
      (FileTree.standing_of_isDirectory secured.directory)
    have directory := (agree.isDirectory fun _ => .inl).trans secured.directory
    have agree' := after_ok clearing ▸ Progress.clearMarker_agrees (FileTree.standing_of_isDirectory directory)
    obtain ⟨placed, -, -, holds⟩ := Artifact.write_ok isName secured.directory writing
    have final : artifact.Holds cleared.files _ :=
      holds.of_beside placed isName.ne_empty agree' fun _ inside => Shader.notMarker_of_mem_fileNames inside
    have written := Progress.latestSuccess?_beside secured.directory agree (Step.unrelated_finalNames base)
    have still := Progress.latestSuccess?_beside directory agree' (Step.unrelated_markerName base)
    refine ⟨final, vouched.imp_right fun ⟨continuing, same, unmoved⟩ => ⟨continuing, same, ?_⟩⟩
    exact still.trans (written.trans unmoved)

end Reduce

end Reducer

end ShaderShrink
