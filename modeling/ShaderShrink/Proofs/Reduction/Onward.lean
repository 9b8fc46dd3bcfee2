import Mathlib.Data.List.Chain
import ShaderShrink.Proofs.Reduction.Numbering

/-!
# How a reduction goes on numbering

From each position of a reduction to the next, and from the last one to its end, the working directory is
extended, and the steps in it stay numbered.  This holds however the reduction ends.
-/

namespace ShaderShrink

open Effect

variable {σ : Type} {work scratch : Path} {base : String} {whole : Prop} {bound : Nat}

namespace Progress

theorem Files.beside {names : List String} {place : Place} (inside : Files work names place) :
    Beside work names place := .inr inside

/-- Changing files that belong to no step keeps the numbering and extends the directory. -/
theorem Numbered.beside {a b : World σ} {names : List String} (numbered : Numbered a.files work base whole bound)
    (agree : World.Agrees (Beside work names) a b) (unrelated : Step.Unrelated base names) :
    Numbered b.files work base whole bound ∧ Extends work base a.files b.files :=
  numbered.still unrelated (agree.files.mono fun _ => Files.beside)
    fun directory => (agree.isDirectory fun _ => .inl).trans directory

/-- The same if none of the reduction's own files changes. -/
theorem Numbered.own {a b : World σ} (numbered : Numbered a.files work base whole bound)
    (agree : World.Agrees (Own work) a b) :
    Numbered b.files work base whole bound ∧ Extends work base a.files b.files :=
  numbered.beside (Own.beside agree : World.Agrees (Beside work []) a b) fun _ member => nomatch member

end Progress

open Progress (Numbered Extends)

/-- How the world goes on while steps are numbered: the directory is extended, and its steps are numbered still. -/
structure Onward (work : Path) (base : String) (whole : Prop) (a b : World σ) : Prop where
  extends_ : Extends work base a.files b.files
  sameScratch : b.scratch = a.scratch
  numbered : ∃ bound, Numbered b.files work base whole bound

theorem Onward.trans {a b c : World σ} (first : Onward work base whole a b) (second : Onward work base whole b c) :
    Onward work base whole a c :=
  ⟨first.extends_.trans second.extends_, second.sameScratch.trans first.sameScratch, second.numbered⟩

/-- Changing files that belong to no step goes on. -/
theorem Onward.beside {a b : World σ} {names : List String} (numbered : Numbered a.files work base whole bound)
    (agree : World.Agrees (Progress.Beside work names) a b) (unrelated : Step.Unrelated base names) :
    Onward work base whole a b :=
  ⟨(numbered.beside agree unrelated).2, agree.scratch, bound, (numbered.beside agree unrelated).1⟩

/-- The same if none of the reduction's own files changes. -/
theorem Onward.own {a b : World σ} (numbered : Numbered a.files work base whole bound)
    (agree : World.Agrees (Progress.Own work) a b) : Onward work base whole a b :=
  .beside numbered (Progress.Own.beside agree : World.Agrees (Progress.Beside work []) a b)
    fun _ member => nomatch member

theorem Onward.refl {a : World σ} (numbered : ∃ bound, Numbered a.files work base whole bound) :
    Onward work base whole a a := ⟨.refl work base a.files, rfl, numbered⟩

/-- What goes on leads from its first world to its last one. -/
theorem Onward.chain_ends {a b : World σ} {worlds : List (World σ)}
    (chain : List.IsChain (Onward work base whole) (a :: worlds ++ [b])) : Onward work base whole a b := by
  induction worlds generalizing a with
  | nil => exact List.isChain_pair.mp chain
  | cons next rest ih =>
    rw [List.cons_append, List.cons_append, List.isChain_cons_cons] at chain
    exact chain.1.trans (ih chain.2)

/-- What goes on may begin earlier and end later. -/
theorem Onward.chain_stretch {a b c d : World σ} {worlds : List (World σ)}
    (chain : List.IsChain (Onward work base whole) (b :: worlds ++ [c])) (first : Onward work base whole a b)
    (last : Onward work base whole c d) : List.IsChain (Onward work base whole) (a :: worlds ++ [d]) := by
  rw [List.isChain_append] at chain ⊢
  obtain ⟨front, -, joint⟩ := chain
  rw [List.isChain_cons] at front
  have head := List.isChain_cons.mpr ⟨fun next isNext => first.trans (front.1 next isNext), front.2⟩
  refine ⟨head, .singleton d, fun x isLast y isEnd => ?_⟩
  cases isEnd
  cases worlds with
  | nil =>
    cases isLast
    exact first.trans ((joint b rfl c rfl).trans last)
  | cons next rest => exact (joint x isLast c rfl).trans last

namespace Reducer

variable {reducer : Reducer σ}

/-- What holds in front of a step: the working directory stands, and all steps in it have smaller numbers. -/
structure Ahead (reducer : Reducer σ) (base : String) (whole : Prop) (scratch : Path) (p : Position σ) : Prop where
  directory : p.world.files.isDirectory reducer.work = true
  sameScratch : p.world.scratch = scratch
  positive : 1 ≤ p.number
  numbered : Numbered p.world.files reducer.work base whole p.number

/-- A step extends the directory, and the next one is again ahead of all others. -/
theorem Ahead.next {p q : Position σ} (ahead : Ahead reducer base whole scratch p)
    (careful : Careful reducer base scratch) (keeps : whole → reducer.keepRejected = true)
    (further : reducer.next? base p = some q) :
    Ahead reducer base whole scratch q ∧ Extends reducer.work base p.world.files q.world.files := by
  obtain ⟨opportunity, candidate, context, answer, judged, records, left, level, message, -, answers, recorded,
    rfl⟩ := next?_cases further
  have before := ahead.sameScratch
  subst before
  obtain ⟨directory, agree⟩ := careful.recorded_agrees ahead.directory answers recorded
  have directory' := (agree.isDirectory fun _ => .inl).trans ahead.directory
  obtain ⟨extends_, absent, present⟩ := ahead.numbered.step ahead.positive
    (agree.files.mono fun _ => Progress.Files.beside) fun _ => directory'
  refine ⟨⟨directory', agree.scratch, Nat.le_succ_of_le ahead.positive, ?_⟩, extends_⟩
  cases stands : (left.files.lookup?
      (reducer.work.place ++ [Step.fileName base p.number (outcomeOf answer)])).isSome with
  | true => exact present stands
  | false =>
    refine (absent stands).raise fun all => ?_
    have kept : reducer.keeps answer = true := by
      rcases answer with fault | _ | _
      · rfl
      · exact keeps all
      · rfl
    rw [recorded_stands careful.plain directory kept recorded] at stands
    cases stands

/-- In front of the loop the directory has been extended by the marker at most. -/
theorem ahead_start {first limit : Int} {now : ReductionState} {world marked opened : World σ}
    (careful : Careful reducer base world.scratch) (positive : 1 ≤ first)
    (numbered : Numbered world.files reducer.work base whole first.toNat)
    (marking : Progress.placeMarker reducer.work world = .ok () marked)
    (checks : Checks reducer base now (announced base first limit now marked) (.ok () (now, opened))) :
    Ahead reducer base whole world.scratch ⟨first.toNat, [], now, opened⟩ ∧
      Extends reducer.work base world.files opened.files := by
  have agree := (careful.opened_agrees marking checks).1
  obtain ⟨numbered, extends_⟩ := numbered.beside agree (Step.unrelated_markerName base)
  refine ⟨⟨?_, agree.scratch, by dsimp only; omega, numbered⟩, extends_⟩
  exact (agree.isDirectory fun _ => .inl).trans (Progress.placeMarker_ok marking).1

section Reduce

variable {first limit : Int} {now : ReductionState} {world : World σ}

theorem ahead_of_mem (careful : Careful reducer base world.scratch) (positive : 1 ≤ first)
    (numbered : Numbered world.files reducer.work base whole first.toNat)
    (keeps : whole → reducer.keepRejected = true) {p : Position σ}
    (member : p ∈ reducer.course base first limit now world) : Ahead reducer base whole world.scratch p :=
  course_induction (fun _ _ marking checks => (ahead_start careful positive numbered marking checks).1)
    (fun _ _ _ further ahead => (ahead.next careful keeps further).1) member

private theorem onward_step {p : Position σ} {left : World σ} (ahead : Ahead reducer base whole scratch p)
    {number : Nat} (same : number = p.number) {outcome : StepOutcome}
    (agree : World.Agrees (Progress.Beside reducer.work (Step.fileNames base number outcome)) p.world left) :
    Onward reducer.work base whole p.world left := by
  subst same
  obtain ⟨extends_, absent, present⟩ := ahead.numbered.step ahead.positive
    (agree.files.mono fun _ => Progress.Files.beside) fun directory => (agree.isDirectory fun _ => .inl).trans directory
  refine ⟨extends_, agree.scratch, ?_⟩
  cases stands : (left.files.lookup? (reducer.work.place ++ [Step.fileName base p.number outcome])).isSome with
  | true => exact ⟨_, present stands⟩
  | false => exact ⟨_, absent stands⟩

/-- Writing the final shader goes on from the last position. -/
private theorem onward_final {last : Position σ} (plain : '/' ∉ base.toList)
    (ahead : Ahead reducer base whole scratch last) :
    Onward reducer.work base whole last.world
      (after (Artifact.writeFinal reducer.work base last.state.shader) last.world) := by
  rw [Artifact.writeFinal_eq]
  exact .beside ahead.numbered (Artifact.write_agrees .final last.state.shader (Step.isName_finalStem plain)
    (FileTree.standing_of_isDirectory ahead.directory)) (Step.unrelated_finalNames base)

private theorem onward_cleared {a b : World σ} (onward : Onward reducer.work base whole a b)
    (directory : a.files.isDirectory reducer.work = true) :
    Onward reducer.work base whole a (after (Progress.clearMarker reducer.work) b) := by
  obtain ⟨bound, numbered⟩ := onward.numbered
  exact onward.trans (.beside numbered
    (Progress.clearMarker_agrees (FileTree.standing_of_isDirectory (onward.extends_.directory directory)))
    (Step.unrelated_markerName base))

/-- The world at the last position of a reduction, or the one in which it began. -/
def lastWorld (course : List (Position σ)) (world : World σ) : World σ := (course.getLast?.map (·.world)).getD world

/-- A relation that leads to the first position, from each position to the next one, and from the last one on, holds
all along a reduction. -/
theorem worlds_chain {leads : World σ → World σ → Prop} {left : World σ}
    (begins : ∀ p, (reducer.course base first limit now world).head? = some p → leads world p.world)
    (step : ∀ p ∈ reducer.course base first limit now world, ∀ q, reducer.next? base p = some q → leads p.world q.world)
    (ends : leads (lastWorld (reducer.course base first limit now world) world) left) :
    List.IsChain leads (world :: (reducer.course base first limit now world).map (·.world) ++ [left]) := by
  rw [List.isChain_append]
  refine ⟨List.isChain_cons.mpr ⟨fun next head => ?_, ?_⟩, .singleton _, fun last isLast left isLeft => ?_⟩
  · rw [List.head?_map, Option.mem_def, Option.map_eq_some_iff] at head
    obtain ⟨p, head, rfl⟩ := head
    exact begins p head
  · rw [List.isChain_map]
    exact course_chain step
  · rw [Option.mem_def, List.getLast?_cons, List.getLast?_map] at isLast
    cases isLast
    cases isLeft
    exact ends

/-- However a reduction ends, it goes on from its last position. -/
theorem reduce_onward (careful : Careful reducer base world.scratch) (running : now.status = .running)
    (directory : world.files.isDirectory reducer.work = true) (positive : 1 ≤ first)
    (numbered : Numbered world.files reducer.work base whole first.toNat)
    (keeps : whole → reducer.keepRejected = true) :
    Onward reducer.work base whole (lastWorld (reducer.course base first limit now world) world)
      (leaves (reducer.reduce base first limit (now, world))).2 := by
  have standing := FileTree.standing_of_isDirectory directory
  have ahead := fun last (isLast : (reducer.course base first limit now world).getLast? = some last) =>
    ahead_of_mem careful positive numbered keeps (List.mem_of_getLast? isLast)
  have reduces := reduce_cases reducer base first limit world running
  generalize reducer.reduce base first limit (now, world) = result at reduces ⊢
  cases reduces with
  | refused message low => omega
  | unmarked empty failed =>
    rw [lastWorld, empty]
    exact .beside numbered (after_error failed ▸ Progress.placeMarker_agrees standing) (Step.unrelated_markerName base)
  | unchecked empty marking checks =>
    rw [lastWorld, empty]
    exact .beside numbered (careful.opened_agrees marking checks).1 (Step.unrelated_markerName base)
  | crashed isLast steps =>
    have ahead := ahead _ isLast
    obtain ⟨outcome, agree⟩ := Careful.step_agrees (ahead.sameScratch.symm ▸ careful) ahead.directory steps
    rw [lastWorld, isLast]
    exact onward_step ahead rfl agree
  | unwritten isLast failed =>
    rw [lastWorld, isLast]
    exact after_error failed ▸ onward_final careful.plain (ahead _ isLast)
  | uncleared status isLast writing failed =>
    have final := after_ok writing ▸ onward_final careful.plain (ahead _ isLast)
    rw [lastWorld, isLast]
    exact after_error failed ▸ onward_cleared final (ahead _ isLast).directory
  | finished status message isLast writing clearing _ =>
    have final := after_ok writing ▸ onward_final careful.plain (ahead _ isLast)
    rw [lastWorld, isLast]
    have cleared := after_ok clearing ▸ onward_cleared final (ahead _ isLast).directory
    exact ⟨cleared.extends_, cleared.sameScratch, cleared.numbered⟩

/-- A reduction goes on from each of its positions to the next. -/
theorem reduce_chain (careful : Careful reducer base world.scratch) (running : now.status = .running)
    (directory : world.files.isDirectory reducer.work = true) (positive : 1 ≤ first)
    (numbered : Numbered world.files reducer.work base whole first.toNat)
    (keeps : whole → reducer.keepRejected = true) :
    List.IsChain (Onward reducer.work base whole)
      (world :: (reducer.course base first limit now world).map (·.world) ++
        [(leaves (reducer.reduce base first limit (now, world))).2]) := by
  have ahead := fun p (member : p ∈ reducer.course base first limit now world) =>
    ahead_of_mem careful positive numbered keeps member
  refine worlds_chain (fun p head => ?_) (fun p member q further => ?_)
    (reduce_onward careful running directory positive numbered keeps)
  · obtain ⟨marked, opened, marking, checks, rfl⟩ := course_head head
    obtain ⟨ahead, extends_⟩ := ahead_start careful positive numbered marking checks
    exact ⟨extends_, ahead.sameScratch, _, ahead.numbered⟩
  · obtain ⟨next, extends_⟩ := (ahead p member).next careful keeps further
    exact ⟨extends_, next.sameScratch.trans (ahead p member).sameScratch.symm, _, next.numbered⟩

end Reduce

end Reducer

end ShaderShrink
