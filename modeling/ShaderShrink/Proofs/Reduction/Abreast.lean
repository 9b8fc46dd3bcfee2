import ShaderShrink.Proofs.Alongside
import ShaderShrink.Proofs.Reduction.Trial
import ShaderShrink.Proofs.Reduction.Unhindered

/-!
# Worlds abreast

Two reductions are followed side by side.  Their worlds are abreast of each other if the judge has been shown the same
candidates in both and all own files are the same, except for some names that only one of the reductions may write.  A
judge that remembers what it has been shown says the same in both worlds, and files that are written in both of them
are the same in both again.
-/

namespace ShaderShrink

open Effect

variable {σ α : Type}

/-- What makes a verdict depend on nothing but the candidates that were shown so far: the tools outside of the program
remember them, and a sequence of candidates gets one answer. -/
structure Verdict.Remembers (verdict : Verdict σ) (shown : σ → List Shader) (answer : List Shader → Reducer.Answer) :
    Prop where
  notes : ∀ candidate world,
    shown (after (verdict candidate) world).outside = shown world.outside ++ [candidate.shader]
  answers : ∀ candidate world,
    Reducer.answerOf (verdict candidate world) = answer (shown world.outside ++ [candidate.shader])

/-! ## Artifacts side by side -/

/-- Writing a document runs in two worlds alongside each other if writing its file does. -/
theorem Action.writeJson_alongside {beside : World σ → World σ → Prop} {path : Path} {a b : World σ} (value : Json)
    (stands : a.files.isDirectory path.parent = true) (stands' : b.files.isDirectory path.parent = true)
    (writes : ∀ content, Alongside Eq beside (writeBytes path content a) (writeBytes path content b)) (near : beside a b) :
    Alongside Eq beside (writeJson path value a) (writeJson path value b) := by
  unfold writeJson
  rw [bind_of_ok (makeDirectories_of_isDirectory stands), bind_of_ok (makeDirectories_of_isDirectory stands')]
  cases value.indented? with
  | none => exact .error _ near
  | some document => exact writes _

section Artifacts

variable {work : Path} {stem : String} {beside : World σ → World σ → Prop} {a b : World σ}
  (stands : ∀ a b, beside a b → a.files.isDirectory work = true ∧ b.files.isDirectory work = true)
  (writes : ∀ name ∈ Shader.fileNames stem, ∀ content a b, beside a b →
    Alongside Eq beside (Action.writeBytes (work.entry name) content a) (Action.writeBytes (work.entry name) content b))
include stands writes

/-- Storing a shader runs in two worlds alongside each other if writing its two files does. -/
theorem Shader.store_alongside (shader : Shader) (named : stem ≠ "") (near : beside a b) :
    Alongside (fun path path' => path = work.entry (stem ++ fileSuffix) ∧ path' = path) beside
      (shader.store (work.entry stem) a) (shader.store (work.entry stem) b) := by
  unfold store
  rw [Path.entry_name, Path.withName_of_ne _ (by rwa [Path.entry_name]), Path.withName_of_ne _ (by rwa [Path.entry_name]),
    Path.entry_parent, bind_of_ok (Action.ofExcept_ok _ a), bind_of_ok (Action.ofExcept_ok _ b), Path.entry_parent,
    bind_of_ok (Action.makeDirectories_of_isDirectory (stands a b near).1),
    bind_of_ok (Action.makeDirectories_of_isDirectory (stands a b near).2)]
  refine (writes _ (by simp [fileNames]) _ a b near).bind (fun _ _ near => near) fun _ _ a b _ near => ?_
  rw [bind_of_ok (Action.ofExcept_ok _ a), bind_of_ok (Action.ofExcept_ok _ b)]
  refine (Action.writeJson_alongside _ (by rw [Path.entry_parent]; exact (stands a b near).1)
    (by rw [Path.entry_parent]; exact (stands a b near).2) (fun content => writes _ (by simp [fileNames]) content a b near)
    near).bind (fun _ _ near => near) fun _ _ a b _ near => .ok ⟨rfl, rfl⟩ near

/-- Writing an artifact runs in two worlds alongside each other if writing its two files does. -/
theorem Artifact.write_alongside (kind : ArtifactKind) (shader : Shader) (isName : Path.IsName stem)
    (reads : ∀ a b, beside a b →
      FileTree.AgreeOn (· ∈ (work.entry (stem ++ Shader.fileSuffix)).visited) a.files b.files) (near : beside a b) :
    Alongside Eq beside (Artifact.write work stem kind shader a) (Artifact.write work stem kind shader b) := by
  unfold Artifact.write Artifact.ofFile
  rw [Path.child_of_isName work isName]
  refine (Shader.store_alongside stands writes shader isName.ne_empty near).bind (fun _ _ near => near) ?_
  rintro path _ a b ⟨rfl, rfl⟩ near
  refine (Action.readBytes_alongside (reads a b near) near).bind (fun _ _ near => near) ?_
  rintro content _ a b rfl near
  exact .ok rfl near

end Artifacts

/-! ## Worlds that are ready -/

namespace Progress

variable {work scratch : Path} {base : String} {names : List String}

/-- Whether a world is ready for the next step: the working directory stands and has room for some files, and nothing is
in the way of the scratch directory. -/
structure Ready (work scratch : Path) (names : List String) (world : World σ) : Prop where
  sameScratch : world.scratch = scratch
  stands : world.files.isDirectory work = true
  vacant : world.files.Vacant scratch
  room : ∀ name ∈ names, world.files.Admits (work.entry name)

namespace Ready

variable {world : World σ} (ready : Ready work scratch names world)
include ready

theorem noting (level : Level) (message : String) : Ready work scratch names (world.noting level message) :=
  ⟨ready.sameScratch, ready.stands, ready.vacant, ready.room⟩

/-- Whatever keeps the own files and clears the scratch directory away leaves a world that is ready. -/
theorem of_agrees {left : World σ} (shaders : ∀ name ∈ names, ∃ stem, name ∈ Shader.fileNames stem)
    (agree : World.Agrees (Own work) world left) (vacant : left.files.Vacant scratch) : Ready work scratch names left where
  sameScratch := agree.scratch.trans ready.sameScratch
  stands := (agree.isDirectory fun _ => own_visited).trans ready.stands
  vacant := vacant
  room name member := by
    obtain ⟨stem, file⟩ := shaders name member
    exact (ready.room name member).of_agreeOn (agree.files.mono fun _ visited =>
      (beside_entry (Shader.isOwn_of_mem_fileNames file) (Shader.ne_of_mem_fileNames file) List.not_mem_nil visited).own)

/-- Writing one of the own files leaves a world that is ready. -/
theorem write (apart : Apart work base scratch) {name : String} (own : IsOwn name) (down : name ≠ "..")
    {content : ByteArray} {tree : FileTree} (written : world.files.write (work.entry name) content = .ok tree) :
    Ready work scratch names { world with files := tree } where
  sameScratch := ready.sameScratch
  stands := FileTree.isDirectory_write written ready.stands
  vacant := by
    have clear := apart.clear_needed (FileTree.standing_of_isDirectory ready.stands) own down
    have run : Action.writeBytes (work.entry name) content world = .ok () { world with files := tree } := by
      rw [Action.writeBytes, Action.changeFiles_apply, written]
    have kept := after_ok run ▸ Action.writeBytes_agrees clear content
    exact ready.vacant.of_agreeOn kept.files
  room other member := (ready.room other member).of_write written

/-- Writing an artifact leaves a world that is ready, also when it ends with a fault. -/
theorem writeArtifact (apart : Apart work base scratch) {stem : String} (isName : Path.IsName stem) (kind : ArtifactKind)
    (shader : Shader) : Ready work scratch names (after (Artifact.write work stem kind shader) world) := by
  let beside (a b : World σ) : Prop := b = a ∧ Ready work scratch names a
  have writes : ∀ name ∈ Shader.fileNames stem, ∀ content a b, beside a b → Alongside Eq beside
      (Action.writeBytes (work.entry name) content a) (Action.writeBytes (work.entry name) content b) := by
    rintro name member content a _ ⟨rfl, ready⟩
    refine Action.writeBytes_alongside (.refl _ _) ⟨rfl, ready⟩ fun tree tree' written written' => ?_
    cases written.symm.trans written'
    exact ⟨rfl, ready.write apart (Shader.isOwn_of_mem_fileNames member) (Shader.ne_of_mem_fileNames member) written⟩
  have alongside : Alongside Eq beside (Artifact.write work stem kind shader world) (Artifact.write work stem kind shader world) :=
    Artifact.write_alongside (fun _ _ near => ⟨near.2.stands, near.1 ▸ near.2.stands⟩) writes kind shader isName
      (fun _ _ near => near.1 ▸ .refl _ _) ⟨rfl, ready⟩
  exact alongside.leaves.2

/-- Placing the marker leaves a world that is ready. -/
theorem placeMarker (apart : Apart work base scratch) {marked : World σ}
    (marking : Progress.placeMarker work world = .ok () marked) : Ready work scratch names marked := by
  unfold Progress.placeMarker Action.touch at marking
  rw [bind_of_ok (Action.files_apply world)] at marking
  split at marking
  · obtain ⟨written, same⟩ := Action.changeFiles_ok marking
    rw [marker_eq] at written
    exact same ▸ ready.write apart (.inr rfl) markerName_ne written
  · cases marking
    exact ready

end Ready

/-- Whether two worlds are abreast of each other: both are ready for the next step, the own files are the same in both
except for some names, and the judge has been shown the same candidates. -/
structure Abreast (work scratch : Path) (names : List String) (shown : σ → List Shader) (a b : World σ) : Prop where
  ready : Ready work scratch names a
  ready' : Ready work scratch names b
  files : FileTree.AgreeOn (Beside work names) a.files b.files
  shown : shown a.outside = shown b.outside

namespace Abreast

variable {shown : σ → List Shader} {a b : World σ} (abreast : Abreast work scratch names shown a b)
include abreast

theorem noting (level level' : Level) (message message' : String) :
    Abreast work scratch names shown (a.noting level message) (b.noting level' message') :=
  ⟨abreast.ready.noting level message, abreast.ready'.noting level' message', abreast.files, abreast.shown⟩

/-- What the path of a file visits is the same in both worlds. -/
theorem agreeOn_entry {name : String} (own : IsOwn name) (down : name ≠ "..") (other : name ∉ names) :
    FileTree.AgreeOn (· ∈ (work.entry name).visited) a.files b.files :=
  abreast.files.mono fun _ => beside_entry own down other

/-- A file that was written in both worlds leaves them abreast. -/
theorem write (apart : Apart work base scratch) {name : String} (own : IsOwn name) (down : name ≠ "..")
    {content : ByteArray} {tree tree' : FileTree} (written : a.files.write (work.entry name) content = .ok tree)
    (written' : b.files.write (work.entry name) content = .ok tree') :
    Abreast work scratch names shown { a with files := tree } { b with files := tree' } where
  ready := abreast.ready.write apart own down written
  ready' := abreast.ready'.write apart own down written'
  shown := abreast.shown
  files place beside := by
    by_cases same : place = (work.entry name).place
    · obtain ⟨-, free, rfl⟩ := FileTree.write_ok written
      obtain ⟨-, -, rfl⟩ := FileTree.write_ok written'
      have inside := FileTree.place_ne_nil_of_free free
      rw [same, FileTree.lookup?_set_self _ inside, FileTree.lookup?_set_self _ inside]
    · rw [FileTree.lookup?_write_of_ne written same, FileTree.lookup?_write_of_ne written' same]
      exact abreast.files place beside

/-- An artifact that is written into both working directories is the same in both. -/
theorem writeArtifact (apart : Apart work base scratch) {stem : String} (isName : Path.IsName stem) (kind : ArtifactKind)
    (shader : Shader) (others : ∀ name ∈ Shader.fileNames stem, name ∉ names) :
    Alongside Eq (Abreast work scratch names shown) (Artifact.write work stem kind shader a)
      (Artifact.write work stem kind shader b) := by
  have text : stem ++ Shader.fileSuffix ∈ Shader.fileNames stem := by simp [Shader.fileNames]
  refine Artifact.write_alongside (fun _ _ abreast => ⟨abreast.ready.stands, abreast.ready'.stands⟩) ?_ kind shader isName
    (fun _ _ abreast => abreast.agreeOn_entry (Shader.isOwn_of_mem_fileNames text) (Shader.ne_of_mem_fileNames text)
      (others _ text)) abreast
  intro name member content a b abreast
  have own := Shader.isOwn_of_mem_fileNames member
  have down := Shader.ne_of_mem_fileNames member
  exact Action.writeBytes_alongside (abreast.agreeOn_entry own down (others name member)) abreast
    fun _ _ => abreast.write apart own down

/-- Files that only one reduction may write leave the worlds abreast. -/
theorem writeArtifact_left (apart : Apart work base scratch) {stem : String} (isName : Path.IsName stem) (kind : ArtifactKind)
    {shader : Shader} (spare : ∀ name ∈ Shader.fileNames stem, name ∈ names) (writable : shader.Writable) :
    ∃ artifact left, Artifact.write work stem kind shader a = .ok artifact left ∧ Abreast work scratch names shown left b := by
  obtain ⟨artifact, left, writing⟩ : ∃ artifact left, Artifact.write work stem kind shader a = .ok artifact left :=
    Artifact.write_of_admits isName abreast.ready.stands (fun name member => abreast.ready.room name (spare name member)) writable
  refine ⟨artifact, left, writing, ?_, abreast.ready', ?_, ?_⟩
  · exact after_ok writing ▸ abreast.ready.writeArtifact apart isName kind shader
  · have kept := after_ok writing ▸ Artifact.write_agrees kind shader isName
      (FileTree.standing_of_isDirectory abreast.ready.stands)
    refine (kept.files.symm.mono fun place => ?_).trans abreast.files
    exact Or.imp_right fun ⟨name, own, other, same⟩ => ⟨name, own, fun member => other (spare name member), same⟩
  · obtain ⟨-, -, same, -⟩ := Artifact.write_ok isName abreast.ready.stands writing
    rw [same]
    exact abreast.shown

end Abreast

end Progress

namespace Reducer

variable {reducer : Reducer σ} {base : String} {scratch : Path} {names : List String} {shown : σ → List Shader}
  {answer : List Shader → Answer} {a b world : World σ}

open Progress (Ready Abreast)

theorem alongside_of_answerOf {beside : World σ → World σ → Prop} {result result' : EStateM.Result Fault (World σ) Bool}
    (same : answerOf result = answerOf result') (near : beside (leaves result) (leaves result')) :
    Alongside Eq beside result result' := by
  cases result with
  | ok value left =>
    cases result' with
    | ok value' left' =>
      cases same
      exact .ok rfl near
    | error fault left' => cases same
  | error fault left =>
    cases result' with
    | ok value' left' => cases same
    | error fault' left' =>
      cases same
      exact .error _ near

/-- The judge is shown the candidate and gives the answer that belongs to it, unless its metadata cannot be written. -/
theorem judge_remembers (sheltered : Sheltered reducer base world.scratch) (vacant : world.files.Vacant world.scratch)
    (remembers : reducer.verdict.Remembers shown answer) (candidate : Shader) :
    (shown (after (reducer.judge base candidate) world).outside =
      if candidate.Writable then shown world.outside ++ [candidate] else shown world.outside) ∧
    answerOf (reducer.judge base candidate world) =
      if candidate.Writable then answer (shown world.outside ++ [candidate]) else .error .unwritableJson := by
  by_cases writable : candidate.Writable
  · obtain ⟨path, stored, -, same, -, judged⟩ := judge_of_writable sheltered vacant writable
    have outside : stored.outside = world.outside := by rw [same]
    have notes := remembers.notes ⟨candidate, path, world.scratch⟩ stored
    have answers := remembers.answers ⟨candidate, path, world.scratch⟩ stored
    rw [outside] at notes answers
    rw [if_pos writable, if_pos writable, after, judged, leaves_adjust, ← answers]
    refine ⟨notes, ?_⟩
    cases reducer.verdict ⟨candidate, path, world.scratch⟩ stored <;> rfl
  · obtain ⟨left, outside, judged⟩ := judge_of_unwritable sheltered vacant writable
    rw [if_neg writable, if_neg writable, after_error judged, judged, outside]
    exact ⟨rfl, rfl⟩

section Judge

variable (careful : Careful reducer base scratch) (sheltered : Sheltered reducer base scratch)
  (shaders : ∀ name ∈ names, ∃ stem, name ∈ Shader.fileNames stem)
include careful sheltered shaders

/-- A judgement leaves all own files alone, and a world that is ready. -/
theorem judge_ready (ready : Ready reducer.work scratch names world) (candidate : Shader) :
    World.Agrees (Progress.Own reducer.work) world (after (reducer.judge base candidate) world) ∧
      Ready reducer.work scratch names (after (reducer.judge base candidate) world) := by
  have same := ready.sameScratch
  subst same
  have agree := careful.judge_agrees ready.stands candidate
  exact ⟨agree, ready.of_agrees shaders agree (judge_vacant sheltered ready.vacant candidate)⟩

omit shaders in
/-- The record of a step leaves a world that is ready, and changes nothing but files. -/
theorem recorded_ready {candidate : Shader} {world judged left : World σ} {said : Answer} {key : String} {number : Nat}
    {records : List StepRecord} (ready : Ready reducer.work scratch [] world)
    (answers : Answers reducer base candidate world said judged)
    (recorded : Recorded reducer base key number candidate said judged records left) :
    Ready reducer.work scratch [] left ∧ left = { judged with files := left.files } := by
  have judgedReady := (judge_ready careful sheltered (fun _ member => (List.not_mem_nil member).elim) ready candidate).2
  rw [answers_after answers] at judgedReady
  cases recorded with
  | dropped _ => exact ⟨judgedReady, rfl⟩
  | written _ writing =>
    rw [Artifact.writeStep_eq] at writing
    have isName := Step.isName_fileStem careful.plain number (outcomeOf said)
    obtain ⟨-, -, same, -⟩ := Artifact.write_ok isName judgedReady.stands writing
    exact ⟨after_ok writing ▸ judgedReady.writeArtifact careful.apart isName _ candidate, same⟩

/-- A judge that remembers says the same in both worlds, and leaves them abreast. -/
theorem judge_abreast (remembers : reducer.verdict.Remembers shown answer)
    (abreast : Abreast reducer.work scratch names shown a b) (candidate : Shader) :
    Alongside (fun interesting interesting' => interesting' = interesting ∧ candidate.Writable)
      (Abreast reducer.work scratch names shown) (reducer.judge base candidate a) (reducer.judge base candidate b) := by
  obtain ⟨agree, ready⟩ := judge_ready careful sheltered shaders abreast.ready candidate
  obtain ⟨agree', ready'⟩ := judge_ready careful sheltered shaders abreast.ready' candidate
  have files := ((agree.files.mono fun _ => Progress.Beside.own).symm.trans abreast.files).trans
    (agree'.files.mono fun _ => Progress.Beside.own)
  obtain ⟨notes, answers⟩ := judge_remembers (abreast.ready.sameScratch ▸ sheltered)
    (abreast.ready.sameScratch ▸ abreast.ready.vacant) remembers candidate
  obtain ⟨notes', answers'⟩ := judge_remembers (abreast.ready'.sameScratch ▸ sheltered)
    (abreast.ready'.sameScratch ▸ abreast.ready'.vacant) remembers candidate
  rw [← abreast.shown] at notes' answers'
  have alongside : Alongside Eq (Abreast reducer.work scratch names shown) (reducer.judge base candidate a)
      (reducer.judge base candidate b) := alongside_of_answerOf (answers.trans answers'.symm)
    ⟨ready, ready', files, notes.trans notes'.symm⟩
  generalize run : reducer.judge base candidate a = result, reducer.judge base candidate b = result' at alongside
  cases alongside with
  | ok same near => exact .ok ⟨same.symm, writable_of_judge run⟩ near
  | error fault near => exact .error fault near

end Judge

end Reducer

end ShaderShrink
