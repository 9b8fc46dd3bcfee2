import ShaderShrink.Proofs.Dispatch.Serving
import ShaderShrink.Proofs.Image.Comparison
import ShaderShrink.Proofs.Reduction.Unhindered

/-!
# What judges make of a server's responses

A judge behind a server answers or fails as an oracle does, whatever the responses are, as long as it copes with their
images and has the files that it needs itself.  It keeps those files for the next candidate.
-/

namespace ShaderShrink

open Effect

variable {σ : Type}

/-- Writing a file leaves all others readable, and itself. -/
theorem FileTree.exists_read_of_write {tree left : FileTree} {path other : Path} {content bytes : ByteArray}
    (found : tree.read path = .ok content) (written : tree.write other bytes = .ok left) :
    ∃ content', left.read path = .ok content' := by
  by_cases same : path.place = other.place
  · obtain ⟨located, stands⟩ := lookup?_of_read found
    have admits : tree.Admits path := ⟨located, by rw [stands]; exact nofun⟩
    obtain ⟨-, free, rfl⟩ := write_ok written
    refine ⟨bytes, read_of_lookup? (admits.of_write written).located ?_⟩
    rw [same, lookup?_set_self tree (place_ne_nil_of_free free)]
  · exact ⟨content, read_write_of_ne found written same⟩

theorem FileTree.exists_read_of_isFile {tree : FileTree} {path : Path} (isFile : tree.isFile path = true) :
    ∃ content, tree.read path = .ok content := by
  unfold FileTree.isFile FileTree.at? at isFile
  cases located : tree.locate path with
  | error failure => simp [located] at isFile
  | ok place =>
    rw [located] at isFile
    dsimp only at isFile
    split at isFile
    · rename_i content stands
      exact ⟨content, by simp only [FileTree.read, located, bind, Except.bind, stands]⟩
    · cases isFile

namespace RenderOutcome

variable {outcome : RenderOutcome} {tree : FileTree} {image : Path}

theorem producedImage?_eq_some : outcome.producedImage? tree = some image ↔
    outcome.status = .success ∧ outcome.image = some image ∧ tree.isFile image = true := by
  unfold producedImage?
  split_ifs with success
  · rw [Option.filter_eq_some_iff]
    exact ⟨fun shown => ⟨success, shown⟩, fun shown => shown.2⟩
  · exact iff_of_false nofun fun shown => success shown.1

/-- The image that a rendering produced can be read. -/
theorem exists_read (produced : outcome.producedImage? tree = some image) : ∃ bytes, tree.read image = .ok bytes :=
  FileTree.exists_read_of_isFile (producedImage?_eq_some.mp produced).2.2

/-- Every outcome has a fingerprint. -/
theorem exists_fingerprint (outcome : RenderOutcome) (world : World σ) :
    ∃ content, outcome.fingerprint world = .ok (Blake3.digest content) world := by
  obtain ⟨image, digest⟩ : ∃ image, outcome.imageDigest world = .ok image world := by
    unfold imageDigest
    rw [bind_of_ok (Action.files_apply world)]
    cases produced : outcome.producedImage? world.files with
    | none => exact ⟨none, rfl⟩
    | some image =>
      obtain ⟨bytes, found⟩ := exists_read produced
      exact ⟨_, bind_of_ok (Action.readBytes_of_read found) _⟩
  exact ⟨_, bind_of_ok digest _⟩

end RenderOutcome

namespace Judge

/-- The endings of the names of a behaviour's files in the corpus. -/
def corpusEndings : List String := [Shader.fileSuffix, Shader.metadataSuffix, ".png"]

/-- Whether a path is that of a file of its own that a judge reads or writes. -/
def Uses (judge : Judge) (path : Path) : Prop :=
  match judge with
  | image reference _ => path = reference
  | fuzzing corpus => ∃ content, ∃ ending ∈ corpusEndings, path = corpus.child (Blake3.digest content ++ ending)
  | _ => False

/-- Whether all files that a judge needs are there: an image to compare with, or room in the corpus. -/
def Equipped (judge : Judge) (tree : FileTree) : Prop :=
  match judge with
  | image reference _ => ∃ content picture, tree.read reference = .ok content ∧ Picture.ofBytes content = .ok picture
  | fuzzing corpus => ∀ path, (fuzzing corpus).Uses path → tree.Admits path
  | _ => True

/-- Whether a judge can tell of every log whether it has the pattern. -/
def Decides (judge : Judge) : Prop :=
  match judge with
  | noImage (some pattern) _ | validatorError pattern => ∀ log, ∃ answer, pattern.fullMatch log = .ok answer
  | _ => True

/-- Whether a judge copes with the image of a response, if it looks at images at all. -/
def CopesWith (judge : Judge) (response : Response) : Prop :=
  match judge with
  | noImage _ _ | fuzzing _ => Server.ShowsIn (fun _ => True) response
  | image _ _ => Server.ShowsIn (fun content => ∃ picture, Picture.ofBytes content = .ok picture) response
  | _ => True

variable {judge : Judge} {a b : FileTree}

/-- What a judge needs depends only on what its paths visit. -/
theorem Equipped.of_agreeOn (equipped : judge.Equipped a)
    (agree : ∀ path, judge.Uses path → FileTree.AgreeOn (· ∈ path.visited) a b) : judge.Equipped b := by
  cases judge with
  | image reference comparison =>
    obtain ⟨content, picture, found, shown⟩ := equipped
    exact ⟨content, picture, (agree reference rfl).read.symm.trans found, shown⟩
  | fuzzing corpus => exact fun path uses => (equipped path uses).of_agreeOn (agree path uses)
  | always | noImage _ _ | validatorError _ => trivial

/-- Writing at a place that none of its paths visits takes nothing from a judge. -/
theorem Equipped.of_write {path : Path} {bytes : ByteArray} (equipped : judge.Equipped a)
    (written : a.write path bytes = .ok b) (apart : ∀ used, judge.Uses used → path.place ∉ used.visited) :
    judge.Equipped b :=
  equipped.of_agreeOn fun used uses _ member =>
    (FileTree.lookup?_write_of_ne written fun same => apart used uses (same ▸ member)).symm

/-- What a judgement behind a server leaves: some job numbers may be taken, and the judge has all that it needs. -/
structure Leaves (judge : Judge) (count : Nat) (before after : World σ) : Prop where
  takes : World.Takes count before { after with files := before.files }
  equipped : judge.Equipped after.files

section Corpus

variable {corpus : Path} {world : World σ} {count : Nat} {start : World σ} {content : ByteArray} {ending : String}

/-- What is named after a digest in a corpus has a name of its own. -/
theorem isName_of_ending (content : ByteArray) (member : ending ∈ corpusEndings) :
    Path.IsName (Blake3.digest content ++ ending) := by
  obtain ⟨plain, long⟩ : '/' ∉ ending.toList ∧ 3 ≤ ending.length := by
    simp only [corpusEndings, List.mem_cons, List.not_mem_nil, or_false] at member
    rcases member with rfl | rfl | rfl <;> decide
  exact isName_record content plain long

private theorem uses_corpus (content : ByteArray) (member : ending ∈ corpusEndings) :
    (fuzzing corpus).Uses (corpus.child (Blake3.digest content ++ ending)) := ⟨content, ending, member, rfl⟩

/-- A file that is written into the corpus takes nothing from the judge. -/
private theorem Leaves.write {target : Path} {bytes : ByteArray} {tree : FileTree}
    (leaves : (fuzzing corpus).Leaves count start world) (written : world.files.write target bytes = .ok tree) :
    (fuzzing corpus).Leaves count start { world with files := tree } :=
  ⟨leaves.takes, fun path used => (leaves.equipped path used).of_write written⟩

/-- A file is copied into the corpus where there is room. -/
private theorem copy_settles {source target : Path} {bytes : ByteArray} (leaves : (fuzzing corpus).Leaves count start world)
    (found : world.files.read source = .ok bytes) (uses : (fuzzing corpus).Uses target) :
    ∃ left, Action.copy source target world = .ok () left ∧ (fuzzing corpus).Leaves count start left := by
  have written := (leaves.equipped target uses).write bytes
  refine ⟨{ world with files := world.files.set target.place (.file bytes) }, ?_, leaves.write written⟩
  rw [Action.copy, bind_of_ok (Action.readBytes_of_read found)]
  exact Action.writeBytes_of_admits (leaves.equipped target uses) bytes

/-- The record of a behaviour is written into the corpus. -/
private theorem writeRecord_settles {outcome : RenderOutcome} (leaves : (fuzzing corpus).Leaves count start world)
    (content : ByteArray) :
    ∃ left, Action.writeJson (corpus.child (Blake3.digest content ++ Shader.metadataSuffix))
        (corpusRecord (Blake3.digest content) outcome) world = .ok () left ∧ (fuzzing corpus).Leaves count start left := by
  have member : Shader.metadataSuffix ∈ corpusEndings := by decide
  have admits := leaves.equipped _ (uses_corpus content member)
  have stands : world.files.isDirectory (corpus.child (Blake3.digest content ++ Shader.metadataSuffix)).parent = true := by
    rw [Path.child_of_isName corpus (isName_of_ending content member)] at admits ⊢
    rw [Path.entry_parent]
    exact FileTree.isDirectory_of_locate_entry admits.located
  obtain ⟨document, writable⟩ : ∃ document, (corpusRecord (Blake3.digest content) outcome).indented? = some document :=
    ⟨_, rfl⟩
  exact ⟨_, Action.writeJson_of_admits stands admits writable, leaves.write (admits.write _)⟩

/-- A behaviour is looked up in the corpus, and added to it if it is new. -/
private theorem judgeFuzzing_settles {dispatcher : Dispatcher σ} {candidate : Candidate} {fails : World σ → Prop}
    (renders : (dispatcher.render candidate.path candidate.image false).Settles start
      (fun _ left => (fuzzing corpus).Leaves count start left ∧ ∃ text, left.files.read candidate.path = .ok text) fails) :
    (judgeFuzzing dispatcher corpus candidate).Settles start (fun _ => (fuzzing corpus).Leaves count start) fails := by
  refine .bind renders ?_
  rintro outcome world ⟨leaves, text, stored⟩
  obtain ⟨content, fingerprint⟩ := outcome.exists_fingerprint world
  refine .bindOk fingerprint ?_
  have uses := fun {ending : String} => @uses_corpus corpus ending content
  have canLook : world.files.canLook (corpus.child (Blake3.digest content ++ Shader.metadataSuffix)) = true := by
    rw [FileTree.canLook, (leaves.equipped _ (uses (by decide))).located]
  dsimp only
  refine .bindOk (show Action.isPresent _ world = .ok _ world by rw [Action.isPresent_apply, if_pos canLook]) ?_
  split
  · exact .ofOk rfl leaves
  · obtain ⟨copied, copying, leaves⟩ := copy_settles leaves stored (@uses Shader.fileSuffix (by decide))
    refine .bindOk copying (.bindOk (Action.files_apply copied) ?_)
    have recorded : ∀ {world : World σ}, (fuzzing corpus).Leaves count start world → Action.Settles (do
        Action.writeJson (corpus.child (Blake3.digest content ++ Shader.metadataSuffix))
          (corpusRecord (Blake3.digest content) outcome)
        Action.log .info ("new behaviour " ++ String.ofList ((Blake3.digest content).toList.take 12) ++ " added to corpus")
        return true) world (fun _ => (fuzzing corpus).Leaves count start) fails := by
      intro world leaves
      obtain ⟨written, writing, leaves⟩ := writeRecord_settles leaves content
      exact .bindOk writing (.ofOk rfl ⟨leaves.takes.log _, leaves.equipped⟩)
    split
    · rename_i image produced
      obtain ⟨bytes, found⟩ := RenderOutcome.exists_read produced
      obtain ⟨shown, copying, leaves⟩ := copy_settles leaves found (@uses ".png" (by decide))
      exact .bindOk copying (recorded leaves)
    · exact recorded leaves

end Corpus

section Stored

variable {server : Server} {host : Host σ} {judge : Judge} {shader : Shader} {path scratch : Path} {world : World σ}

/-- Where the image lies apart from them, a rendering takes nothing from the files of a judge. -/
private theorem leaves_of_renders {shown : ByteArray → Prop} {count : Nat} {image : Path} {outcome : RenderOutcome}
    {left : World σ} (equipped : judge.Equipped world.files) (apart : ∀ used, judge.Uses used → image.place ∉ used.visited)
    (renders : Server.Renders shown image count world outcome left) : judge.Leaves count world left := by
  cases renders with
  | imageless _ takes => exact ⟨⟨rfl, takes.scratch, takes.least, takes.most⟩, takes.files ▸ equipped⟩
  | shown _ takes written => exact ⟨⟨rfl, takes.scratch, takes.least, takes.most⟩, equipped.of_write written apart⟩

private theorem leaves_of_takes {count : Nat} {left : World σ} (equipped : judge.Equipped world.files)
    (takes : World.Takes count world left) : judge.Leaves count world left :=
  ⟨⟨rfl, takes.scratch, takes.least, takes.most⟩, takes.files ▸ equipped⟩

/-- A judge behind a server answers about a stored shader or fails as an oracle does, if it copes with the images in the
responses that count, and has the files that it needs. -/
theorem isInteresting_settles (sends : host.Sends) (stored : Shader.StoredAt world.files path shader)
    (sendable : Metadata.Sendable shader.metadata) (numbers : World.Numbers server.attempts.toNat world)
    (admits : world.files.Admits (scratch.child "image.png")) (decides : judge.Decides)
    (copes : server.Counts host judge.CopesWith) (equipped : judge.Equipped world.files)
    (apart : ∀ used, judge.Uses used → (scratch.child "image.png").place ∉ used.visited) :
    (judge.isInteresting (server.dispatcher host) ⟨shader, path, scratch⟩).Settles world
      (fun _ => judge.Leaves server.attempts.toNat world) (judge.Leaves server.attempts.toNat world) := by
  have failing : ∀ left, World.Takes server.attempts.toNat world left → judge.Leaves server.attempts.toNat world left :=
    fun _ => leaves_of_takes equipped
  cases judge with
  | always => exact .ofOk rfl (failing _ (.refl _ world))
  | validatorError pattern =>
    refine .bind ((Server.validate_settles sends stored sendable numbers).mono (fun _ _ => failing _) failing) ?_
    intro outcome left leaves
    split
    · obtain ⟨answer, matched⟩ := decides outcome.output
      exact .ofOk (congrArg (fun result => Action.ofExcept result left) matched) leaves
    · exact .ofOk rfl leaves
  | noImage pattern skip =>
    refine .bind ((Server.render_settles sends stored sendable numbers copes admits skip).mono
      (fun _ _ => leaves_of_renders equipped apart) failing) ?_
    intro outcome left leaves
    refine .bindOk (Action.files_apply left) ?_
    split
    · exact .ofOk rfl leaves
    · obtain ⟨answer, accepts⟩ : ∃ answer, acceptsLog pattern skip outcome = .ok answer := by
        unfold acceptsLog
        split
        · exact ⟨false, rfl⟩
        · cases pattern with
          | none => exact ⟨true, rfl⟩
          | some pattern => exact decides outcome.log
      exact .ofOk (congrArg (fun result => Action.ofExcept result left) accepts) leaves
  | image reference comparison =>
    refine .bind ((Server.render_settles sends stored sendable numbers copes admits false).mono
      (fun _ _ renders => renders) failing) ?_
    intro outcome left renders
    have leaves := leaves_of_renders equipped apart renders
    refine .bindOk (Action.files_apply left) ?_
    obtain ⟨other, picture', found', decoded'⟩ := leaves.equipped
    split
    · rename_i file produced
      obtain ⟨-, isImage, -⟩ := RenderOutcome.producedImage?_eq_some.mp produced
      cases renders with
      | imageless none _ => cases none.symm.trans isImage
      | shown shown _ written =>
        obtain rfl := Option.some.inj isImage
        obtain ⟨picture, decoded⟩ := shown
        exact .ofOk (comparison.acceptsFiles_of_read (FileTree.read_write_self written) decoded found' decoded') leaves
    · exact .bindOk (Action.log_apply _ _ left) (.ofOk rfl ⟨leaves.takes.log _, leaves.equipped⟩)
  | fuzzing corpus =>
    refine judgeFuzzing_settles ((Server.render_settles sends stored sendable numbers copes admits false).mono
      (fun outcome left renders => ⟨leaves_of_renders equipped apart renders, ?_⟩) failing)
    cases renders with
    | imageless _ takes => exact ⟨_, takes.files ▸ stored.text⟩
    | shown _ _ written => exact FileTree.exists_read_of_write stored.text written

end Stored

end Judge

end ShaderShrink
