import Mathlib.Data.List.Chain
import Mathlib.Data.List.Forall2
import ShaderShrink.Proofs.Judge.Behaviour

/-!
# The corpus of behaviours

The judge for fuzzing accepts a candidate if and only if the corpus has no record of its behaviour yet, and then stores the
candidate's shader, its image and the record.  Whatever the sequence of judgements, the corpus has a record of just those
behaviours that it had before and of all about which there was an answer.
-/

namespace ShaderShrink

open Effect

variable {σ : Type}

namespace FileTree

variable {tree left : FileTree} {path other : Path} {bytes : ByteArray}

theorem isFile_iff : tree.isFile path = true ↔ ∃ content, tree.read path = .ok content :=
  ⟨exists_read_of_isFile, fun ⟨_, found⟩ => isFile_of_read found⟩

/-- Writing a file changes nothing about which files there are at other places. -/
theorem isFile_write_of_ne (written : tree.write other bytes = .ok left) (differ : path.place ≠ other.place) :
    left.isFile path = tree.isFile path := by
  rw [Bool.eq_iff_iff, isFile_iff, isFile_iff]
  exact exists_congr fun content => read_write_iff_of_ne written differ

end FileTree

/-- Copying to a path that can be located fails and changes nothing, or writes the content there. -/
theorem Action.copy_cases (source : Path) {target : Path} {world : World σ}
    (located : world.files.locate target = .ok target.place) :
    (∃ fault, Action.copy source target world = .error fault world ∧
      ((∀ bytes, world.files.read source ≠ .ok bytes) ∨ world.files.lookup? target.place = some .directory)) ∨
    ∃ bytes tree, world.files.read source = .ok bytes ∧ world.files.write target bytes = .ok tree ∧
      Action.copy source target world = .ok () { world with files := tree } := by
  unfold Action.copy
  cases found : world.files.read source with
  | error failure =>
    refine .inl ⟨_, bind_of_error (show Action.readBytes source world = .error (Action.fileFault failure source) world by
      rw [Action.readBytes_apply, found]) _, .inl fun _ same => by cases same⟩
  | ok bytes =>
    rw [bind_of_ok (Action.readBytes_of_read found), Action.writeBytes, Action.changeFiles_apply]
    by_cases directory : world.files.lookup? target.place = some .directory
    · left
      have refused : world.files.write target bytes = .error .isDirectory := by
        simp only [FileTree.write, located, bind, Except.bind, directory]
      rw [refused]
      exact ⟨_, rfl, .inr directory⟩
    · right
      have written := FileTree.Admits.write ⟨located, directory⟩ bytes
      exact ⟨bytes, _, rfl, written, by rw [written]⟩

/-! ## Files of the corpus -/

namespace Corpus

/-- Whether a place belongs to a corpus: it is on the way there, or the corpus itself or below it. -/
def Owns (corpus : Path) (place : Place) : Prop := place ∈ corpus.visited ∨ corpus.place <+: place

/-- The path of a file of a behaviour. -/
def file (corpus : Path) (fingerprint ending : String) : Path := corpus.child (fingerprint ++ ending)

/-- Whether a corpus has a record of a behaviour. -/
def Records (tree : FileTree) (corpus : Path) (fingerprint : String) : Prop :=
  (tree.lookup? (corpus.place ++ [fingerprint ++ Shader.metadataSuffix])).isSome = true

variable {corpus path : Path} {content : ByteArray} {ending other : String} {tree left : FileTree}

theorem shader_mem : Shader.fileSuffix ∈ Judge.corpusEndings := by decide

theorem image_mem : ".png" ∈ Judge.corpusEndings := by decide

theorem record_mem : Shader.metadataSuffix ∈ Judge.corpusEndings := by decide

private theorem ending_fits (member : ending ∈ Judge.corpusEndings) :
    '\x00' ∉ ending.toList ∧ ending.utf8ByteSize ≤ Shader.metadataSuffix.utf8ByteSize := by
  simp only [Judge.corpusEndings, List.mem_cons, List.not_mem_nil, or_false] at member
  rcases member with rfl | rfl | rfl <;> decide

theorem file_eq_entry (corpus : Path) (content : ByteArray) (member : ending ∈ Judge.corpusEndings) :
    file corpus (Blake3.digest content) ending = corpus.entry (Blake3.digest content ++ ending) :=
  Path.child_of_isName corpus (Judge.isName_of_ending content member)

theorem file_place (corpus : Path) (content : ByteArray) (member : ending ∈ Judge.corpusEndings) :
    (file corpus (Blake3.digest content) ending).place = corpus.place ++ [Blake3.digest content ++ ending] := by
  rw [file_eq_entry corpus content member]
  exact Path.entry_place corpus (Judge.isName_of_ending content member).2

/-- The files of a behaviour stand at places of their own. -/
theorem file_place_ne (corpus : Path) (content : ByteArray) (member : ending ∈ Judge.corpusEndings)
    (member' : other ∈ Judge.corpusEndings) (differ : ending ≠ other) :
    (file corpus (Blake3.digest content) ending).place ≠ (file corpus (Blake3.digest content) other).place := by
  rw [file_place corpus content member, file_place corpus content member']
  intro same
  have names := congrArg String.toList (List.singleton_inj.mp (List.append_cancel_left same))
  rw [String.toList_append, String.toList_append] at names
  exact differ (String.toList_inj.mp (List.append_cancel_left names))

/-- A file that does not lie below the corpus is none of its files. -/
theorem place_ne_of_outside (outside : ¬ corpus.place <+: path.place) (member : ending ∈ Judge.corpusEndings) :
    path.place ≠ (file corpus (Blake3.digest content) ending).place := by
  rw [file_place corpus content member]
  exact fun same => outside (same ▸ List.prefix_append _ _)

/-- Where the record of a behaviour can be looked up, all of its files can be located. -/
theorem locate_file (directory : tree.isDirectory corpus = true)
    (canLook : tree.canLook (file corpus (Blake3.digest content) Shader.metadataSuffix) = true)
    (member : ending ∈ Judge.corpusEndings) :
    tree.locate (file corpus (Blake3.digest content) ending) = .ok (file corpus (Blake3.digest content) ending).place := by
  have readable : ∀ {ending}, ending ∈ Judge.corpusEndings → '\x00' ∉ (Blake3.digest content ++ ending).toList := by
    intro ending member
    rw [String.toList_append, List.mem_append, not_or]
    exact ⟨Judge.notMem_digest content (by decide) (by decide), (ending_fits member).1⟩
  have down : ∀ {ending}, ending ∈ Judge.corpusEndings → Blake3.digest content ++ ending ≠ ".." := fun member =>
    (Judge.isName_of_ending content member).2
  rw [file_eq_entry corpus content record_mem] at canLook
  rw [file_eq_entry corpus content member]
  refine FileTree.locate_entry_of_canLook directory (readable record_mem) (down record_mem) canLook (readable member)
    (down member) ?_
  rw [String.utf8ByteSize_append, String.utf8ByteSize_append]
  exact Nat.add_le_add_left (ending_fits member).2 _

/-- The judge finds the record of a behaviour just where the corpus has one. -/
theorem has_record (directory : tree.isDirectory corpus = true)
    (canLook : tree.canLook (file corpus (Blake3.digest content) Shader.metadataSuffix) = true) :
    tree.has (file corpus (Blake3.digest content) Shader.metadataSuffix) = true ↔
      Records tree corpus (Blake3.digest content) := by
  rw [FileTree.has, FileTree.at?, locate_file directory canLook record_mem, file_place corpus content record_mem, Records]

/-- The way to a file of the corpus belongs to the corpus. -/
theorem owns_of_mem_visited (content : ByteArray) (member : ending ∈ Judge.corpusEndings) {place : Place}
    (visited : place ∈ (file corpus (Blake3.digest content) ending).visited) : Owns corpus place := by
  rw [file_eq_entry corpus content member,
    Path.mem_entry_visited corpus (Judge.isName_of_ending content member).2] at visited
  rcases visited with way | rfl
  · exact .inl way
  · exact .inr (List.prefix_append _ _)

theorem owns_file (corpus : Path) (content : ByteArray) (member : ending ∈ Judge.corpusEndings) :
    Owns corpus (file corpus (Blake3.digest content) ending).place :=
  owns_of_mem_visited content member (Path.place_mem_visited _)

/-- A corpus has the records that its own entries show. -/
theorem records_congr {a b : FileTree} (agree : FileTree.AgreeOn (Owns corpus) a b) (fingerprint : String) :
    Records a corpus fingerprint ↔ Records b corpus fingerprint := by
  rw [Records, Records, agree _ (.inr (List.prefix_append _ _))]

/-- The record of a behaviour is neither a shader nor an image in the corpus. -/
private theorem record_ne (corpus : Path) (fingerprint : String) {content : ByteArray} (member : ending ∈ Judge.corpusEndings)
    (differ : ending ≠ Shader.metadataSuffix) :
    corpus.place ++ [fingerprint ++ Shader.metadataSuffix] ≠ (file corpus (Blake3.digest content) ending).place := by
  rw [file_place corpus content member]
  intro same
  have names := congrArg (fun name => name.toList.getLast?) (List.singleton_inj.mp (List.append_cancel_left same))
  simp only [Judge.corpusEndings, List.mem_cons, List.not_mem_nil, or_false] at member
  rcases member with rfl | rfl | rfl
  · simp [Shader.metadataSuffix, Shader.fileSuffix] at names
  · exact differ rfl
  · simp [Shader.metadataSuffix] at names

end Corpus

/-! ## Calls of the judge -/

/-- A call of the judge for fuzzing: the tools, the candidate, and the world in which it is judged. -/
structure Judgement (σ : Type) where
  dispatcher : Dispatcher σ
  candidate : Candidate
  world : World σ

namespace Judgement

/-- How the tools render the candidate. -/
def rendering (judgement : Judgement σ) : EStateM.Result Fault (World σ) RenderOutcome :=
  judgement.dispatcher.render judgement.candidate.path judgement.candidate.image false judgement.world

/-- How the call ends. -/
def verdict (corpus : Path) (judgement : Judgement σ) : EStateM.Result Fault (World σ) Bool :=
  (Judge.fuzzing corpus).isInteresting judgement.dispatcher judgement.candidate judgement.world

/-- The files that the call leaves. -/
def left (corpus : Path) (judgement : Judgement σ) : FileTree := (leaves (judgement.verdict corpus)).files

/-- Whether a call has to do with the corpus through the judge alone: the tools leave it alone, and neither the candidate nor
its image lies in it. -/
structure Apart (corpus : Path) (judgement : Judgement σ) : Prop where
  tools : FileTree.AgreeOn (Corpus.Owns corpus) judgement.world.files (leaves judgement.rendering).files
  candidate : ¬ corpus.place <+: judgement.candidate.path.place
  image : ∀ outcome rendered image, judgement.rendering = .ok outcome rendered → outcome.image = some image →
    ¬ corpus.place <+: image.place

/-- Whether the tools render the candidate, with an outcome of a fingerprint. -/
structure Shows (judgement : Judgement σ) (outcome : RenderOutcome) (rendered : World σ) (fingerprint : String) : Prop where
  renders : judgement.rendering = .ok outcome rendered
  fingerprint : outcome.fingerprint rendered = .ok fingerprint rendered

/-- What a call that accepts the candidate stores: the shader, the image if there is one, and the record.  There is room for
them, and nothing else in the corpus changes. -/
structure Stores (corpus : Path) (judgement : Judgement σ) (outcome : RenderOutcome) (rendered : FileTree)
    (fingerprint : String) : Prop where
  shaderRoom : judgement.world.files.lookup? (Corpus.file corpus fingerprint Shader.fileSuffix).place ≠ some .directory
  imageRoom : ∀ bytes, outcome.imageBytes? rendered = some bytes →
    judgement.world.files.lookup? (Corpus.file corpus fingerprint ".png").place ≠ some .directory
  shader : ∃ text, rendered.read judgement.candidate.path = .ok text ∧
    (judgement.left corpus).read (Corpus.file corpus fingerprint Shader.fileSuffix) = .ok text
  image : ∀ bytes, outcome.imageBytes? rendered = some bytes →
    (judgement.left corpus).read (Corpus.file corpus fingerprint ".png") = .ok bytes
  record : ∃ document, (Judge.corpusRecord fingerprint outcome).indented? = some document ∧
    (judgement.left corpus).read (Corpus.file corpus fingerprint Shader.metadataSuffix) = .ok (Text.utf8 document)
  others : ∀ place, Corpus.Owns corpus place → place ≠ (Corpus.file corpus fingerprint Shader.fileSuffix).place →
    place ≠ (Corpus.file corpus fingerprint Shader.metadataSuffix).place →
    (place = (Corpus.file corpus fingerprint ".png").place → outcome.imageBytes? rendered = none) →
    (judgement.left corpus).lookup? place = judgement.world.files.lookup? place

/-- Whether a call leaves the corpus as it is. -/
def Keeps (corpus : Path) (judgement : Judgement σ) : Prop :=
  FileTree.AgreeOn (Corpus.Owns corpus) judgement.world.files (judgement.left corpus)

/-- How a call ends, and the fingerprint about which it gives an answer. -/
inductive Ends (corpus : Path) (judgement : Judgement σ) : Option String → Prop
  /-- The tools fail. -/
  | unrendered {fault : Fault} {rendered : World σ} : judgement.rendering = .error fault rendered →
      judgement.verdict corpus = .error fault rendered → judgement.Keeps corpus → Ends corpus judgement none
  /-- The corpus has a record of the behaviour, so the candidate is not accepted. -/
  | known {outcome : RenderOutcome} {rendered : World σ} {fingerprint : String} :
      judgement.Shows outcome rendered fingerprint → Corpus.Records judgement.world.files corpus fingerprint →
      judgement.verdict corpus = .ok false rendered → judgement.Keeps corpus → Ends corpus judgement (some fingerprint)
  /-- The corpus has no record of the behaviour, so the candidate is accepted and stored. -/
  | fresh {outcome : RenderOutcome} {rendered after : World σ} {fingerprint : String} :
      judgement.Shows outcome rendered fingerprint → ¬ Corpus.Records judgement.world.files corpus fingerprint →
      judgement.verdict corpus = .ok true after → judgement.Stores corpus outcome rendered.files fingerprint →
      Ends corpus judgement (some fingerprint)
  /-- The record is at too long a path to be looked up. -/
  | unreachable {outcome : RenderOutcome} {rendered : World σ} {fingerprint : String} {fault : Fault} :
      judgement.Shows outcome rendered fingerprint →
      judgement.world.files.canLook (Corpus.file corpus fingerprint Shader.metadataSuffix) = false →
      judgement.verdict corpus = .error fault rendered → judgement.Keeps corpus → Ends corpus judgement none
  /-- The shader of a new behaviour cannot be read, or a directory stands where it is to be stored. -/
  | unstorable {outcome : RenderOutcome} {rendered : World σ} {fingerprint : String} {fault : Fault} :
      judgement.Shows outcome rendered fingerprint → ¬ Corpus.Records judgement.world.files corpus fingerprint →
      ((∀ text, rendered.files.read judgement.candidate.path ≠ .ok text) ∨
        judgement.world.files.lookup? (Corpus.file corpus fingerprint Shader.fileSuffix).place = some .directory) →
      judgement.verdict corpus = .error fault rendered → judgement.Keeps corpus → Ends corpus judgement none
  /-- A directory stands where the image of a new behaviour is to be stored, and the shader has been stored by then. -/
  | halfway {outcome : RenderOutcome} {rendered after : World σ} {fingerprint : String} {fault : Fault}
      {image text : ByteArray} :
      judgement.Shows outcome rendered fingerprint → ¬ Corpus.Records judgement.world.files corpus fingerprint →
      outcome.imageBytes? rendered.files = some image →
      judgement.world.files.lookup? (Corpus.file corpus fingerprint ".png").place = some .directory →
      judgement.verdict corpus = .error fault after → rendered.files.read judgement.candidate.path = .ok text →
      (judgement.left corpus).read (Corpus.file corpus fingerprint Shader.fileSuffix) = .ok text →
      (∀ place, Corpus.Owns corpus place → place ≠ (Corpus.file corpus fingerprint Shader.fileSuffix).place →
        (judgement.left corpus).lookup? place = judgement.world.files.lookup? place) → Ends corpus judgement none

end Judgement

/-! ## One call -/

namespace Judge

/-- Adds a behaviour to a corpus. -/
def addBehaviour (corpus : Path) (outcome : RenderOutcome) (fingerprint : String) (shader : Path) : Action σ Bool := do
  Action.copy shader (Corpus.file corpus fingerprint Shader.fileSuffix)
  match outcome.producedImage? (← Action.files) with
  | some file => Action.copy file (Corpus.file corpus fingerprint ".png")
  | none => pure ()
  Action.writeJson (Corpus.file corpus fingerprint Shader.metadataSuffix) (corpusRecord fingerprint outcome)
  Action.log .info ("new behaviour " ++ String.ofList (fingerprint.toList.take 12) ++ " added to corpus")
  return true

variable {corpus : Path} {outcome : RenderOutcome} {content : ByteArray} {world : World σ} {tree left : FileTree}

/-- What a rendering produced is not changed by a file that is written elsewhere. -/
private theorem producedImage?_write {path : Path} {bytes : ByteArray} (written : tree.write path bytes = .ok left)
    (elsewhere : ∀ image, outcome.image = some image → image.place ≠ path.place) :
    outcome.producedImage? left = outcome.producedImage? tree := by
  refine Option.ext fun image => ?_
  rw [RenderOutcome.producedImage?_eq_some, RenderOutcome.producedImage?_eq_some]
  refine and_congr_right fun _ => and_congr_right fun isImage => ?_
  rw [FileTree.isFile_write_of_ne written (elsewhere image isImage)]

/-- Whether a tree is left when a new behaviour has been stored: first the shader, then the image if there is one, and last
the record. -/
def Added (corpus : Path) (outcome : RenderOutcome) (content : ByteArray) (shader : Path) (tree left : FileTree) : Prop :=
  ∃ text document shaderTree imageTree, tree.read shader = .ok text ∧
    (corpusRecord (Blake3.digest content) outcome).indented? = some document ∧
    tree.write (Corpus.file corpus (Blake3.digest content) Shader.fileSuffix) text = .ok shaderTree ∧
    ((outcome.imageBytes? tree = none ∧ imageTree = shaderTree) ∨ ∃ image, outcome.imageBytes? tree = some image ∧
      shaderTree.write (Corpus.file corpus (Blake3.digest content) ".png") image = .ok imageTree) ∧
    imageTree.write (Corpus.file corpus (Blake3.digest content) Shader.metadataSuffix) (Text.utf8 document) = .ok left

/-- A new behaviour is added, or a directory is in the way of its shader or of its image. -/
private theorem addBehaviour_cases (shader : Path) (directory : world.files.isDirectory corpus = true)
    (canLook : world.files.canLook (Corpus.file corpus (Blake3.digest content) Shader.metadataSuffix) = true)
    (new : ¬ Corpus.Records world.files corpus (Blake3.digest content))
    (outside : ∀ image, outcome.image = some image → ¬ corpus.place <+: image.place) :
    (∃ fault, addBehaviour corpus outcome (Blake3.digest content) shader world = .error fault world ∧
      ((∀ text, world.files.read shader ≠ .ok text) ∨
        world.files.lookup? (Corpus.file corpus (Blake3.digest content) Shader.fileSuffix).place = some .directory)) ∨
    (∃ fault text image tree, world.files.read shader = .ok text ∧
      world.files.write (Corpus.file corpus (Blake3.digest content) Shader.fileSuffix) text = .ok tree ∧
      outcome.imageBytes? world.files = some image ∧
      tree.lookup? (Corpus.file corpus (Blake3.digest content) ".png").place = some .directory ∧
      addBehaviour corpus outcome (Blake3.digest content) shader world = .error fault { world with files := tree }) ∨
    ∃ after, addBehaviour corpus outcome (Blake3.digest content) shader world = .ok true after ∧
      Added corpus outcome content shader world.files after.files := by
  have located : ∀ {ending}, ending ∈ corpusEndings → world.files.locate (Corpus.file corpus (Blake3.digest content) ending) =
      .ok (Corpus.file corpus (Blake3.digest content) ending).place := fun member => Corpus.locate_file directory canLook member
  have admits : world.files.Admits (Corpus.file corpus (Blake3.digest content) Shader.metadataSuffix) := by
    refine ⟨located Corpus.record_mem, fun stands => new ?_⟩
    rw [Corpus.file_place corpus content Corpus.record_mem] at stands
    rw [Corpus.Records, stands]
    rfl
  obtain ⟨document, writable⟩ : ∃ document, (corpusRecord (Blake3.digest content) outcome).indented? = some document := ⟨_, rfl⟩
  -- Once shader and image are stored, nothing is in the way of the record.
  have recorded : ∀ {world : World σ}, world.files.isDirectory corpus = true →
      world.files.Admits (Corpus.file corpus (Blake3.digest content) Shader.metadataSuffix) → ∃ after, (do
        Action.writeJson (Corpus.file corpus (Blake3.digest content) Shader.metadataSuffix)
          (corpusRecord (Blake3.digest content) outcome)
        Action.log .info ("new behaviour " ++ String.ofList ((Blake3.digest content).toList.take 12) ++ " added to corpus")
        return true) world = .ok true after ∧
      world.files.write (Corpus.file corpus (Blake3.digest content) Shader.metadataSuffix) (Text.utf8 document) =
        .ok after.files := by
    intro world directory admits
    have stands : world.files.isDirectory (Corpus.file corpus (Blake3.digest content) Shader.metadataSuffix).parent = true := by
      rwa [Corpus.file_eq_entry corpus content Corpus.record_mem, Path.entry_parent]
    rw [bind_of_ok (Action.writeJson_of_admits stands admits writable)]
    exact ⟨_, rfl, admits.write _⟩
  unfold addBehaviour
  rcases Action.copy_cases shader (located Corpus.shader_mem) with
    ⟨fault, failed, reason⟩ | ⟨text, tree, found, written, copied⟩
  · exact .inl ⟨fault, bind_of_error failed _, reason⟩
  · right
    rw [bind_of_ok copied, bind_of_ok (Action.files_apply _)]
    have stands := FileTree.isDirectory_write written directory
    have admits := admits.of_write written
    have elsewhere : ∀ image, outcome.image = some image →
        image.place ≠ (Corpus.file corpus (Blake3.digest content) Shader.fileSuffix).place :=
      fun image shown => Corpus.place_ne_of_outside (outside image shown) Corpus.shader_mem
    dsimp only
    rw [producedImage?_write written elsewhere]
    cases produced : outcome.producedImage? world.files with
    | none =>
      have imageless : outcome.imageBytes? world.files = none := by rw [RenderOutcome.imageBytes?, produced, Option.bind_none]
      obtain ⟨after, run, recordWritten⟩ := @recorded { world with files := tree } stands admits
      exact .inr ⟨after, run, text, document, tree, tree, found, writable, written, .inl ⟨imageless, rfl⟩, recordWritten⟩
    | some image =>
      obtain ⟨bytes, shown⟩ := RenderOutcome.exists_read produced
      have imageBytes : outcome.imageBytes? world.files = some bytes := by
        rw [RenderOutcome.imageBytes?, produced, Option.bind_some, shown]
        rfl
      have kept := FileTree.read_write_of_ne shown written
        (elsewhere image (RenderOutcome.producedImage?_eq_some.mp produced).2.1)
      have way : { world with files := tree }.files.locate _ = .ok _ := FileTree.locate_write (located Corpus.image_mem) written
      rcases Action.copy_cases image way with
        ⟨fault, failed, unreadable | blocked⟩ | ⟨bytes', imageTree, found', imageWritten, copied'⟩
      · exact absurd kept (unreadable bytes)
      · exact .inl ⟨fault, text, bytes, tree, found, written, imageBytes, blocked, bind_of_error failed _⟩
      · obtain rfl : bytes = bytes' := Except.ok.inj (kept.symm.trans found')
        obtain ⟨after, run, recordWritten⟩ := @recorded { world with files := imageTree }
          (FileTree.isDirectory_write imageWritten stands) (admits.of_write imageWritten)
        exact .inr ⟨after, (bind_of_ok copied' _).trans run, text, document, tree, imageTree, found, writable, written,
          .inr ⟨bytes, imageBytes, imageWritten⟩, recordWritten⟩

end Judge

namespace Judgement

variable {corpus : Path} {judgement : Judgement σ} {outcome : RenderOutcome} {rendered : World σ} {fingerprint : String}

private theorem Shows.verdict_eq (shows : judgement.Shows outcome rendered fingerprint) (corpus : Path) :
    judgement.verdict corpus =
      (Action.isPresent (Corpus.file corpus fingerprint Shader.metadataSuffix) >>= fun present =>
        if present = true then pure false else Judge.addBehaviour corpus outcome fingerprint judgement.candidate.path)
        rendered := by
  have first := bind_of_ok shows.renders fun outcome => outcome.fingerprint >>= fun fingerprint =>
    Action.isPresent (Corpus.file corpus fingerprint Shader.metadataSuffix) >>= fun present =>
      if present = true then pure false else Judge.addBehaviour corpus outcome fingerprint judgement.candidate.path
  rw [bind_of_ok shows.fingerprint] at first
  exact first

private theorem left_of_ok {answer : Bool} {after : World σ} (verdict : judgement.verdict corpus = .ok answer after) :
    judgement.left corpus = after.files := by rw [left, verdict, leaves]

private theorem left_of_error {fault : Fault} {after : World σ} (verdict : judgement.verdict corpus = .error fault after) :
    judgement.left corpus = after.files := by rw [left, verdict, leaves]

/-- Adding a behaviour stores what belongs to it. -/
private theorem stores_of_added {content : ByteArray}
    (same : FileTree.AgreeOn (Corpus.Owns corpus) judgement.world.files rendered.files)
    (added : Judge.Added corpus outcome content judgement.candidate.path rendered.files (judgement.left corpus)) :
    judgement.Stores corpus outcome rendered.files (Blake3.digest content) := by
  obtain ⟨text, document, shaderTree, imageTree, found, writable, shaderWritten, shown, recordWritten⟩ := added
  have shaderKept : imageTree.read (Corpus.file corpus (Blake3.digest content) Shader.fileSuffix) = .ok text := by
    have stored := FileTree.read_write_self shaderWritten
    rcases shown with ⟨-, rfl⟩ | ⟨image, -, imageWritten⟩
    · exact stored
    · exact FileTree.read_write_of_ne stored imageWritten
        (Corpus.file_place_ne corpus content Corpus.shader_mem Corpus.image_mem (by decide))
  refine ⟨?_, ?_, ⟨text, found, ?_⟩, ?_, ⟨document, writable, FileTree.read_write_self recordWritten⟩, ?_⟩
  · rw [same _ (Corpus.owns_file corpus content Corpus.shader_mem)]
    exact (FileTree.write_ok shaderWritten).2.1
  · intro bytes produced
    rcases shown with ⟨imageless, -⟩ | ⟨image, -, imageWritten⟩
    · cases imageless.symm.trans produced
    · rw [same _ (Corpus.owns_file corpus content Corpus.image_mem),
        ← FileTree.lookup?_write_of_ne shaderWritten
          (Corpus.file_place_ne corpus content Corpus.image_mem Corpus.shader_mem (by decide))]
      exact (FileTree.write_ok imageWritten).2.1
  · exact FileTree.read_write_of_ne shaderKept recordWritten
      (Corpus.file_place_ne corpus content Corpus.shader_mem Corpus.record_mem (by decide))
  · intro bytes produced
    rcases shown with ⟨imageless, -⟩ | ⟨image, produced', imageWritten⟩
    · cases imageless.symm.trans produced
    · obtain rfl := Option.some.inj (produced'.symm.trans produced)
      exact FileTree.read_write_of_ne (FileTree.read_write_self imageWritten) recordWritten
        (Corpus.file_place_ne corpus content Corpus.image_mem Corpus.record_mem (by decide))
  · intro place owns notShader notRecord imageless
    rw [FileTree.lookup?_write_of_ne recordWritten notRecord, same place owns,
      ← FileTree.lookup?_write_of_ne shaderWritten notShader]
    rcases shown with ⟨-, rfl⟩ | ⟨image, produced, imageWritten⟩
    · rfl
    · refine FileTree.lookup?_write_of_ne imageWritten fun isPlace => ?_
      cases produced.symm.trans (imageless isPlace)

/-- A directory stands where the image of a new behaviour is to be stored. -/
private theorem ends_halfway {content text image : ByteArray} {tree : FileTree} {fault : Fault}
    (same : FileTree.AgreeOn (Corpus.Owns corpus) judgement.world.files rendered.files)
    (stands : rendered.files.isDirectory corpus = true) (shows : judgement.Shows outcome rendered (Blake3.digest content))
    (new : ¬ Corpus.Records judgement.world.files corpus (Blake3.digest content))
    (found : rendered.files.read judgement.candidate.path = .ok text)
    (written : rendered.files.write (Corpus.file corpus (Blake3.digest content) Shader.fileSuffix) text = .ok tree)
    (shown : outcome.imageBytes? rendered.files = some image)
    (blocked : tree.lookup? (Corpus.file corpus (Blake3.digest content) ".png").place = some .directory)
    (run : judgement.verdict corpus = .error fault { rendered with files := tree }) :
    (∃ shown, judgement.Ends corpus shown) ∧ (judgement.left corpus).isDirectory corpus = true := by
  have isLeft : judgement.left corpus = tree := left_of_error run
  rw [FileTree.lookup?_write_of_ne written (Corpus.file_place_ne corpus content Corpus.image_mem Corpus.shader_mem (by decide)),
    ← same _ (Corpus.owns_file corpus content Corpus.image_mem)] at blocked
  refine ⟨⟨none, .halfway shows new shown blocked run found ?_ ?_⟩, ?_⟩
  · rw [isLeft]
    exact FileTree.read_write_self written
  · intro place owns elsewhere
    rw [isLeft, same place owns]
    exact FileTree.lookup?_write_of_ne written elsewhere
  · rw [isLeft]
    exact FileTree.isDirectory_write written stands

/-- Nothing is in the way of a new behaviour. -/
private theorem ends_fresh {content : ByteArray} {after : World σ}
    (same : FileTree.AgreeOn (Corpus.Owns corpus) judgement.world.files rendered.files)
    (stands : rendered.files.isDirectory corpus = true) (shows : judgement.Shows outcome rendered (Blake3.digest content))
    (new : ¬ Corpus.Records judgement.world.files corpus (Blake3.digest content))
    (run : judgement.verdict corpus = .ok true after)
    (added : Judge.Added corpus outcome content judgement.candidate.path rendered.files after.files) :
    (∃ shown, judgement.Ends corpus shown) ∧ (judgement.left corpus).isDirectory corpus = true := by
  rw [← left_of_ok run] at added
  refine ⟨⟨_, .fresh shows new run (stores_of_added same added)⟩, ?_⟩
  obtain ⟨text, document, shaderTree, imageTree, -, -, shaderWritten, shown, recordWritten⟩ := added
  refine FileTree.isDirectory_write recordWritten ?_
  have stands := FileTree.isDirectory_write shaderWritten stands
  rcases shown with ⟨-, rfl⟩ | ⟨image, -, imageWritten⟩
  · exact stands
  · exact FileTree.isDirectory_write imageWritten stands

/-- Every call ends in one of these ways, and the corpus still stands. -/
theorem exists_ends (apart : judgement.Apart corpus) (directory : judgement.world.files.isDirectory corpus = true) :
    (∃ shown, judgement.Ends corpus shown) ∧ (judgement.left corpus).isDirectory corpus = true := by
  have kept : judgement.Keeps corpus → (judgement.left corpus).isDirectory corpus = true := fun keeps =>
    (keeps.mono fun _ => .inl).isDirectory.symm.trans directory
  cases renders : judgement.rendering with
  | error fault rendered =>
    have verdict : judgement.verdict corpus = .error fault rendered := bind_of_error renders _
    have keeps : judgement.Keeps corpus := by
      have same := apart.tools
      rwa [renders, leaves, ← left_of_error verdict] at same
    exact ⟨⟨none, .unrendered renders verdict keeps⟩, kept keeps⟩
  | ok outcome rendered =>
    have same : FileTree.AgreeOn (Corpus.Owns corpus) judgement.world.files rendered.files := by
      have same := apart.tools
      rwa [renders] at same
    obtain ⟨content, fingerprint⟩ := outcome.exists_fingerprint rendered
    have shows : judgement.Shows outcome rendered (Blake3.digest content) := ⟨renders, fingerprint⟩
    have run := shows.verdict_eq corpus
    have stands : rendered.files.isDirectory corpus = true := (same.mono fun _ => .inl).isDirectory.symm.trans directory
    have look := (same.mono fun _ => Corpus.owns_of_mem_visited content Corpus.record_mem).canLook
    have stays : ∀ {after}, judgement.left corpus = after.files → after = rendered → judgement.Keeps corpus := by
      rintro _ isLeft rfl
      exact fun place owns => (same place owns).trans (congrArg (FileTree.lookup? · place) isLeft.symm)
    cases looking : rendered.files.canLook (Corpus.file corpus (Blake3.digest content) Shader.metadataSuffix) with
    | false =>
      rw [bind_of_error (by rw [Action.isPresent_apply, looking]; rfl)] at run
      have keeps := stays (left_of_error run) rfl
      exact ⟨⟨none, .unreachable shows (look.trans looking) run keeps⟩, kept keeps⟩
    | true =>
      rw [bind_of_ok (by rw [Action.isPresent_apply, if_pos looking])] at run
      have recorded := (Corpus.has_record stands looking).trans (Corpus.records_congr same _).symm
      by_cases records : Corpus.Records judgement.world.files corpus (Blake3.digest content)
      · rw [if_pos (recorded.mpr records)] at run
        have keeps := stays (left_of_ok run) rfl
        exact ⟨⟨_, .known shows records run keeps⟩, kept keeps⟩
      · rw [if_neg fun present => records (recorded.mp present)] at run
        rcases Judge.addBehaviour_cases judgement.candidate.path stands looking
            (fun found => records ((Corpus.records_congr same _).mpr found))
            (fun image => apart.image outcome rendered image renders) with
          ⟨fault, failed, reason⟩ | ⟨fault, text, image, tree, found, written, shown, blocked, failed⟩ | ⟨after, added, stored⟩
        · have run := run.trans failed
          have keeps := stays (left_of_error run) rfl
          rw [← same _ (Corpus.owns_file corpus content Corpus.shader_mem)] at reason
          exact ⟨⟨none, .unstorable shows records reason run keeps⟩, kept keeps⟩
        · exact ends_halfway same stands shows records found written shown blocked (run.trans failed)
        · exact ends_fresh same stands shows records (run.trans added) stored

theorem Shows.eq_digest (shows : judgement.Shows outcome rendered fingerprint) :
    fingerprint = Blake3.digest (outcome.documentBytes rendered.files) := by
  cases shows.fingerprint.symm.trans (outcome.fingerprint_apply rendered)
  rfl

/-- What is stored about a behaviour adds its record, and no other one. -/
private theorem Stores.records_iff {tree : FileTree} {content : ByteArray}
    (stores : judgement.Stores corpus outcome tree (Blake3.digest content)) (fingerprint : String) :
    Corpus.Records (judgement.left corpus) corpus fingerprint ↔
      Corpus.Records judgement.world.files corpus fingerprint ∨ fingerprint = Blake3.digest content := by
  by_cases same : fingerprint = Blake3.digest content
  · obtain ⟨document, -, stored⟩ := stores.record
    have stands := (FileTree.lookup?_of_read stored).2
    rw [Corpus.file_place corpus content Corpus.record_mem] at stands
    refine iff_of_true ?_ (.inr same)
    rw [same, Corpus.Records, stands]
    rfl
  · have notRecord : corpus.place ++ [fingerprint ++ Shader.metadataSuffix] ≠
        (Corpus.file corpus (Blake3.digest content) Shader.metadataSuffix).place := by
      rw [Corpus.file_place corpus content Corpus.record_mem]
      intro isPlace
      have names := congrArg String.toList (List.singleton_inj.mp (List.append_cancel_left isPlace))
      rw [String.toList_append, String.toList_append] at names
      exact same (String.toList_inj.mp (List.append_cancel_right names))
    have kept := stores.others _ (.inr (List.prefix_append _ _))
      (Corpus.record_ne corpus fingerprint Corpus.shader_mem (by decide))
      notRecord fun isPlace => absurd isPlace (Corpus.record_ne corpus fingerprint Corpus.image_mem (by decide))
    rw [Corpus.Records, kept, ← Corpus.Records, or_iff_left same]

/-- A call adds the record of the behaviour about which it gives an answer, and no other one. -/
theorem Ends.records_iff {shown : Option String} (ends : judgement.Ends corpus shown) (fingerprint : String) :
    Corpus.Records (judgement.left corpus) corpus fingerprint ↔
      Corpus.Records judgement.world.files corpus fingerprint ∨ some fingerprint = shown := by
  have keeping : judgement.Keeps corpus → (Corpus.Records (judgement.left corpus) corpus fingerprint ↔
      Corpus.Records judgement.world.files corpus fingerprint) := fun keeps => (Corpus.records_congr keeps fingerprint).symm
  cases ends with
  | unrendered _ _ keeps | unreachable _ _ _ keeps | unstorable _ _ _ _ keeps => simp [keeping keeps]
  | known _ records _ keeps =>
    rw [keeping keeps, or_iff_left_of_imp]
    rintro ⟨⟩
    exact records
  | fresh shows _ _ stores =>
    obtain rfl := shows.eq_digest
    rw [stores.records_iff, Option.some_inj]
  | halfway shows _ _ _ _ _ _ others =>
    obtain rfl := shows.eq_digest
    have kept := others _ (.inr (List.prefix_append _ _)) (Corpus.record_ne corpus fingerprint Corpus.shader_mem (by decide))
    simp [Corpus.Records, kept]

/-! ## Many calls -/

/-- Calls one after the other, of which each finds the corpus as the one before it has left it. -/
inductive Consecutive (corpus : Path) : FileTree → List (Judgement σ) → FileTree → Prop
  | nil {start left : FileTree} : FileTree.AgreeOn (Corpus.Owns corpus) start left → Consecutive corpus start [] left
  | cons {start left : FileTree} {judgement : Judgement σ} {rest : List (Judgement σ)} :
      FileTree.AgreeOn (Corpus.Owns corpus) start judgement.world.files → Consecutive corpus (judgement.left corpus) rest left →
      Consecutive corpus start (judgement :: rest) left

variable {start left : FileTree} {judgements : List (Judgement σ)}

/-- A call follows another one that has left its files. -/
theorem consecutive_pair {one other : Judgement σ} (follows : other.world.files = one.left corpus) :
    Consecutive corpus one.world.files [one, other] (other.left corpus) :=
  .cons (.refl _ _) (.cons (follows ▸ .refl _ _) (.nil (.refl _ _)))

/-- The records that calls leave are those that were there and those of the behaviours about which there was an answer. -/
private theorem exists_shown (consecutive : Consecutive corpus start judgements left)
    (directory : start.isDirectory corpus = true) (apart : ∀ judgement ∈ judgements, judgement.Apart corpus) :
    ∃ shown : List (Option String), List.Forall₂ (fun judgement shown => judgement.Ends corpus shown) judgements shown ∧
      ∀ fingerprint, Corpus.Records left corpus fingerprint ↔
        Corpus.Records start corpus fingerprint ∨ some fingerprint ∈ shown := by
  induction consecutive with
  | nil agree => exact ⟨[], .nil, fun fingerprint => by simp [Corpus.records_congr agree fingerprint]⟩
  | cons agree _ ih =>
    have stands := (agree.mono fun _ => .inl).isDirectory.symm.trans directory
    obtain ⟨⟨shown, ends⟩, stands⟩ := exists_ends (apart _ List.mem_cons_self) stands
    obtain ⟨others, further, records⟩ := ih stands fun judgement member => apart judgement (List.mem_cons_of_mem _ member)
    refine ⟨shown :: others, .cons ends further, fun fingerprint => ?_⟩
    rw [records, ends.records_iff, Corpus.records_congr agree, List.mem_cons, or_assoc]

/-- Every behaviour is accepted once.  Of any calls one after the other, each that gives an answer accepts the candidate if
and only if the corpus has no record of its behaviour; then it stores the shader, the image if there is one, and the record.
All others leave the corpus as it is, but for the shader of a behaviour whose image cannot be stored.  In the end the corpus
has the records that it had, and those of all behaviours about which there was an answer; and behaviours are the same if and
only if they are alike, as long as no two of the contents in question share a digest. -/
theorem corpus_accounted {corpus : Path} {start left : FileTree} {judgements : List (Judgement σ)}
    (consecutive : Consecutive corpus start judgements left) (directory : start.isDirectory corpus = true)
    (apart : ∀ judgement ∈ judgements, judgement.Apart corpus) :
    (∃ shown : List (Option String), List.Forall₂ (fun judgement shown => judgement.Ends corpus shown) judgements shown ∧
      ∀ fingerprint, Corpus.Records left corpus fingerprint ↔
        Corpus.Records start corpus fingerprint ∨ some fingerprint ∈ shown) ∧
    ∀ (outcome outcome' : RenderOutcome) (rendered rendered' : World σ) (fingerprint fingerprint' : String),
      outcome.fingerprint rendered = .ok fingerprint rendered → outcome'.fingerprint rendered' = .ok fingerprint' rendered' →
      Set.InjOn Blake3.digest (outcome.Digested rendered.files ∪ outcome'.Digested rendered'.files) →
      (fingerprint = fingerprint' ↔ outcome.Alike outcome' rendered.files rendered'.files) := by
  refine ⟨exists_shown consecutive directory apart, ?_⟩
  intro outcome outcome' rendered rendered' fingerprint fingerprint' shows shows' distinct
  cases (outcome.fingerprint_apply rendered).symm.trans shows
  cases (outcome'.fingerprint_apply rendered').symm.trans shows'
  exact RenderOutcome.digest_documentBytes_eq_iff distinct

/-! ### Images without content -/

/-- What a rendering with an image in the scratch directory is. -/
def blankOutcome : RenderOutcome := ⟨.success, some ⟨"", ["scratch", "image.png"]⟩, []⟩

/-- A tree with an image without content in the scratch directory. -/
def withImage (files : FileTree) : FileTree := files.set ["scratch", "image.png"] (.file ByteArray.empty)

/-- Tools that make an image without content of every shader. -/
def blankTools : Dispatcher Unit where
  render _ _ _ := do
    modify fun world => { world with files := withImage world.files }
    return blankOutcome
  validate _ := return ⟨0, []⟩

/-- A corpus where the program runs. -/
def plainCorpus : Path := ⟨"", ["corpus"]⟩

/-- A call about an empty shader. -/
def blankCall (files : FileTree) : Judgement Unit where
  dispatcher := blankTools
  candidate := ⟨⟨[], [], .default⟩, ⟨"", ["s.frag"]⟩, ⟨"", ["scratch"]⟩⟩
  world := ⟨files, [], ⟨"", ["scratch"]⟩, 0, ()⟩

theorem blankCall_files (files : FileTree) : (blankCall files).world.files = files := rfl

/-- An empty shader and a corpus with some directories. -/
def corpusWith (names : List String) : FileTree :=
  ⟨[(["corpus"], .directory), (["scratch"], .directory), (["s.frag"], .file ByteArray.empty)] ++
    names.map fun name => (["corpus", name], .directory)⟩

theorem blankCall_apart (files : FileTree) : (blankCall files).Apart plainCorpus where
  tools := by
    intro place owns
    refine (FileTree.lookup?_set_of_ne files ?_ _).symm
    rintro rfl
    rcases owns with way | below
    · exact absurd way (by decide)
    · exact absurd below (by decide)
  candidate := by
    change ¬ plainCorpus.place <+: Path.place ⟨"", ["s.frag"]⟩
    decide
  image := by
    rintro _ _ image ⟨⟩ ⟨⟩
    decide

/-- Two calls about the same shader, in a corpus that is empty at first. -/
theorem corpus_accounted_blank :
    let first := blankCall (corpusWith [])
    let second := blankCall (first.left plainCorpus)
    (corpusWith []).isDirectory plainCorpus = true ∧
      ∃ shown : List (Option String),
        List.Forall₂ (fun judgement shown => judgement.Ends plainCorpus shown) [first, second] shown ∧
        ∀ fingerprint, Corpus.Records (second.left plainCorpus) plainCorpus fingerprint ↔
          Corpus.Records (corpusWith []) plainCorpus fingerprint ∨ some fingerprint ∈ shown := by
  intro first second
  have directory : (corpusWith []).isDirectory plainCorpus = true := by decide +kernel
  have consecutive : Consecutive plainCorpus first.world.files [first, second] (second.left plainCorpus) :=
    consecutive_pair (blankCall_files _)
  refine ⟨directory, (corpus_accounted consecutive directory fun judgement member => ?_).1⟩
  simp only [List.mem_cons, List.not_mem_nil, or_false] at member
  rcases member with rfl | rfl <;> exact blankCall_apart _

/-- The fingerprint of a rendering whose image has no content. -/
def blankFingerprint : String := "b853b203d804c844dfdd3774116dca6f55d62a36f3fdab5625c2308c74abac79"

/-- A call in a corpus with a directory where the image is to be stored. -/
def blockedCall : Judgement Unit := blankCall (corpusWith [blankFingerprint ++ ".png"])

private theorem blockedCall_shows :
    blockedCall.Shows blankOutcome { blockedCall.world with files := withImage blockedCall.world.files } blankFingerprint where
  renders := rfl
  fingerprint := by
    rw [RenderOutcome.fingerprint_apply, RenderOutcome.documentBytes]
    have image : blankOutcome.imageBytes? (withImage blockedCall.world.files) = some ByteArray.empty := by rfl
    rw [image, RenderOutcome.write_behaviour]
    refine congrArg (fun fingerprint => EStateM.Result.ok fingerprint _) (?_ : Blake3.digest _ = blankFingerprint)
    decide +kernel

/-- A call that ends with a fault may have stored the shader. -/
theorem corpus_halfway :
    blockedCall.Apart plainCorpus ∧ blockedCall.world.files.isDirectory plainCorpus = true ∧
      (∃ fault after, blockedCall.verdict plainCorpus = .error fault after) ∧ ¬ blockedCall.Keeps plainCorpus := by
  have directory : blockedCall.world.files.isDirectory plainCorpus = true := by decide +kernel
  have apart : blockedCall.Apart plainCorpus := blankCall_apart _
  have shows := blockedCall_shows
  refine ⟨apart, directory, ?_⟩
  obtain ⟨⟨shown, ends⟩, -⟩ := exists_ends apart directory
  have same : ∀ {outcome rendered fingerprint}, blockedCall.Shows outcome rendered fingerprint → outcome = blankOutcome ∧
      rendered = { blockedCall.world with files := withImage blockedCall.world.files } ∧ fingerprint = blankFingerprint := by
    intro outcome rendered fingerprint shows'
    cases shows'.renders.symm.trans shows.renders
    cases shows'.fingerprint.symm.trans shows.fingerprint
    exact ⟨rfl, rfl, rfl⟩
  have unrecorded : ¬ Corpus.Records blockedCall.world.files plainCorpus blankFingerprint := by
    rw [Corpus.Records]
    decide +kernel
  have short : blockedCall.world.files.canLook (Corpus.file plainCorpus blankFingerprint Shader.metadataSuffix) = true := by
    decide +kernel
  have free : (blockedCall.world.files.lookup?
      (Corpus.file plainCorpus blankFingerprint Shader.fileSuffix).place).isNone = true := by decide +kernel
  have blocked : blockedCall.world.files.lookup? (Corpus.file plainCorpus blankFingerprint ".png").place =
      some .directory := by
    have place : (Corpus.file plainCorpus blankFingerprint ".png").place = ["corpus", blankFingerprint ++ ".png"] := by
      decide +kernel
    simp [place, blockedCall, blankCall, corpusWith, FileTree.lookup?]
  cases ends with
  | unrendered failed => cases failed.symm.trans shows.renders
  | known shows' records =>
    obtain ⟨rfl, rfl, rfl⟩ := same shows'
    exact absurd records unrecorded
  | fresh shows' _ _ stores =>
    obtain ⟨rfl, rfl, rfl⟩ := same shows'
    exact absurd blocked (stores.imageRoom ByteArray.empty (by rfl))
  | unreachable shows' long =>
    obtain ⟨rfl, rfl, rfl⟩ := same shows'
    cases short.symm.trans long
  | unstorable shows' _ reason =>
    obtain ⟨rfl, rfl, rfl⟩ := same shows'
    rcases reason with unreadable | stands
    · exact absurd (by rfl) (unreadable ByteArray.empty)
    · rw [stands] at free
      cases free
  | halfway shows' _ _ _ run _ stored =>
    obtain ⟨rfl, rfl, rfl⟩ := same shows'
    refine ⟨⟨_, _, run⟩, fun keeps => ?_⟩
    rw [keeps _ (.inr (by decide +kernel)), (FileTree.lookup?_of_read stored).2] at free
    cases free

end Judgement

end ShaderShrink
