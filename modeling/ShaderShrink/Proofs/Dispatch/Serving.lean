import ShaderShrink.Dispatch.Tools
import ShaderShrink.Proofs.Faults
import ShaderShrink.Proofs.Files.Room
import ShaderShrink.Proofs.Judge.Sparing
import ShaderShrink.Proofs.Text.CarriageReturn

/-!
# What comes of a job

Whatever a server does with a job, the tools behind it report an outcome or fail as an oracle does, as long as the
images in its responses can be used.  They change no file but that of the image.
-/

namespace ShaderShrink

open Effect

variable {σ α β : Type}

/-! ## Ending with a value or for want of an oracle -/

/-- Whether an action that begins in some world ends with a value, or with the fault of an oracle, as it should. -/
def Action.Settles (action : Action σ α) (world : World σ) (gives : α → World σ → Prop) (fails : World σ → Prop) : Prop :=
  (∃ value left, action world = .ok value left ∧ gives value left) ∨
    ∃ fault left, action world = .error fault left ∧ fault.isOracle = true ∧ fails left

namespace Action.Settles

variable {action : Action σ α} {next : α → Action σ β} {world left : World σ} {gives gives' : α → World σ → Prop}
  {fails fails' : World σ → Prop}

theorem ofOk {value : α} (success : action world = .ok value left) (given : gives value left) :
    action.Settles world gives fails := .inl ⟨value, left, success, given⟩

theorem ofError {fault : Fault} (failed : action world = .error fault left) (isOracle : fault.isOracle = true)
    (failing : fails left) : action.Settles world gives fails := .inr ⟨fault, left, failed, isOracle, failing⟩

theorem bind {gives : β → World σ → Prop} {between : α → World σ → Prop} (first : action.Settles world between fails)
    (rest : ∀ value middle, between value middle → (next value).Settles middle gives fails) :
    (action >>= next).Settles world gives fails := by
  rcases first with ⟨value, middle, run, given⟩ | ⟨fault, left, run, isOracle, failing⟩
  · simpa only [Settles, bind_of_ok run] using rest value middle given
  · exact .ofError (bind_of_error run _) isOracle failing

/-- The same where the first action is known to end with a value. -/
theorem bindOk {gives : β → World σ → Prop} {value : α} {middle : World σ} (run : action world = .ok value middle)
    (rest : (next value).Settles middle gives fails) : (action >>= next).Settles world gives fails := by
  simpa only [Settles, bind_of_ok run] using rest

theorem mono (settles : action.Settles world gives fails) (given : ∀ value left, gives value left → gives' value left)
    (failing : ∀ left, fails left → fails' left) : action.Settles world gives' fails' :=
  settles.imp (fun ⟨value, left, run, gave⟩ => ⟨value, left, run, given value left gave⟩)
    fun ⟨fault, left, run, isOracle, failed⟩ => ⟨fault, left, run, isOracle, failing left failed⟩

end Action.Settles

/-! ## Job numbers -/

namespace World

/-- Whether a world is left by what changes no file and takes up to some job numbers. -/
structure Takes (count : Nat) (a b : World σ) : Prop where
  files : b.files = a.files
  scratch : b.scratch = a.scratch
  least : a.nextJob ≤ b.nextJob
  most : b.nextJob ≤ a.nextJob + count

/-- Whether the next job numbers, up to some of them, can be written into jobs. -/
structure Numbers (count : Nat) (world : World σ) : Prop where
  least : 0 ≤ world.nextJob
  most : world.nextJob + count ≤ 18446744073709551616

variable {a b c : World σ} {first second count : Nat}

theorem Takes.refl (count : Nat) (world : World σ) : Takes count world world :=
  ⟨rfl, rfl, Int.le_refl _, by omega⟩

theorem Takes.trans (one : Takes first a b) (two : Takes second b c) : Takes (first + second) a c :=
  ⟨two.files.trans one.files, two.scratch.trans one.scratch, Int.le_trans one.least two.least, by
    have := one.most
    have := two.most
    omega⟩

theorem Takes.log (takes : Takes count a b) (log : List LogRecord) : Takes count a { b with log := log } :=
  ⟨takes.files, takes.scratch, takes.least, takes.most⟩

theorem Numbers.fitsWord (numbers : Numbers (count + 1) a) : Json.fitsWord a.nextJob = true := by
  obtain ⟨least, most⟩ := numbers
  simp only [Json.fitsWord, Bool.and_eq_true, decide_eq_true_eq]
  omega

theorem Numbers.advance (numbers : Numbers (first + second) a) (least : a.nextJob ≤ b.nextJob)
    (most : b.nextJob ≤ a.nextJob + first) : Numbers second b := by
  obtain ⟨positive, bound⟩ := numbers
  exact ⟨by omega, by omega⟩

end World

/-! ## Sending -/

/-- Whether requests are sent as over a network: nothing but what is outside of the program changes, and a failure is
one of the system or of a value. -/
structure Host.Sends (host : Host σ) : Prop where
  fails : ∀ request, Raises (fun fault => Server.isRetried fault = true) (host.send request)
  takes : ∀ request world, World.Takes 0 world (after (host.send request) world)

/-- Whether metadata can be sent: what is read of their document can be written inside of a job. -/
def Metadata.Sendable (metadata : Metadata) : Prop :=
  ∃ document value, (Json.obj metadata).indented? = some document ∧ Json.ofBytes? (Text.utf8 document) = some value ∧
    (Json.obj [("metadata", value)]).isWritable = true

namespace Address

/-- Whatever is wrong with an address is a fault of a value. -/
theorem read_fails (address : String) : FailsWith (fun fault => Server.isRetried fault = true) (read address) := by
  have bracketed : ∀ name, FailsWith (fun fault => Server.isRetried fault = true) (checkBracketed name) := by
    intro name
    unfold checkBracketed
    split_ifs <;> first | exact .ok _ | exact .error rfl
  have brackets : ∀ host, FailsWith (fun fault => Server.isRetried fault = true) (checkBrackets host) := by
    intro host
    unfold checkBrackets
    dsimp only
    split
    · exact .error rfl
    · split
      · exact .ok _
      · split
        · split
          · exact bracketed _
          · exact bracketed _
          · exact .error rfl
        · split
          · exact .error rfl
          · exact bracketed _
  have forms : ∀ host, FailsWith (fun fault => Server.isRetried fault = true) (checkForms host) := by
    intro host
    unfold checkForms
    split
    · exact .error rfl
    · exact .ok _
  unfold read
  dsimp only
  split
  · exact .error rfl
  · exact (brackets _).bind fun _ => (forms _).bind fun _ => .ok _

end Address

namespace Server

variable {server : Server} {host : Host σ} {shown : ByteArray → Prop} {usable : Response → Prop} {world : World σ}
  {job : List (String × Json)} {number : Int} {response : Response}

/-- Whether the text of an image can be decoded or is found to be no base 64, and the image, if it can be decoded, is as
it should be. -/
structure Usable (shown : ByteArray → Prop) (png : String) : Prop where
  ascii : (png.toList.any fun c => 127 < c.toNat) = false
  shown : ∀ bytes, Base64.read png.toList = .ok bytes → shown bytes

/-- Whether the image of a response, if it is that of a success, can be used. -/
def ShowsIn (shown : ByteArray → Prop) (response : Response) : Prop :=
  status response = .success → ∀ png, Json.field? "png" response = some (.str png) → Usable shown png

/-- Whether all responses that count are of some kind. -/
def Counts (server : Server) (host : Host σ) (usable : Response → Prop) : Prop :=
  ∀ job number world response left, server.post host job number world = .ok response left → usable response

private theorem readResponse_fails (number : Int) (body : ByteArray) :
    FailsWith (fun fault => isRetried fault = true) (readResponse number body) := by
  unfold readResponse
  split
  · exact .error rfl
  · dsimp only
    split
    · exact .ok _
    · exact .error rfl
  · exact .error rfl

/-- The document of a job. -/
def document (server : Server) (job : List (String × Json)) (number : Int) : Json :=
  .obj (job ++ [("jobId", .int number), ("token", .str server.token)])

/-- A job that can be written fails only in such ways that it is tried again. -/
private theorem post_fails (sends : host.Sends) (writable : (server.document job number).isWritable = true) :
    Raises (fun fault => isRetried fault = true) (server.post host job number) := by
  unfold document at writable
  unfold post
  simp only [Json.compact?, writable, ↓reduceIte]
  exact .bind (Action.raises_ofExcept (Address.read_fails _)) fun _ => .bind (sends.fails _) fun _ =>
    Action.raises_ofExcept (readResponse_fails _ _)

private theorem post_takes (sends : host.Sends) (job : List (String × Json)) (number : Int) (world : World σ) :
    World.Takes 0 world (after (server.post host job number) world) := by
  unfold post
  dsimp only
  split
  · exact .refl 0 world
  · refine @after_bind _ _ _ _ (World.Takes 0) .trans _ _ _ ?_ fun address middle _ _ => ?_
    · rw [Action.after_ofExcept]
      exact .refl 0 world
    · refine @after_bind _ _ _ _ (World.Takes 0) .trans _ _ _ (sends.takes _ middle) fun body left _ _ => ?_
      rw [Action.after_ofExcept]
      exact .refl 0 left

theorem tryPost_apply (server : Server) (host : Host σ) (job : List (String × Json)) (number : Int) (world : World σ) :
    server.tryPost host job number world =
      match server.post host job number world with
      | .ok response left => .ok (.ok response) left
      | .error fault left => if isRetried fault then .ok (.error fault) left else .error fault left := by
  simp only [tryPost, bind, EStateM.bind, tryCatch, tryCatchThe, MonadExceptOf.tryCatch]
  delta EStateM.tryCatch
  simp only [EStateM.bind]
  cases server.post host job number world with
  | ok response left => rfl
  | error fault left => cases isRetried : Server.isRetried fault <;> simp only [isRetried] <;> rfl

/-- An attempt gives a response, or the fault for which there may be another one. -/
private theorem tryPost_ok (sends : host.Sends) (counts : server.Counts host usable)
    (writable : (server.document job number).isWritable = true) :
    ∃ result left, server.tryPost host job number world = .ok result left ∧ World.Takes 0 world left ∧
      ∀ response, result = .ok response → usable response := by
  have takes := @post_takes _ server _ sends job number world
  cases run : server.post host job number world with
  | ok response left =>
    rw [after_ok run] at takes
    refine ⟨.ok response, left, by rw [tryPost_apply, run], takes, fun _ same => ?_⟩
    cases same
    exact counts job number world response left run
  | error fault left =>
    rw [after_error run] at takes
    refine ⟨.error fault, left, ?_, takes, fun _ same => nomatch same⟩
    rw [tryPost_apply, run]
    exact if_pos (post_fails sends writable _ _ _ run)

/-- A job that can be written with the numbers that it may take ends with a response, or fails as an oracle does. -/
private theorem submitFrom_settles (sends : host.Sends) (counts : server.Counts host usable)
    (writable : ∀ number, Json.fitsWord number = true → (server.document job number).isWritable = true)
    (done left : Nat) (numbers : World.Numbers left world) :
    (server.submitFrom host job done left).Settles world
      (fun response after => usable response ∧ World.Takes left world after) (World.Takes left world) := by
  induction left generalizing done world with
  | zero => exact .ofError rfl rfl (.refl 0 world)
  | succ left ih =>
    obtain ⟨result, tried, attempt, takes, showing⟩ :=
      @tryPost_ok _ _ _ _ { world with nextJob := world.nextJob + 1 } _ _ sends counts (writable _ numbers.fitsWord)
    have further : World.Takes 1 world tried :=
      ⟨takes.files, takes.scratch, by have := takes.least; dsimp only at this; omega, by
        have := takes.most; dsimp only at this; omega⟩
    unfold submitFrom
    refine .bindOk (show takeNumber world = .ok world.nextJob { world with nextJob := world.nextJob + 1 } from rfl) ?_
    refine .bindOk attempt ?_
    cases result with
    | ok response =>
      refine .ofOk rfl ⟨showing response rfl, ?_⟩
      exact Nat.add_comm left 1 ▸ further.trans (.refl left tried)
    | error fault =>
      refine .bindOk (Action.log_apply _ _ tried) ?_
      have logged := fun log => further.log log
      have numbers := (Nat.add_comm left 1 ▸ numbers : World.Numbers (1 + left) world)
      refine (ih (done + 1) (numbers.advance (logged _).least (logged _).most)).mono ?_ ?_
      · exact fun response after ended => ⟨ended.1, Nat.add_comm left 1 ▸ (logged _).trans ended.2⟩
      · exact fun after takes => Nat.add_comm left 1 ▸ (logged _).trans takes

private theorem submit_settles (sends : host.Sends) (counts : server.Counts host usable)
    (writable : ∀ number, Json.fitsWord number = true → (server.document job number).isWritable = true)
    (numbers : World.Numbers server.attempts.toNat world) :
    (server.submit host job).Settles world
      (fun response after => usable response ∧ World.Takes server.attempts.toNat world after)
      (World.Takes server.attempts.toNat world) := submitFrom_settles sends counts writable 0 _ numbers

/-! ## Rendering and validating -/

/-- A job with metadata that can be sent can be written. -/
theorem isWritable_document {value : Json} (sendable : (Json.obj [("metadata", value)]).isWritable = true)
    (text task : String) (flag : Bool) (fits : Json.fitsWord number = true) :
    (server.document [("fragmentSource", .str text), ("metadata", value), (task, .bool flag)] number).isWritable = true := by
  simp only [Json.isWritable, Json.depth, Json.fieldsDepth, Json.wordsOnly, Json.fieldsWordsOnly, Bool.and_true,
    Bool.and_eq_true, decide_eq_true_eq, Nat.max_zero] at sendable
  simp only [document, List.cons_append, List.nil_append, Json.isWritable, Json.depth, Json.fieldsDepth, Json.wordsOnly,
    Json.fieldsWordsOnly, fits, Bool.and_true, Bool.true_and, Bool.and_eq_true, decide_eq_true_eq, Nat.max_zero]
  exact ⟨by simpa using sendable.1, sendable.2⟩

/-- The job for a stored shader. -/
theorem job_of_storedAt {path : Path} {shader : Shader} (stored : Shader.StoredAt world.files path shader)
    (sendable : Metadata.Sendable shader.metadata) (task : String × Json) :
    ∃ text value, Server.job path task world =
        .ok [("fragmentSource", .str (String.ofList text)), ("metadata", value), task] world ∧
      (Json.obj [("metadata", value)]).isWritable = true := by
  obtain ⟨readText, sidecar, document, beside, writable, readDocument⟩ := stored
  obtain ⟨document', value, writable', meaning, small⟩ := sendable
  cases writable.symm.trans writable'
  have shown : Action.readText path world = .ok (Text.universalNewlines shader.text) world := by
    rw [Action.readText, bind_of_ok (Action.readBytes_of_read readText), Text.read?, Text.ofUtf8?_utf8]
    rfl
  have present : Action.isFile sidecar world = .ok true world := by
    rw [Action.isFile_apply, FileTree.isFile_of_read readDocument]
    simp only [FileTree.canLook, (FileTree.lookup?_of_read readDocument).1, ↓reduceIte]
  have parsed : Action.readJson sidecar world = .ok value world := by
    rw [Action.readJson, bind_of_ok (Action.readBytes_of_read readDocument), meaning]
    rfl
  refine ⟨Text.universalNewlines shader.text, value, ?_, small⟩
  unfold Server.job
  rw [beside, bind_of_ok (Action.ofExcept_ok sidecar world), bind_of_ok shown, bind_of_ok present]
  simp only [↓reduceIte]
  rw [bind_of_ok parsed]
  rfl

/-- What comes of a rendering: no image and all files as they were, or an image that can be used, at its path. -/
inductive Renders (shown : ByteArray → Prop) (image : Path) (count : Nat) (world : World σ) : RenderOutcome → World σ → Prop
  | imageless {outcome : RenderOutcome} {left : World σ} : outcome.image = none → World.Takes count world left →
      Renders shown image count world outcome left
  | shown {bytes : ByteArray} {log : Text} {left : World σ} : shown bytes →
      World.Takes count world { left with files := world.files } → world.files.write image bytes = .ok left.files →
      Renders shown image count world ⟨.success, some image, log⟩ left

section Stored

variable {path image : Path} {shader : Shader} (sends : host.Sends) (stored : Shader.StoredAt world.files path shader)
  (sendable : Metadata.Sendable shader.metadata) (numbers : World.Numbers server.attempts.toNat world)
include sends stored sendable numbers

/-- Rendering a stored shader gives an outcome, or fails as an oracle does, if the images in responses can be used. -/
theorem render_settles (shows : server.Counts host (ShowsIn shown)) (admits : world.files.Admits image) (skip : Bool) :
    (server.render host path image skip).Settles world (Renders shown image server.attempts.toNat world)
      (World.Takes server.attempts.toNat world) := by
  obtain ⟨text, value, made, small⟩ := job_of_storedAt stored sendable ("skipRender", .bool skip)
  refine .bindOk made (.bind (submit_settles sends shows (fun _ => isWritable_document small _ _ _) numbers) ?_)
  rintro response answered ⟨showing, takes⟩
  dsimp only
  split
  · rename_i png isSuccess isImage
    obtain ⟨ascii, usable⟩ := showing isSuccess png isImage
    cases decoded : Base64.read png.toList with
    | error problem => exact .ofError (by simp only [readImage, ascii, decoded]; rfl) rfl takes
    | ok bytes =>
      have admits : answered.files.Admits image := takes.files ▸ admits
      refine .bindOk (show Action.ofExcept (server.readImage png) answered = .ok bytes answered by
        simp only [readImage, ascii, decoded]; rfl) ?_
      refine .bindOk (Action.writeBytes_of_admits admits bytes) (.ofOk rfl ?_)
      rw [isSuccess]
      refine .shown (usable bytes decoded) ⟨rfl, takes.scratch, takes.least, takes.most⟩ ?_
      exact takes.files ▸ admits.write bytes
  · exact .ofOk rfl (.imageless rfl takes)

/-- Validating a stored shader gives an outcome, or fails as an oracle does. -/
theorem validate_settles :
    (server.validate host path).Settles world (fun _ => World.Takes server.attempts.toNat world)
      (World.Takes server.attempts.toNat world) := by
  obtain ⟨text, value, made, small⟩ := job_of_storedAt stored sendable ("validateOnly", .bool true)
  refine .bindOk made (.bind (@submit_settles _ _ _ (fun _ => True) _ _ sends (fun _ _ _ _ _ _ => trivial)
    (fun _ => isWritable_document small _ _ _) numbers) ?_)
  rintro response answered ⟨-, takes⟩
  exact .ofOk rfl takes

end Stored

/-! ## What the tools leave alone -/

section Spares

variable {work scratch : Path} (sends : host.Sends)
include sends

private theorem tryPost_spares (job : List (String × Json)) (number : Int) :
    (server.tryPost host job number).Spares work scratch := by
  intro world _ _
  have takes := @post_takes _ server _ sends job number world
  have agree : World.Agrees (Progress.Own work) world (after (server.post host job number) world) :=
    ⟨takes.scratch, takes.files ▸ .refl _ _⟩
  unfold after at agree ⊢
  rw [tryPost_apply]
  generalize server.post host job number world = result at agree
  cases result with
  | ok response left => exact agree
  | error fault left =>
    dsimp only
    split <;> exact agree

private theorem submitFrom_spares (job : List (String × Json)) (done left : Nat) :
    (server.submitFrom host job done left).Spares work scratch := by
  induction left generalizing done with
  | zero => exact .of_after fun _ => rfl
  | succ left ih =>
    refine .bind (fun world _ _ => ⟨rfl, .refl _ _⟩) fun number => .bind (tryPost_spares sends job number) fun result => ?_
    cases result with
    | ok response => exact .of_after fun _ => rfl
    | error fault => exact .bind (.log _ _) fun _ => ih (done + 1)

omit sends

theorem after_job (path : Path) (task : String × Json) (world : World σ) : after (Server.job path task) world = world := by
  refine Action.after_bind_eq (Action.after_ofExcept _ world) fun sidecar => ?_
  refine Action.after_bind_eq (Action.after_readText path world) fun text => ?_
  refine Action.after_bind_eq (Action.after_isFile sidecar world) fun present => ?_
  split
  · exact Action.after_bind_eq (Action.after_readJson sidecar world) fun _ => rfl
  · rfl

include sends

/-- The tools behind a server leave all on which progress rests alone, if the path of the image does. -/
theorem spares (clear : ∀ tree : FileTree, tree.Standing work → tree.Clear (Progress.Own work) (scratch.child "image.png")) :
    (server.dispatcher host).Spares work scratch where
  render path skip := by
    refine .bind (.of_after (after_job path _)) fun job => .bind (submitFrom_spares sends job 0 _) fun response => ?_
    dsimp only
    split
    · refine .bind (.of_after (Action.after_ofExcept _)) fun bytes => .bind ?_ fun _ => .of_after fun _ => rfl
      exact fun world _ standing => Action.writeBytes_agrees (clear world.files standing) bytes
    · exact .of_after fun _ => rfl
  validate path :=
    .bind (.of_after (after_job path _)) fun job => .bind (submitFrom_spares sends job 0 _) fun _ => .of_after fun _ => rfl

end Spares

end Server

end ShaderShrink
