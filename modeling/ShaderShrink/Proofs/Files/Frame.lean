import ShaderShrink.Proofs.Effect
import ShaderShrink.Proofs.Files.Change

/-!
# What actions leave alone

Two worlds agree on some places if they have the same entries there and the same scratch directory.
Reading and logging change no file; each other action leaves all places alone of which its paths are
clear.
-/

namespace ShaderShrink

open Effect

variable {σ α β : Type}

/-- Whether a path visits none of some places, other than directories. -/
def FileTree.Clear (tree : FileTree) (places : Place → Prop) (path : Path) : Prop :=
  ∀ place, places place → place ∈ path.visited → tree.lookup? place = some .directory

theorem FileTree.Clear.of_agreeOn {places : Place → Prop} {a b : FileTree} {path : Path}
    (clear : a.Clear places path) (agree : AgreeOn places a b) : b.Clear places path :=
  fun place member visited => (agree place member).symm.trans (clear place member visited)

theorem FileTree.Clear.parent {places : Place → Prop} {tree : FileTree} {path : Path}
    (clear : tree.Clear places path) : tree.Clear places path.parent :=
  fun place member visited => clear place member (visited_parent visited)

/-- Two worlds with the same entries at some places and the same scratch directory. -/
structure World.Agrees (places : Place → Prop) (before after : World σ) : Prop where
  scratch : after.scratch = before.scratch
  files : before.files.AgreeOn places after.files

namespace World.Agrees

variable {places fewer : Place → Prop} {a b c : World σ}

theorem refl (places : Place → Prop) (world : World σ) : Agrees places world world :=
  ⟨rfl, .refl places world.files⟩

theorem trans (first : Agrees places a b) (second : Agrees places b c) : Agrees places a c :=
  ⟨second.scratch.trans first.scratch, first.files.trans second.files⟩

theorem mono (agree : Agrees places a b) (within : ∀ place, fewer place → places place) :
    Agrees fewer a b := ⟨agree.scratch, agree.files.mono within⟩

theorem bind {action : Action σ α} {next : α → Action σ β}
    (first : Agrees places a (after action a))
    (rest : ∀ value middle, action a = .ok value middle → Agrees places a middle →
      Agrees places middle (after (next value) middle)) :
    Agrees places a (after (action >>= next) a) :=
  @after_bind _ _ _ _ (Agrees places) trans _ _ _ first rest

/-- The same for a first action that leaves the world as it is. -/
theorem bind_still {action : Action σ α} {next : α → Action σ β} (still : after action a = a)
    (rest : ∀ value, action a = .ok value a → Agrees places a (after (next value) a)) :
    Agrees places a (after (action >>= next) a) := by
  refine bind (still.symm ▸ refl places a) fun value middle run _ => ?_
  obtain rfl := (after_ok run).symm.trans still
  exact rest value run

theorem attempt {action : Action σ α} {handle : Fault → Action σ α}
    (first : Agrees places a (after action a))
    (rest : ∀ fault left, action a = .error fault left → Agrees places a left →
      Agrees places left (after (handle fault) left)) :
    Agrees places a (after (tryCatch action handle) a) :=
  @after_try _ _ _ (Agrees places) trans _ _ _ first rest

end World.Agrees

namespace Action

/-! ## Reading and logging -/

@[simp] theorem files_apply (world : World σ) :
    (files : Action σ FileTree) world = .ok world.files world := rfl

@[simp] theorem log_apply (level : Level) (message : String) (world : World σ) :
    (log level message : Action σ Unit) world =
      .ok () { world with log := world.log ++ [⟨level, message⟩] } := rfl

@[simp] theorem ofExcept_ok (value : α) (world : World σ) :
    (ofExcept (.ok value) : Action σ α) world = .ok value world := rfl

@[simp] theorem ofExcept_error (fault : Fault) (world : World σ) :
    (ofExcept (.error fault) : Action σ α) world = .error fault world := rfl

theorem ofExcept_eq_ok {result : Except Fault α} {world left : World σ} {value : α}
    (success : ofExcept result world = .ok value left) : result = .ok value ∧ left = world := by
  cases result <;> cases success
  exact ⟨rfl, rfl⟩

theorem bind_ofExcept_ok {result : Except Fault α} {next : α → Action σ β} {world left : World σ}
    {value : β} (success : (ofExcept result >>= next) world = .ok value left) :
    ∃ first, result = .ok first ∧ next first world = .ok value left := by
  cases result with
  | ok first => exact ⟨first, rfl, success⟩
  | error fault => cases success

theorem after_ofExcept (result : Except Fault α) (world : World σ) :
    after (ofExcept result) world = world := by
  cases result <;> rfl

theorem filesFor_apply (path : Path) (world : World σ) :
    (filesFor path : Action σ FileTree) world =
      if world.files.canLook path then .ok world.files world
      else .error (fileFault .nameTooLong path) world := by
  unfold filesFor
  rw [bind_of_ok (files_apply world)]
  split_ifs <;> rfl

theorem isFile_apply (path : Path) (world : World σ) :
    (isFile path : Action σ Bool) world =
      if world.files.canLook path then .ok (world.files.isFile path) world
      else .error (fileFault .nameTooLong path) world := by
  have look := filesFor_apply path world
  split_ifs at look ⊢
  · exact bind_of_ok look _
  · exact bind_of_error look _

theorem isPresent_apply (path : Path) (world : World σ) :
    (isPresent path : Action σ Bool) world =
      if world.files.canLook path then .ok (world.files.has path) world
      else .error (fileFault .nameTooLong path) world := by
  have look := filesFor_apply path world
  split_ifs at look ⊢
  · exact bind_of_ok look _
  · exact bind_of_error look _

theorem readBytes_apply (path : Path) (world : World σ) :
    (readBytes path : Action σ ByteArray) world =
      match world.files.read path with
      | .ok content => .ok content world
      | .error failure => .error (fileFault failure path) world := by
  unfold readBytes
  rw [bind_of_ok (files_apply world)]
  cases world.files.read path <;> rfl

theorem readBytes_ok {path : Path} {world left : World σ} {content : ByteArray}
    (success : readBytes path world = .ok content left) :
    world.files.read path = .ok content ∧ left = world := by
  rw [readBytes_apply] at success
  split at success <;> cases success
  exact ⟨by assumption, rfl⟩

theorem readBytes_of_read {path : Path} {world : World σ} {content : ByteArray}
    (found : world.files.read path = .ok content) : readBytes path world = .ok content world := by
  rw [readBytes_apply, found]

theorem after_isFile (path : Path) (world : World σ) : after (isFile path) world = world := by
  rw [after, isFile_apply]
  split_ifs <;> rfl

theorem after_isPresent (path : Path) (world : World σ) : after (isPresent path) world = world := by
  rw [after, isPresent_apply]
  split_ifs <;> rfl

theorem after_readBytes (path : Path) (world : World σ) : after (readBytes path) world = world := by
  rw [after, readBytes_apply]
  split <;> rfl

/-- Actions in sequence leave the world as it is if each of them does. -/
theorem after_bind_eq {action : Action σ α} {next : α → Action σ β} {world : World σ}
    (first : after action world = world) (rest : ∀ value, after (next value) world = world) :
    after (action >>= next) world = world := by
  cases run : action world with
  | ok value middle =>
    obtain rfl := (after_ok run).symm.trans first
    simpa only [after, bind_of_ok run] using rest value
  | error fault left =>
    rw [after_error (bind_of_error run next), ← after_error run, first]

theorem after_readText (path : Path) (world : World σ) : after (readText path) world = world := by
  refine after_bind_eq (after_readBytes path world) fun content => ?_
  cases Text.read? content <;> rfl

/-! ## Changing files -/

section Changes

variable {places : Place → Prop} {path : Path} {world : World σ}

theorem changeFiles_apply (path : Path) (edit : FileTree → Except SystemFailure FileTree)
    (world : World σ) :
    (changeFiles path edit : Action σ Unit) world =
      match edit world.files with
      | .ok tree => .ok () { world with files := tree }
      | .error failure => .error (fileFault failure path) world := by
  unfold changeFiles
  rw [bind_of_ok (files_apply world)]
  cases edit world.files <;> rfl

theorem changeFiles_ok {edit : FileTree → Except SystemFailure FileTree} {left : World σ}
    (success : changeFiles path edit world = .ok () left) :
    edit world.files = .ok left.files ∧ left = { world with files := left.files } := by
  rw [changeFiles_apply] at success
  split at success <;> cases success
  exact ⟨by assumption, rfl⟩

/-- What cannot be written changes nothing, and could not be read either. -/
theorem writeBytes_error {content : ByteArray} {fault : Fault} {left : World σ}
    (failed : writeBytes path content world = .error fault left) :
    left = world ∧ ∀ bytes, world.files.read path ≠ .ok bytes := by
  rw [writeBytes, changeFiles_apply] at failed
  split at failed <;> cases failed
  rename_i refused
  refine ⟨rfl, fun bytes found => ?_⟩
  obtain ⟨tree, written⟩ := FileTree.write_of_read found content
  rw [written] at refused
  cases refused

theorem changeFiles_agrees {edit : FileTree → Except SystemFailure FileTree}
    (keeps : ∀ tree, edit world.files = .ok tree → world.files.AgreeOn places tree) :
    World.Agrees places world (after (changeFiles path edit) world) := by
  rw [after, changeFiles_apply]
  cases changed : edit world.files with
  | ok tree => exact ⟨rfl, keeps tree changed⟩
  | error failure => exact .refl places world

theorem writeBytes_agrees (clear : world.files.Clear places path) (content : ByteArray) :
    World.Agrees places world (after (writeBytes path content) world) := by
  refine changeFiles_agrees fun tree written place member => ?_
  by_cases visited : place ∈ path.visited
  · have directory := clear place member visited
    rw [directory, FileTree.lookup?_write_of_directory written directory]
  · have differ : place ≠ path.place := fun same => visited (same ▸ path.place_mem_visited)
    exact (FileTree.lookup?_write_of_ne written differ).symm

theorem makeDirectories_agrees (clear : world.files.Clear places path) :
    World.Agrees places world (after (makeDirectories path) world) := by
  refine changeFiles_agrees fun tree made place member => ?_
  refine (FileTree.lookup?_makeDirectories made ?_).symm
  by_cases visited : place ∈ path.visited
  · left
    rw [clear place member visited]
    exact Option.some_ne_none _
  · exact .inr visited

theorem remove_agrees (clear : world.files.Clear places path) :
    World.Agrees places world (after (remove path) world) := by
  refine changeFiles_agrees fun tree removed place member => (FileTree.lookup?_remove removed ?_).symm
  by_cases same : place = path.place
  · exact .inl (clear place member (same ▸ path.place_mem_visited))
  · exact .inr same

theorem touch_agrees (clear : world.files.Clear places path) :
    World.Agrees places world (after (touch path) world) := by
  unfold touch
  refine World.Agrees.bind (.refl places world) fun tree middle run agree => ?_
  cases run
  split
  · exact writeBytes_agrees clear _
  · exact .refl places world

theorem copy_agrees {source target : Path} (clear : world.files.Clear places target) :
    World.Agrees places world (after (copy source target) world) := by
  refine World.Agrees.bind ?_ fun content middle run agree => ?_
  · rw [after_readBytes]
    exact .refl places world
  · exact writeBytes_agrees (clear.of_agreeOn agree.files) content

/-- A directory that stands already is not made again. -/
theorem makeDirectories_of_isDirectory (directory : world.files.isDirectory path = true) :
    (makeDirectories path : Action σ Unit) world = .ok () world := by
  rw [makeDirectories, changeFiles_apply, FileTree.makeDirectories_of_isDirectory _ directory]

/-- What happens in a scratch directory stays there, if the action inside leaves the places alone. -/
theorem withScratch_agrees {act : Path → Action σ α} (clear : world.files.Clear places world.scratch)
    (apart : ∀ place, places place → ¬ world.scratch.parts <+: place)
    (inside : ∀ made : World σ, World.Agrees places world made →
      World.Agrees places made (after (act world.scratch) made)) :
    World.Agrees places world (after (withScratch act) world) := by
  have cleared : ∀ w : World σ, World.Agrees places w
      (after (modify fun world' : World σ =>
        { world' with files := world'.files.eraseBelow world.scratch.parts } : Action σ PUnit) w) :=
    fun w => ⟨rfl, fun place member =>
      (FileTree.lookup?_eraseBelow_of_not_prefix w.files (apart place member)).symm⟩
  unfold withScratch
  refine World.Agrees.bind (.refl places world) fun here middle run _ => ?_
  cases run
  refine World.Agrees.bind (makeDirectories_agrees clear) fun _ made _ agree => ?_
  refine World.Agrees.bind ?_ fun result _ _ _ => ?_
  · refine World.Agrees.attempt (inside made agree) fun fault left _ _ => ?_
    exact World.Agrees.bind (cleared left) fun _ _ _ _ => .refl places _
  · exact World.Agrees.bind (cleared _) fun _ _ _ _ => .refl places _

/-- What has ended with a value in a scratch directory has run in one that stands. -/
theorem withScratch_ok {act : Path → Action σ α} {value : α} {left : World σ}
    (success : withScratch act world = .ok value left) :
    ∃ made inside, made.files.isDirectory world.scratch = true ∧ act world.scratch made = .ok value inside := by
  obtain ⟨here, _, run, success⟩ := bind_ok success
  cases run
  obtain ⟨_, made, making, success⟩ := bind_ok success
  obtain ⟨result, inside, tried, success⟩ := bind_ok success
  obtain ⟨_, _, cleared, success⟩ := bind_ok success
  cases success
  refine ⟨made, inside, FileTree.isDirectory_of_makeDirectories (changeFiles_ok making).1, ?_⟩
  cases run : act world.scratch made with
  | ok result' inside' =>
    rw [try_of_ok run] at tried
    exact tried
  | error fault failed =>
    rw [try_of_error run] at tried
    obtain ⟨_, _, -, thrown⟩ := bind_ok tried
    cases thrown

end Changes

end Action

end ShaderShrink
