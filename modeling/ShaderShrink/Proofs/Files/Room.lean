import ShaderShrink.Proofs.Files.Frame

/-!
# Room for files

A path has room for a file if it can be located and no directory stands there.  Where there is room, writing
and removing end without a fault, and an action in a scratch directory runs as soon as nothing is in its way.
-/

namespace ShaderShrink

open Effect

variable {σ α : Type}

/-- Whether the system takes a path: it starts where the program runs, leads down, and is not too long. -/
structure Path.Fits (path : Path) : Prop where
  readable : path.text.toList.contains '\x00' = false
  short : path.text.utf8ByteSize ≤ FileTree.maxPathBytes
  rootless : path.root.isEmpty = true
  down : ".." ∉ path.parts
  shortParts : ∀ part ∈ path.parts, part.utf8ByteSize ≤ FileTree.maxPartBytes

instance (path : Path) : Decidable path.Fits :=
  decidable_of_iff (path.text.toList.contains '\x00' = false ∧ path.text.utf8ByteSize ≤ FileTree.maxPathBytes ∧
      path.root.isEmpty = true ∧ ".." ∉ path.parts ∧ ∀ part ∈ path.parts, part.utf8ByteSize ≤ FileTree.maxPartBytes)
    ⟨fun ⟨readable, short, rootless, down, shortParts⟩ => ⟨readable, short, rootless, down, shortParts⟩,
      fun ⟨readable, short, rootless, down, shortParts⟩ => ⟨readable, short, rootless, down, shortParts⟩⟩

theorem Path.Fits.place {path : Path} (fits : path.Fits) : path.place = path.parts :=
  Place.walk_of_plain [] fits.down

namespace FileTree

variable {tree : FileTree} {path : Path}

private theorem locateFrom_of_fits {place : Place} {parts : List String} (down : ".." ∉ parts)
    (short : ∀ part ∈ parts, part.utf8ByteSize ≤ maxPartBytes)
    (way : ∀ passed ∈ Place.passed place parts, tree.lookup? passed = some .directory) :
    tree.locateFrom place parts = .ok (Place.walk place parts) := by
  induction parts generalizing place with
  | nil => rfl
  | cons part rest ih =>
    have further : part ≠ ".." := fun same => down (same ▸ List.mem_cons_self)
    have fit := Nat.not_lt_of_le (short part List.mem_cons_self)
    rw [locateFrom, way place List.mem_cons_self, Place.walk_cons, Place.next_of_ne place further]
    simp only [fit, further, ↓reduceIte]
    refine ih (fun member => down (List.mem_cons_of_mem part member))
      (fun other member => short other (List.mem_cons_of_mem part member)) fun passed member => ?_
    refine way passed (List.mem_cons_of_mem place ?_)
    rwa [Place.next_of_ne place further]

/-- A path that the system takes is located if directories stand on its way. -/
theorem locate_of_fits (fits : path.Fits) (way : ∀ place ∈ path.passed, tree.lookup? place = some .directory) :
    tree.locate path = .ok path.place := by
  have short := Nat.not_lt_of_le fits.short
  unfold locate
  simp only [fits.readable, short, fits.rootless, Bool.false_eq_true, ↓reduceIte]
  exact locateFrom_of_fits fits.down fits.shortParts way

/-- Whether a file can be written at a path. -/
structure Admits (tree : FileTree) (path : Path) : Prop where
  located : tree.locate path = .ok path.place
  free : tree.lookup? path.place ≠ some .directory

theorem Admits.of_agreeOn {a b : FileTree} (admits : a.Admits path) (agree : AgreeOn (· ∈ path.visited) a b) :
    b.Admits path :=
  ⟨agree.locate.symm.trans admits.located, agree path.place path.place_mem_visited ▸ admits.free⟩

theorem Admits.write (admits : tree.Admits path) (content : ByteArray) :
    tree.write path content = .ok (tree.set path.place (.file content)) := by
  simp only [FileTree.write, admits.located, bind, Except.bind]
  split
  · exact absurd (by assumption) admits.free
  · rfl

theorem Admits.remove (admits : tree.Admits path) : ∃ left, tree.remove path = .ok left := by
  simp only [FileTree.remove, admits.located]
  split
  · exact ⟨tree, rfl⟩
  · exact absurd (by assumption) admits.free
  · exact ⟨_, rfl⟩

/-- Writing a file leaves the way to all places. -/
theorem locate_write {other : Path} {content : ByteArray} {left : FileTree} (located : tree.locate path = .ok path.place)
    (written : tree.write other content = .ok left) : left.locate path = .ok path.place := by
  have way := (locate_ok located).2
  rw [← located]
  exact locate_congr fun place member => by rw [way place member, lookup?_write_of_directory written (way place member)]

/-- Writing a file leaves room for all others, and for itself. -/
theorem Admits.of_write {other : Path} {content : ByteArray} {left : FileTree} (admits : tree.Admits path)
    (written : tree.write other content = .ok left) : left.Admits path := by
  refine ⟨locate_write admits.located written, ?_⟩
  · by_cases same : path.place = other.place
    · obtain ⟨-, free, rfl⟩ := write_ok written
      rw [same, lookup?_set_self tree (place_ne_nil_of_free free)]
      exact nofun
    · rw [lookup?_write_of_ne written same]
      exact admits.free

/-- In a directory that the system gets into, there is room where nothing stands. -/
theorem admits_entry {directory : Path} {name : String} (fits : (directory.entry name).Fits)
    (standing : tree.Standing directory) (free : tree.lookup? (directory.entry name).place = none) :
    tree.Admits (directory.entry name) := by
  refine ⟨locate_of_fits fits fun place member => standing place (Path.entry_passed directory name ▸ member), ?_⟩
  rw [free]
  exact nofun

/-- Whether nothing is in the way of a scratch directory: its parent stands, and nothing is left in it. -/
structure Vacant (tree : FileTree) (scratch : Path) : Prop where
  parent : tree.isDirectory scratch.parent = true
  empty : ∀ place, scratch.parts <+: place → tree.lookup? place = none

theorem Vacant.of_agreeOn {a b : FileTree} {scratch : Path} (vacant : a.Vacant scratch)
    (agree : AgreeOn (fun place => place ∈ scratch.parent.visited ∨ scratch.parts <+: place) a b) : b.Vacant scratch where
  parent := (AgreeOn.isDirectory (agree.mono fun _ => .inl)).symm.trans vacant.parent
  empty place below := (agree place (.inr below)).symm.trans (vacant.empty place below)

theorem vacant_eraseBelow {scratch : Path} (parent : (tree.eraseBelow scratch.parts).isDirectory scratch.parent = true)
    (inside : scratch.parts ≠ []) : (tree.eraseBelow scratch.parts).Vacant scratch := by
  refine ⟨parent, fun place below => ?_⟩
  have filled : place ≠ [] := by
    rintro rfl
    exact inside (List.prefix_nil.mp below)
  simp only [lookup?, filled, ↓reduceIte, Option.map_eq_none_iff, List.find?_eq_none, eraseBelow, List.mem_filter]
  rintro ⟨other, entry⟩ ⟨-, kept⟩ same
  obtain rfl := of_decide_eq_true same
  simp only [List.isPrefixOf_iff_prefix.mpr below, Bool.not_true, Bool.false_eq_true] at kept

/-- The place of a path lies behind those that it passes through. -/
theorem not_prefix_of_mem_parent {scratch : Path} (down : ".." ∉ scratch.parts) (inside : scratch.parts ≠ [])
    {place : Place} (member : place ∈ scratch.parent.visited) : ¬ scratch.parts <+: place := by
  intro below
  have plain : ".." ∉ scratch.parent.parts := fun part => down (List.dropLast_subset _ part)
  have own : scratch.parent.place = scratch.parts.dropLast := Place.walk_of_plain [] plain
  have within := (below.trans (Path.prefix_of_mem_visited plain member)).length_le
  rw [own, List.length_dropLast] at within
  have filled := List.length_pos_iff.mpr inside
  omega

private theorem passed_subset_parent (path : Path) {place : Place} (member : place ∈ path.passed) :
    place ∈ path.parent.visited := by
  obtain ⟨root, parts⟩ := path
  rcases List.eq_nil_or_concat parts with rfl | ⟨front, last, rfl⟩
  · cases member
  · simp only [Path.parent, Path.visited, Path.place, Path.passed, List.dropLast_concat, List.concat_eq_append,
      Place.passed_append, List.mem_append, List.mem_singleton] at member ⊢
    simpa only [Place.passed, List.mem_cons, List.not_mem_nil, or_false] using member

/-- A scratch directory is made where nothing is in its way. -/
theorem Vacant.makeDirectories {scratch : Path} (vacant : tree.Vacant scratch) (fits : scratch.Fits) (fuel : Nat) :
    makeDirectories scratch fuel tree = .ok (tree.set scratch.place .directory) := by
  have missing : tree.lookup? scratch.place = none := vacant.empty _ (fits.place ▸ List.prefix_refl _)
  have located : tree.locate scratch = .ok scratch.place := locate_of_fits fits fun place member =>
    standing_of_isDirectory vacant.parent place (passed_subset_parent scratch member)
  have absent : tree.isDirectory scratch = false := by simp only [isDirectory, at?, located, missing]
  have made : tree.makeDirectory scratch = .ok (tree.set scratch.place .directory) := by
    simp only [makeDirectory, located, missing, bind, Except.bind]
  cases fuel <;> simp only [FileTree.makeDirectories, absent, made, Bool.false_eq_true, ↓reduceIte]

end FileTree

namespace World

/-- The world with its scratch directory. -/
def entering (world : World σ) : World σ :=
  { world with files := world.files.set world.scratch.place .directory }

/-- The world without a scratch directory and all that was in it. -/
def leaving (scratch : Path) (world : World σ) : World σ :=
  { world with files := world.files.eraseBelow scratch.parts }

end World

namespace Action

variable {path : Path} {world left : World σ}

theorem writeBytes_of_admits (admits : world.files.Admits path) (content : ByteArray) :
    writeBytes path content world = .ok () { world with files := world.files.set path.place (.file content) } := by
  rw [writeBytes, changeFiles_apply, admits.write]

/-- Touching a file leaves room for all others, and for itself. -/
theorem touch_of_admits (admits : world.files.Admits path) :
    ∃ left, touch path world = .ok () left ∧ ∀ other, world.files.Admits other → left.files.Admits other := by
  unfold touch
  rw [bind_of_ok (files_apply world)]
  cases world.files.has path with
  | true => exact ⟨world, rfl, fun _ admits => admits⟩
  | false => exact ⟨_, writeBytes_of_admits admits _, fun _ other => other.of_write (admits.write _)⟩

theorem remove_of_admits (admits : world.files.Admits path) : ∃ left, remove path world = .ok () left := by
  obtain ⟨tree, removed⟩ := admits.remove
  exact ⟨{ world with files := tree }, by rw [remove, changeFiles_apply, removed]⟩

section Scratch

variable {act : Path → Action σ α} (vacant : world.files.Vacant world.scratch) (fits : world.scratch.Fits)
include vacant fits

private theorem makeDirectories_entering : (makeDirectories world.scratch : Action σ Unit) world = .ok () world.entering := by
  rw [makeDirectories, changeFiles_apply, vacant.makeDirectories fits]
  rfl

/-- What ends with a value in the scratch directory does so as a whole. -/
theorem withScratch_of_ok {value : α} (success : act world.scratch world.entering = .ok value left) :
    withScratch act world = .ok value (left.leaving world.scratch) := by
  unfold withScratch
  rw [bind_of_ok (get_apply world), bind_of_ok (makeDirectories_entering vacant fits), bind_of_ok (try_of_ok success _)]
  rfl

/-- What ends with a fault in the scratch directory does so as a whole. -/
theorem withScratch_of_error {fault : Fault} (failed : act world.scratch world.entering = .error fault left) :
    withScratch act world = .error fault (left.leaving world.scratch) := by
  unfold withScratch
  rw [bind_of_ok (get_apply world), bind_of_ok (makeDirectories_entering vacant fits)]
  refine bind_of_error ?_ _
  rw [try_of_error failed]
  rfl

/-- What ends in the scratch directory does so as a whole, and the directory is gone. -/
theorem withScratch_eq (act : Path → Action σ α) :
    withScratch act world = adjust (World.leaving world.scratch) (act world.scratch world.entering) := by
  cases run : act world.scratch world.entering with
  | ok value left => exact withScratch_of_ok vacant fits run
  | error fault left => exact withScratch_of_error vacant fits run

end Scratch

end Action

end ShaderShrink
