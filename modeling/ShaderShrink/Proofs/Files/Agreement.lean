import Mathlib.Tactic.SplitIfs
import ShaderShrink.Proofs.Files.Place

/-!
# Trees that agree

What is found at a path depends only on the entries at the places that the path visits.  Trees that
have the same entries there give the same answers to every question about the path.
-/

namespace ShaderShrink.FileTree

/-- Whether two trees have the same entries at some places. -/
def AgreeOn (places : Place → Prop) (a b : FileTree) : Prop :=
  ∀ place, places place → a.lookup? place = b.lookup? place

theorem AgreeOn.refl (places : Place → Prop) (tree : FileTree) : AgreeOn places tree tree :=
  fun _ _ => rfl

theorem AgreeOn.trans {places : Place → Prop} {a b c : FileTree} (first : AgreeOn places a b)
    (second : AgreeOn places b c) : AgreeOn places a c :=
  fun place member => (first place member).trans (second place member)

theorem AgreeOn.symm {places : Place → Prop} {a b : FileTree} (agree : AgreeOn places a b) :
    AgreeOn places b a := fun place member => (agree place member).symm

theorem AgreeOn.mono {places fewer : Place → Prop} {a b : FileTree} (agree : AgreeOn places a b)
    (within : ∀ place, fewer place → places place) : AgreeOn fewer a b :=
  fun place member => agree place (within place member)

/-- Whether directories stand at all places that a path visits. -/
def Standing (tree : FileTree) (path : Path) : Prop :=
  ∀ place ∈ path.visited, tree.lookup? place = some .directory

/-! ## Locating -/

private theorem locateFrom_ok {tree : FileTree} {place target : Place} {parts : List String}
    (located : tree.locateFrom place parts = .ok target) :
    target = Place.walk place parts ∧
      ∀ passed ∈ Place.passed place parts, tree.lookup? passed = some .directory := by
  induction parts generalizing place with
  | nil =>
    cases located
    exact ⟨rfl, fun _ member => nomatch member⟩
  | cons part rest ih =>
    rw [locateFrom] at located
    split at located
    · contradiction
    · contradiction
    · rename_i directory
      have further : tree.locateFrom (Place.next place part) rest = .ok target := by
        unfold Place.next
        split_ifs at located ⊢ <;> first | contradiction | exact located
      obtain ⟨same, unblocked⟩ := ih further
      refine ⟨same, fun passed member => ?_⟩
      rcases List.mem_cons.mp member with rfl | later
      · exact directory
      · exact unblocked passed later

/-- A path that can be located leads to its place, through directories. -/
theorem locate_ok {tree : FileTree} {path : Path} {target : Place}
    (located : tree.locate path = .ok target) :
    target = path.place ∧ ∀ place ∈ path.passed, tree.lookup? place = some .directory := by
  unfold locate at located
  split_ifs at located
  exact locateFrom_ok located

private theorem locateFrom_congr {a b : FileTree} {place : Place} {parts : List String}
    (agree : ∀ passed ∈ Place.passed place parts, a.lookup? passed = b.lookup? passed) :
    a.locateFrom place parts = b.locateFrom place parts := by
  induction parts generalizing place with
  | nil => rfl
  | cons part rest ih =>
    have here := agree place List.mem_cons_self
    have further := ih fun passed member => agree passed (List.mem_cons_of_mem _ member)
    rw [locateFrom, locateFrom, here]
    unfold Place.next at further
    split
    · rfl
    · rfl
    · split_ifs at further ⊢ <;> first | rfl | exact further

/-- Where a path leads depends only on the places that it passes through. -/
theorem locate_congr {a b : FileTree} {path : Path}
    (agree : ∀ place ∈ path.passed, a.lookup? place = b.lookup? place) :
    a.locate path = b.locate path := by
  unfold locate
  split_ifs
  · rfl
  · rfl
  · exact locateFrom_congr agree
  · rfl

section Visited

variable {a b : FileTree} {path : Path}

theorem AgreeOn.locate (agree : AgreeOn (· ∈ path.visited) a b) : a.locate path = b.locate path :=
  locate_congr fun place member => agree place (Path.mem_visited_of_mem_passed member)

theorem AgreeOn.at? (agree : AgreeOn (· ∈ path.visited) a b) : a.at? path = b.at? path := by
  rw [FileTree.at?, FileTree.at?, agree.locate]
  cases located : b.locate path with
  | error failure => rfl
  | ok place => exact agree place ((locate_ok located).1 ▸ path.place_mem_visited)

theorem AgreeOn.read (agree : AgreeOn (· ∈ path.visited) a b) : a.read path = b.read path := by
  rw [FileTree.read, FileTree.read, agree.locate]
  cases located : b.locate path with
  | error failure => rfl
  | ok place =>
    have same := agree place ((locate_ok located).1 ▸ path.place_mem_visited)
    simp only [bind, Except.bind, same]

theorem AgreeOn.has (agree : AgreeOn (· ∈ path.visited) a b) : a.has path = b.has path := by
  rw [FileTree.has, FileTree.has, agree.at?]

theorem AgreeOn.isFile (agree : AgreeOn (· ∈ path.visited) a b) : a.isFile path = b.isFile path := by
  rw [FileTree.isFile, FileTree.isFile, agree.at?]

theorem AgreeOn.isDirectory (agree : AgreeOn (· ∈ path.visited) a b) :
    a.isDirectory path = b.isDirectory path := by
  rw [FileTree.isDirectory, FileTree.isDirectory, agree.at?]

theorem AgreeOn.canLook (agree : AgreeOn (· ∈ path.visited) a b) : a.canLook path = b.canLook path := by
  rw [FileTree.canLook, FileTree.canLook, agree.locate]

end Visited

theorem standing_of_isDirectory {tree : FileTree} {path : Path}
    (directory : tree.isDirectory path = true) : tree.Standing path := by
  unfold isDirectory at? at directory
  cases located : tree.locate path with
  | error failure => simp [located] at directory
  | ok target =>
    obtain ⟨rfl, unblocked⟩ := locate_ok located
    rw [located] at directory
    intro place member
    rcases List.mem_append.mp member with passed | last
    · exact unblocked place passed
    · obtain rfl := List.mem_singleton.mp last
      dsimp only at directory
      split at directory
      · assumption
      · contradiction

private theorem locateFrom_append {tree : FileTree} {place target : Place} {front back : List String}
    (located : tree.locateFrom place (front ++ back) = .ok target) :
    tree.locateFrom place front = .ok (Place.walk place front) := by
  induction front generalizing place with
  | nil => rfl
  | cons part rest ih =>
    rw [List.cons_append, locateFrom] at located
    rw [locateFrom, Place.walk_cons]
    unfold Place.next
    split at located
    · contradiction
    · contradiction
    · split_ifs at located ⊢ <;> first | contradiction | exact ih located

private theorem text_entry {path : Path} (name : String) (rootless : path.root = "") :
    (path.parts = [] ∧ path.text = ".") ∨ (path.entry name).text = path.text ++ ("/" ++ name) := by
  by_cases empty : path.parts = []
  · exact .inl ⟨empty, by simp [Path.text, rootless, empty]⟩
  · right
    simp [Path.text, Path.entry, rootless, empty, String.append_assoc,
      String.intercalate_append_of_ne_nil empty (List.cons_ne_nil name [])]

/-- An entry that can be located lies in a directory. -/
theorem isDirectory_of_locate_entry {tree : FileTree} {path : Path} {name : String} {place : Place}
    (located : tree.locate (path.entry name) = .ok place) : tree.isDirectory path = true := by
  have unblocked := (locate_ok located).2
  rw [Path.entry_passed] at unblocked
  have way : tree.locate path = .ok path.place := by
    unfold locate at located ⊢
    split_ifs at located with null long rootless
    have root : path.root = "" := String.isEmpty_iff.mp rootless
    have found : tree.locateFrom [] path.parts = .ok path.place := locateFrom_append located
    have bounds : ¬ path.text.toList.contains '\x00' = true ∧ ¬ maxPathBytes < path.text.utf8ByteSize := by
      rcases text_entry name root with ⟨-, dot⟩ | more
      · rw [dot]; decide
      · rw [more] at null long
        constructor
        · intro inside
          exact null (by simp [List.contains_iff_mem.mp inside] )
        · rw [String.utf8ByteSize_append] at long
          omega
    have rootless : path.root.isEmpty = true := rootless
    rw [if_neg bounds.1, if_neg bounds.2, if_pos rootless, found]
  simp only [isDirectory, at?, way, unblocked path.place path.place_mem_visited]

private theorem text_name {path : Path} (name : String) (rootless : path.root = "") (empty : path.parts = []) :
    (path.entry name).text = name := by
  simp [Path.text, Path.entry, rootless, empty]

private theorem locateFrom_concat {tree : FileTree} {place target : Place} {front : List String} {name : String}
    (located : tree.locateFrom place front = .ok target) :
    tree.locateFrom place (front ++ [name]) = tree.locateFrom target [name] := by
  induction front generalizing place with
  | nil =>
    cases located
    rfl
  | cons part rest ih =>
    rw [locateFrom] at located
    generalize tree.locateFrom target [name] = result at ih ⊢
    rw [List.cons_append, locateFrom]
    split at located
    · contradiction
    · contradiction
    · split_ifs at located ⊢ <;> first | contradiction | exact ih located

/-- Whether an entry of a directory is not too long for the system: neither its name nor the path to it. -/
structure ShortEntry (path : Path) (name : String) : Prop where
  part : name.utf8ByteSize ≤ maxPartBytes
  whole : (path.entry name).text.utf8ByteSize ≤ maxPathBytes

private theorem locate_entry_eq {tree : FileTree} {path : Path} {name : String} (directory : tree.isDirectory path = true)
    (readable : '\x00' ∉ name.toList) (down : name ≠ "..") :
    tree.locate (path.entry name) =
      if maxPathBytes < (path.entry name).text.utf8ByteSize then .error .nameTooLong
      else if maxPartBytes < name.utf8ByteSize then .error .nameTooLong
      else .ok (path.entry name).place := by
  have way : tree.locate path = .ok path.place := by
    unfold isDirectory at? at directory
    cases located : tree.locate path with
    | error failure => simp [located] at directory
    | ok place => rw [(locate_ok located).1]
  have stands := standing_of_isDirectory directory path.place path.place_mem_visited
  unfold locate at way ⊢
  split_ifs at way with null long rootless
  have root : path.root = "" := String.isEmpty_iff.mp rootless
  have readable : ¬ (path.entry name).text.toList.contains '\x00' = true := by
    rw [List.contains_iff_mem] at null ⊢
    rcases text_entry name root with ⟨empty, -⟩ | more
    · rwa [text_name name root empty]
    · rw [more]
      simp only [String.toList_append, List.mem_append, not_or]
      exact ⟨null, by decide, readable⟩
  have rootless : (path.entry name).root.isEmpty = true := rootless
  rw [if_neg readable, if_pos rootless, show (path.entry name).parts = path.parts ++ [name] from rfl,
    locateFrom_concat way, locateFrom, stands]
  simp only [down, ↓reduceIte, Path.entry_place path down]
  rfl

/-- An entry of a directory can be located unless it is too long. -/
theorem locate_entry {tree : FileTree} {path : Path} {name : String} (directory : tree.isDirectory path = true)
    (readable : '\x00' ∉ name.toList) (down : name ≠ "..") (short : ShortEntry path name) :
    tree.locate (path.entry name) = .ok (path.entry name).place := by
  rw [locate_entry_eq directory readable down, if_neg (Nat.not_lt_of_le short.whole), if_neg (Nat.not_lt_of_le short.part)]

/-- An entry of a directory that is too long cannot be located. -/
theorem locate_entry_of_not_short {tree : FileTree} {path : Path} {name : String} (directory : tree.isDirectory path = true)
    (readable : '\x00' ∉ name.toList) (down : name ≠ "..") (long : ¬ ShortEntry path name) :
    tree.locate (path.entry name) = .error .nameTooLong := by
  rw [locate_entry_eq directory readable down]
  split_ifs with whole part
  · rfl
  · rfl
  · exact absurd ⟨Nat.not_lt.mp part, Nat.not_lt.mp whole⟩ long

/-- Where an entry of a directory can be looked up, any other one can be located whose name is not longer. -/
theorem locate_entry_of_canLook {tree : FileTree} {path : Path} {name other : String} (directory : tree.isDirectory path = true)
    (readable : '\x00' ∉ name.toList) (down : name ≠ "..") (canLook : tree.canLook (path.entry name) = true)
    (readable' : '\x00' ∉ other.toList) (down' : other ≠ "..") (shorter : other.utf8ByteSize ≤ name.utf8ByteSize) :
    tree.locate (path.entry other) = .ok (path.entry other).place := by
  have short : ShortEntry path name := by
    refine Classical.byContradiction fun long => ?_
    rw [FileTree.canLook, locate_entry_of_not_short directory readable down long] at canLook
    cases canLook
  have rootless : path.root = "" := by
    have located := locate_entry directory readable down short
    unfold locate at located
    split_ifs at located with _ _ rootless
    exact String.isEmpty_iff.mp rootless
  refine locate_entry directory readable' down' ⟨Nat.le_trans shorter short.part, Nat.le_trans ?_ short.whole⟩
  rcases text_entry name rootless with ⟨empty, -⟩ | more
  · rwa [text_name name rootless empty, text_name other rootless empty]
  · rcases text_entry other rootless with ⟨empty, -⟩ | more'
    · rwa [text_name name rootless empty, text_name other rootless empty]
    · rw [more, more']
      simp only [String.utf8ByteSize_append]
      omega

/-- A file that can be read is what stands at the place of its path. -/
theorem lookup?_of_read {tree : FileTree} {path : Path} {content : ByteArray}
    (found : tree.read path = .ok content) :
    tree.locate path = .ok path.place ∧ tree.lookup? path.place = some (.file content) := by
  unfold read at found
  cases located : tree.locate path with
  | error failure => simp [located, bind, Except.bind] at found
  | ok target =>
    obtain ⟨rfl, -⟩ := locate_ok located
    simp only [located, bind, Except.bind] at found
    refine ⟨rfl, ?_⟩
    split at found
    · contradiction
    · contradiction
    · rename_i same
      cases found
      exact same

theorem read_of_lookup? {tree : FileTree} {path : Path} {content : ByteArray}
    (located : tree.locate path = .ok path.place)
    (found : tree.lookup? path.place = some (.file content)) : tree.read path = .ok content := by
  simp only [read, located, bind, Except.bind, found]

theorem isFile_of_read {tree : FileTree} {path : Path} {content : ByteArray}
    (found : tree.read path = .ok content) : tree.isFile path = true := by
  obtain ⟨located, stands⟩ := lookup?_of_read found
  simp only [isFile, at?, located, stands]

theorem has_of_read {tree : FileTree} {path : Path} {content : ByteArray}
    (found : tree.read path = .ok content) : tree.has path = true := by
  obtain ⟨located, stands⟩ := lookup?_of_read found
  simp only [has, at?, located, stands, Option.isSome_some]

end ShaderShrink.FileTree
