import ShaderShrink.Proofs.Files.Agreement

/-!
# Changes of a tree

Each change of a tree changes the entries of few places: writing a file that of its path, making
directories those of missing places on the way, and erasing those at or below a place.  Directories
stay directories unless they are erased.
-/

namespace ShaderShrink.FileTree

variable {tree left : FileTree} {path : Path}

/-! ## Erasing -/

theorem lookup?_erase_of_ne (tree : FileTree) {place other : Place} (differ : other ≠ place) :
    (tree.erase place).lookup? other = tree.lookup? other := by
  simp only [lookup?, erase]
  split
  · rfl
  · congr 1
    rw [List.find?_filter]
    congr 1
    funext entry
    by_cases found : entry.1 = other <;> simp [found, differ]

theorem lookup?_eraseBelow_of_not_prefix (tree : FileTree) {place other : Place}
    (outside : ¬ place <+: other) : (tree.eraseBelow place).lookup? other = tree.lookup? other := by
  simp only [lookup?, eraseBelow]
  split
  · rfl
  · congr 1
    rw [List.find?_filter]
    congr 1
    funext entry
    by_cases found : entry.1 = other
    · have kept : List.isPrefixOf place other = false :=
        Bool.eq_false_iff.mpr fun inside => outside (List.isPrefixOf_iff_prefix.mp inside)
      simp [found, kept]
    · simp [found]

/-! ## Writing a file -/

/-- A file is written at the place of its path, where no directory stands. -/
theorem write_ok {content : ByteArray} (written : tree.write path content = .ok left) :
    tree.locate path = .ok path.place ∧ tree.lookup? path.place ≠ some .directory ∧
      left = tree.set path.place (.file content) := by
  unfold write at written
  cases located : tree.locate path with
  | error failure => simp [located, bind, Except.bind] at written
  | ok target =>
    obtain ⟨rfl, -⟩ := locate_ok located
    simp only [located, bind, Except.bind] at written
    split at written
    · contradiction
    · rename_i free
      cases written
      exact ⟨rfl, free, rfl⟩

theorem lookup?_nil (tree : FileTree) : tree.lookup? [] = some .directory := by
  simp only [lookup?, ↓reduceIte]

theorem place_ne_nil_of_free {place : Place} (free : tree.lookup? place ≠ some .directory) : place ≠ [] := by
  rintro rfl
  exact free tree.lookup?_nil

/-- Writing a file changes the entry at its place alone. -/
theorem lookup?_write_of_ne {content : ByteArray} (written : tree.write path content = .ok left)
    {other : Place} (differ : other ≠ path.place) : left.lookup? other = tree.lookup? other := by
  obtain ⟨-, -, rfl⟩ := write_ok written
  exact lookup?_set_of_ne tree differ _

/-- Writing a file leaves all directories. -/
theorem lookup?_write_of_directory {content : ByteArray} (written : tree.write path content = .ok left)
    {other : Place} (directory : tree.lookup? other = some .directory) :
    left.lookup? other = some .directory := by
  have differ : other ≠ path.place := fun same => (write_ok written).2.1 (same ▸ directory)
  rw [lookup?_write_of_ne written differ, directory]

/-- Writing a file keeps all directories. -/
theorem isDirectory_write {content : ByteArray} {directory : Path} (written : tree.write path content = .ok left)
    (stands : tree.isDirectory directory = true) : left.isDirectory directory = true := by
  have standing := standing_of_isDirectory stands
  rw [← stands]
  refine AgreeOn.isDirectory fun place member => ?_
  rw [lookup?_write_of_directory written (standing place member), standing place member]

/-- A file that was just written is read again. -/
theorem read_write_self {content : ByteArray} (written : tree.write path content = .ok left) :
    left.read path = .ok content := by
  obtain ⟨located, free, rfl⟩ := write_ok written
  have unblocked := (locate_ok located).2
  have way : (tree.set path.place (.file content)).locate path = tree.locate path :=
    locate_congr fun place member =>
      (lookup?_write_of_directory written (unblocked place member)).trans (unblocked place member).symm
  exact read_of_lookup? (way.trans located)
    (lookup?_set_self tree (place_ne_nil_of_free free) _)

/-- A file that can be read can be written again. -/
theorem write_of_read {content : ByteArray} (found : tree.read path = .ok content) (bytes : ByteArray) :
    ∃ left, tree.write path bytes = .ok left := by
  obtain ⟨located, stands⟩ := lookup?_of_read found
  exact ⟨tree.set path.place (.file bytes), by simp only [write, located, bind, Except.bind, stands]⟩

/-- Something stands at every place that the path of a file visits. -/
private theorem stands_of_read {content : ByteArray} (found : tree.read path = .ok content) {place : Place}
    (member : place ∈ path.visited) :
    tree.lookup? place = some .directory ∨ place = path.place ∧ tree.lookup? place = some (.file content) := by
  obtain ⟨located, stands⟩ := lookup?_of_read found
  rcases List.mem_append.mp member with passed | last
  · exact .inl ((locate_ok located).2 place passed)
  · obtain rfl := List.mem_singleton.mp last
    exact .inr ⟨rfl, stands⟩

/-- Writing a file leaves all files at other places. -/
theorem read_write_of_ne {other : Path} {content bytes : ByteArray} (found : tree.read path = .ok content)
    (written : tree.write other bytes = .ok left) (differ : path.place ≠ other.place) :
    left.read path = .ok content := by
  rw [← found]
  refine AgreeOn.read fun place member => ?_
  rcases stands_of_read found member with directory | ⟨rfl, -⟩
  · rw [directory, lookup?_write_of_directory written directory]
  · exact lookup?_write_of_ne written differ

/-- What can be read at other places is the same before a file is written. -/
theorem read_write_iff_of_ne {other : Path} {content bytes : ByteArray} (written : tree.write other bytes = .ok left)
    (differ : path.place ≠ other.place) : left.read path = .ok content ↔ tree.read path = .ok content := by
  refine ⟨fun found => ?_, fun found => read_write_of_ne found written differ⟩
  obtain ⟨-, free, rfl⟩ := write_ok written
  rw [← found]
  refine AgreeOn.read fun place member => (lookup?_set_of_ne tree ?_ _).symm
  rintro rfl
  have stands := lookup?_set_self tree (place_ne_nil_of_free free) (.file bytes)
  rcases stands_of_read found member with directory | ⟨same, -⟩
  · rw [stands] at directory
    cases directory
  · exact differ same.symm

/-- Writing an entry of a directory leaves all that the paths of other entries visit. -/
theorem agreeOn_write_entry {directory : Path} {name other : String} {content : ByteArray}
    (standing : tree.Standing directory) (downOther : other ≠ "..") (down : name ≠ "..")
    (differ : other ≠ name) (written : tree.write (directory.entry name) content = .ok left) :
    AgreeOn (· ∈ (directory.entry other).visited) left tree := by
  intro place member
  rcases (Path.mem_entry_visited directory downOther).mp member with above | rfl
  · rw [standing place above, lookup?_write_of_directory written (standing place above)]
  · refine lookup?_write_of_ne written fun same => differ ?_
    rw [Path.entry_place directory down] at same
    exact List.singleton_inj.mp (List.append_cancel_left same)

/-! ## Removing a file -/

/-- Removing a file changes the entry at its place alone, and no directory. -/
theorem lookup?_remove (removed : tree.remove path = .ok left) {other : Place}
    (kept : tree.lookup? other = some .directory ∨ other ≠ path.place) :
    left.lookup? other = tree.lookup? other := by
  unfold remove at removed
  split at removed
  · cases removed; rfl
  · contradiction
  · rename_i place located
    obtain ⟨rfl, -⟩ := locate_ok located
    split at removed
    · cases removed; rfl
    · contradiction
    · rename_i file
      cases removed
      refine lookup?_erase_of_ne tree fun same => ?_
      rcases kept with directory | differ
      · rw [same, file] at directory; cases directory
      · exact differ same

theorem lookup?_erase_self (tree : FileTree) {place : Place} (inside : place ≠ []) :
    (tree.erase place).lookup? place = none := by
  simp [lookup?, erase, inside]

/-- Where a file was removed nothing stands any more. -/
theorem has_remove_self (removed : tree.remove path = .ok left) : left.has path = false := by
  unfold remove at removed
  split at removed
  · rename_i missing
    cases removed
    simp only [has, at?, missing, Option.isSome_none]
  · contradiction
  · rename_i target located
    split at removed
    · rename_i absent
      cases removed
      simp only [has, at?, located, absent, Option.isSome_none]
    · contradiction
    · rename_i content stands
      cases removed
      have free : tree.lookup? target ≠ some .directory := by simp [stands]
      have inside := place_ne_nil_of_free free
      unfold has at?
      cases found : (tree.erase target).locate path with
      | error failure => rfl
      | ok other =>
        obtain rfl := (locate_ok found).1.trans (locate_ok located).1.symm
        simp only [lookup?_erase_self tree inside, Option.isSome_none]

/-! ## Making directories -/

theorem makeDirectory_ok (made : tree.makeDirectory path = .ok left) :
    tree.lookup? path.place = none ∧ left = tree.set path.place .directory := by
  unfold makeDirectory at made
  cases located : tree.locate path with
  | error failure => simp [located, bind, Except.bind] at made
  | ok target =>
    obtain ⟨rfl, -⟩ := locate_ok located
    simp only [located, bind, Except.bind] at made
    split at made
    · contradiction
    · rename_i missing
      cases made
      exact ⟨missing, rfl⟩

/-- Where making directories may change an entry: nothing stands there, and the path visits it. -/
private def Gap (tree : FileTree) (path : Path) (place : Place) : Prop :=
  tree.lookup? place = none ∧ place ∈ path.visited

private theorem lookup?_makeDirectory (made : tree.makeDirectory path = .ok left) {other : Place}
    (outside : ¬ Gap tree path other) : left.lookup? other = tree.lookup? other := by
  obtain ⟨missing, rfl⟩ := makeDirectory_ok made
  refine lookup?_set_of_ne tree (fun same => outside ?_) _
  exact same ▸ ⟨missing, path.place_mem_visited⟩

theorem visited_parent {place : Place} (member : place ∈ path.parent.visited) :
    place ∈ path.visited := by
  obtain ⟨root, parts⟩ := path
  rcases List.eq_nil_or_concat parts with rfl | ⟨front, last, rfl⟩
  · exact member
  · simp only [Path.parent, Path.visited, Path.place, Path.passed, List.dropLast_concat,
      List.concat_eq_append, Place.passed_append, List.mem_append, List.mem_singleton] at member ⊢
    rcases member with passed | rfl
    · exact .inl (.inl passed)
    · exact .inl (.inr List.mem_cons_self)

/-- Making directories changes only entries at places that the path visits and where nothing stood. -/
theorem lookup?_makeDirectories {fuel : Nat} (made : makeDirectories path fuel tree = .ok left)
    {other : Place} (outside : tree.lookup? other ≠ none ∨ other ∉ path.visited) :
    left.lookup? other = tree.lookup? other := by
  induction fuel generalizing path left with
  | zero =>
    unfold makeDirectories at made
    split at made
    · cases made; rfl
    · exact lookup?_makeDirectory made fun gap => outside.elim (· gap.1) (· gap.2)
  | succ fuel ih =>
    unfold makeDirectories at made
    split at made
    · cases made; rfl
    · split at made
      · cases above : makeDirectories path.parent fuel tree with
        | error failure => simp [above, bind, Except.bind] at made
        | ok middle =>
          have first := ih above (outside.imp_right fun away member => away (visited_parent member))
          simp only [above, bind, Except.bind] at made
          split at made
          · cases made; exact first
          · rw [← first]
            refine lookup?_makeDirectory made fun gap => ?_
            exact outside.elim (fun stands => stands (first ▸ gap.1)) (· gap.2)
      · exact lookup?_makeDirectory made fun gap => outside.elim (· gap.1) (· gap.2)

private theorem isDirectory_of_makeDirectory (made : tree.makeDirectory path = .ok left) :
    left.isDirectory path = true := by
  obtain ⟨missing, same⟩ := makeDirectory_ok made
  have located : tree.locate path = .ok path.place := by
    unfold makeDirectory at made
    cases located : tree.locate path with
    | error failure => simp [located, bind, Except.bind] at made
    | ok target => rw [(locate_ok located).1]
  have unblocked := (locate_ok located).2
  have way : left.locate path = .ok path.place := by
    rw [← located]
    refine locate_congr fun place member => ?_
    rw [same, lookup?_set_of_ne tree fun here => ?_]
    rw [← here, unblocked place member] at missing
    cases missing
  have inside : path.place ≠ [] := by
    intro empty
    rw [empty, tree.lookup?_nil] at missing
    cases missing
  simp only [isDirectory, at?, way]
  simp only [same, lookup?_set_self tree inside]

/-- Where directories were made, one stands. -/
theorem isDirectory_of_makeDirectories {fuel : Nat} (made : makeDirectories path fuel tree = .ok left) :
    left.isDirectory path = true := by
  cases fuel with
  | zero =>
    unfold makeDirectories at made
    split at made
    · cases made; assumption
    · exact isDirectory_of_makeDirectory made
  | succ fuel =>
    unfold makeDirectories at made
    split at made
    · cases made; assumption
    · split at made
      · cases above : makeDirectories path.parent fuel tree with
        | error failure => simp [above, bind, Except.bind] at made
        | ok middle =>
          simp only [above, bind, Except.bind] at made
          split at made
          · cases made; assumption
          · exact isDirectory_of_makeDirectory made
      · exact isDirectory_of_makeDirectory made

/-- Where a directory stands already, none is made. -/
theorem makeDirectories_of_isDirectory (fuel : Nat) (directory : tree.isDirectory path = true) :
    makeDirectories path fuel tree = .ok tree := by
  cases fuel <;> simp only [makeDirectories, directory, ↓reduceIte]

/-! ## The names in a directory -/

private theorem lookup?_of_mem {place : Place} (inside : place ≠ []) :
    (tree.lookup? place).isSome = true ↔ ∃ entry, (place, entry) ∈ tree.entries := by
  simp only [lookup?, inside, ↓reduceIte, Option.isSome_map, List.find?_isSome, decide_eq_true_eq,
    Prod.exists]
  constructor
  · rintro ⟨other, entry, member, rfl⟩
    exact ⟨entry, member⟩
  · rintro ⟨entry, member⟩
    exact ⟨place, entry, member, rfl⟩

/-- The names in a directory are those at which something stands. -/
theorem mem_children (tree : FileTree) (place : Place) (name : String) :
    name ∈ tree.children place ↔ (tree.lookup? (place ++ [name])).isSome = true := by
  rw [lookup?_of_mem (by simp)]
  simp only [children, List.mem_filterMap, Prod.exists]
  constructor
  · rintro ⟨found, entry, member, listed⟩
    refine ⟨entry, ?_⟩
    split at listed
    · rename_i last rest reversed
      split_ifs at listed with same
      cases listed
      have whole : found = place ++ [name] := by
        rw [← List.reverse_reverse found, reversed, List.reverse_cons, same]
      exact whole ▸ member
    · contradiction
  · rintro ⟨entry, member⟩
    exact ⟨place ++ [name], entry, member, by simp⟩

end ShaderShrink.FileTree
