import ShaderShrink.Proofs.Reduction.Directory

/-!
# The marker

Placing the marker needs the working directory, and leaves the marker there; neither placing nor clearing
it changes any other own file of the reduction.
-/

namespace ShaderShrink.Progress

open Effect

variable {σ : Type} {work : Path} {world left : World σ}

theorem marker_eq (work : Path) : marker work = work.entry markerName :=
  Path.child_of_isName work Step.isName_markerName

theorem markerName_ne : markerName ≠ ".." := by decide

/-- Changing a file in the working directory leaves all other own files. -/
theorem placeMarker_agrees (standing : world.files.Standing work) :
    World.Agrees (Beside work [markerName]) world (after (placeMarker work) world) := by
  unfold placeMarker
  rw [marker_eq]
  exact Action.touch_agrees (clear_beside standing markerName_ne (List.mem_singleton_self _))

theorem clearMarker_agrees (standing : world.files.Standing work) :
    World.Agrees (Beside work [markerName]) world (after (clearMarker work) world) := by
  unfold clearMarker
  rw [marker_eq]
  exact Action.remove_agrees (clear_beside standing markerName_ne (List.mem_singleton_self _))

private theorem locate_of_has {tree : FileTree} {path : Path} (present : tree.has path = true) :
    tree.locate path = .ok path.place := by
  unfold FileTree.has FileTree.at? at present
  cases located : tree.locate path with
  | error failure => simp [located] at present
  | ok place => rw [(FileTree.locate_ok located).1]

/-- The marker stands in a directory. -/
theorem isDirectory_of_hasMarker {tree : FileTree} (present : hasMarker tree work = true) :
    tree.isDirectory work = true := by
  rw [hasMarker, marker_eq] at present
  exact FileTree.isDirectory_of_locate_entry (locate_of_has present)

/-- Placing the marker needs the working directory, and leaves the marker in there. -/
theorem placeMarker_ok (success : placeMarker work world = .ok () left) :
    world.files.isDirectory work = true ∧ hasMarker left.files work = true := by
  unfold placeMarker Action.touch at success
  rw [bind_of_ok (Action.files_apply world)] at success
  cases present : world.files.has (marker work) with
  | true =>
    simp only [present, Bool.not_true, Bool.false_eq_true, ↓reduceIte] at success
    cases success
    exact ⟨isDirectory_of_hasMarker present, present⟩
  | false =>
    simp only [present, Bool.not_false, ↓reduceIte] at success
    obtain ⟨written, -⟩ := Action.changeFiles_ok success
    refine ⟨?_, FileTree.has_of_read (FileTree.read_write_self written)⟩
    rw [marker_eq] at written
    exact FileTree.isDirectory_of_locate_entry (FileTree.write_ok written).1

end ShaderShrink.Progress
