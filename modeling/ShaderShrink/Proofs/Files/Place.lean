import ShaderShrink.Files.Tree

/-!
# Where paths lead

A path passes through places on its way to its own place.  Both depend on its parts alone; the tree
only decides whether the way is open, that is, whether directories stand at all places that are passed.
Trees with the same entries there agree on what is found at the path.
-/

namespace ShaderShrink

namespace Place

/-- The place behind a part of a path. -/
def next (place : Place) (part : String) : Place := if part = ".." then place.dropLast else place ++ [part]

/-- The place to which parts lead. -/
def walk (place : Place) (parts : List String) : Place := parts.foldl next place

/-- The places that parts pass through on their way, without the last one. -/
def passed (place : Place) : List String → List Place
  | [] => []
  | part :: rest => place :: passed (next place part) rest

@[simp] theorem walk_nil (place : Place) : walk place [] = place := rfl

@[simp] theorem walk_cons (place : Place) (part : String) (rest : List String) :
    walk place (part :: rest) = walk (next place part) rest := rfl

theorem walk_append (place : Place) (front back : List String) :
    walk place (front ++ back) = walk (walk place front) back := by
  simp only [walk, List.foldl_append]

theorem passed_append (place : Place) (front back : List String) :
    passed place (front ++ back) = passed place front ++ passed (walk place front) back := by
  induction front generalizing place with
  | nil => rfl
  | cons part rest ih => simp only [List.cons_append, passed, walk_cons, ih]

theorem next_of_ne (place : Place) {part : String} (down : part ≠ "..") :
    next place part = place ++ [part] := by
  simp only [next, down, ↓reduceIte]

/-- Parts without double dots lead below the place where they start. -/
theorem walk_of_plain (place : Place) {parts : List String} (plain : ".." ∉ parts) :
    walk place parts = place ++ parts := by
  induction parts generalizing place with
  | nil => simp
  | cons part rest ih =>
    have down : part ≠ ".." := fun same => plain (same ▸ List.mem_cons_self)
    rw [walk_cons, next_of_ne place down, ih _ fun member => plain (List.mem_cons_of_mem _ member),
      List.append_assoc, List.singleton_append]

/-- Every place that parts without double dots pass through lies between the start and the end. -/
theorem prefix_of_mem_passed {place place' : Place} {parts : List String} (plain : ".." ∉ parts)
    (member : place' ∈ passed place parts) : place' <+: place ++ parts := by
  induction parts generalizing place with
  | nil => cases member
  | cons part rest ih =>
    have down : part ≠ ".." := fun same => plain (same ▸ List.mem_cons_self)
    rcases List.mem_cons.mp member with rfl | further
    · exact List.prefix_append _ _
    · have below := ih (fun member => plain (List.mem_cons_of_mem _ member)) further
      rwa [next_of_ne place down, List.append_assoc, List.singleton_append] at below

end Place

namespace Path

/-- The place to which a path leads. -/
def place (path : Path) : Place := Place.walk [] path.parts

/-- The places that a path passes through. -/
def passed (path : Path) : List Place := Place.passed [] path.parts

/-- The places that a path passes through and the one to which it leads. -/
def visited (path : Path) : List Place := path.passed ++ [path.place]

theorem place_mem_visited (path : Path) : path.place ∈ path.visited :=
  List.mem_append_right _ (List.mem_singleton_self _)

theorem mem_visited_of_mem_passed {path : Path} {place : Place} (member : place ∈ path.passed) :
    place ∈ path.visited := List.mem_append_left _ member

/-- A path without double dots visits nothing but places above its own. -/
theorem prefix_of_mem_visited {path : Path} (plain : ".." ∉ path.parts) {place : Place}
    (member : place ∈ path.visited) : place <+: path.place := by
  have own : path.place = [] ++ path.parts := Place.walk_of_plain [] plain
  rcases List.mem_append.mp member with passed | last
  · exact own ▸ Place.prefix_of_mem_passed plain passed
  · exact List.mem_singleton.mp last ▸ List.prefix_refl _

/-- Whether a text is a name, that is, a path of one part that leads down. -/
def IsName (name : String) : Prop := ofText name = ⟨"", [name]⟩ ∧ name ≠ ".."

instance (name : String) : Decidable (IsName name) := inferInstanceAs (Decidable (_ ∧ _))

theorem IsName.ne_empty {name : String} (isName : IsName name) : name ≠ "" := by
  rintro rfl
  exact absurd (congrArg Path.parts isName.1) (by decide)

/-- The path of a name in a directory. -/
def entry (path : Path) (name : String) : Path := ⟨path.root, path.parts ++ [name]⟩

theorem child_of_isName (path : Path) {name : String} (isName : IsName name) :
    path.child name = path.entry name := by
  rw [child, isName.1]
  rfl

theorem entry_place (path : Path) {name : String} (down : name ≠ "..") :
    (path.entry name).place = path.place ++ [name] := by
  simp only [entry, place, Place.walk_append, Place.walk_cons, Place.walk_nil, Place.next_of_ne _ down]

theorem entry_passed (path : Path) (name : String) : (path.entry name).passed = path.visited := by
  simp only [entry, visited, place, passed, Place.passed_append]
  rfl

theorem mem_entry_visited (path : Path) {name : String} (down : name ≠ "..") {place : Place} :
    place ∈ (path.entry name).visited ↔ place ∈ path.visited ∨ place = path.place ++ [name] := by
  rw [visited, entry_passed, entry_place path down, List.mem_append, List.mem_singleton]

@[simp] theorem entry_parent (path : Path) (name : String) : (path.entry name).parent = path := by
  simp only [entry, parent, List.dropLast_concat]

@[simp] theorem entry_name (path : Path) (name : String) : (path.entry name).name = name := by
  simp only [entry, Path.name, List.getLast?_concat, Option.getD_some]

/-- A path with another name is an entry of the same directory. -/
theorem withName_of_ne (path : Path) (named : path.name ≠ "") (other : String) :
    path.withName other = .ok (path.parent.entry other) := by
  have filled : path.name.isEmpty = false :=
    Bool.eq_false_iff.mpr fun empty => named (String.isEmpty_iff.mp empty)
  simp only [withName, filled, Bool.false_eq_true, ↓reduceIte]
  rfl

theorem withName_ok {path changed : Path} {other : String} (success : path.withName other = .ok changed) :
    path.name ≠ "" ∧ changed = path.parent.entry other := by
  unfold withName at success
  split at success
  · contradiction
  · rename_i filled
    cases success
    exact ⟨fun empty => filled (String.isEmpty_iff.mpr empty), rfl⟩

private theorem splitSlash_of_notMem {chars : List Char} (plain : '/' ∉ chars) :
    splitSlash chars = [chars] := by
  induction chars with
  | nil => rfl
  | cons c rest ih =>
    have differ : c ≠ '/' := fun same => plain (same ▸ List.mem_cons_self)
    simp only [splitSlash, differ, ↓reduceIte, ih fun member => plain (List.mem_cons_of_mem _ member)]

/-- A text without slashes is a name, unless it is empty or made of one or two dots. -/
theorem isName_of_notMem {name : String} (plain : '/' ∉ name.toList) (filled : name ≠ "")
    (notDot : name ≠ ".") (notDots : name ≠ "..") : IsName name := by
  have chars : name.toList ≠ [] := fun empty => filled (String.toList_eq_nil_iff.mp empty)
  have dot : name.toList ≠ ['.'] := fun same => notDot (String.toList_inj.mp same)
  refine ⟨?_, notDots⟩
  have root : (ofText name).root = "" := by
    unfold ofText
    dsimp only
    split
    · rename_i start; rw [start] at plain; simp at plain
    · rename_i start; rw [start] at plain; simp at plain
    · rename_i start; rw [start] at plain; simp at plain
    · rfl
  have parts : (ofText name).parts = [name] := by
    simp only [ofText, splitSlash_of_notMem plain, List.filter_cons, List.filter_nil]
    simp [chars, dot]
  rw [← root, ← parts]

end Path

end ShaderShrink
