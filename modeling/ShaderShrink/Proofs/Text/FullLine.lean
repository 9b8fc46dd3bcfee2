import ShaderShrink.Proofs.Text.Line

/-!
# Lines with their breaks

A text is made of its lines with the breaks behind them.  Where the lines alone are joined again, every break comes back as
a line feed, and a last line without a break gets one.  So joining gives a text back, up to a line feed at its end, exactly
if all its breaks are line feeds; and putting other lines in the place of some leaves the rest alone exactly if the breaks
of the rest are line feeds.
-/

namespace ShaderShrink.Text

/-- The lines of a text with the breaks behind them. -/
def fullLines : Text → List Text
  | [] => []
  | c :: rest =>
    if isLineBreak c then [c] :: fullLines rest
    else
      match fullLines rest with
      | [] => [[c]]
      | line :: others => (c :: line) :: others

/-- A line without the break behind it. -/
def bare (line : Text) : Text := line.filter (!isLineBreak ·)

/-- The text with a line feed for every break. -/
def leveled (t : Text) : Text := t.map fun c => if isLineBreak c then '\n' else c

/-- The text with a line feed at its end, unless it is empty or has one there. -/
def ended (t : Text) : Text := if t.getLast?.all (· = '\n') then t else t ++ ['\n']

/-- Whether all breaks of a text are line feeds. -/
def LineFed (t : Text) : Prop := ∀ c ∈ t, isLineBreak c = true → c = '\n'

/-- The text with new lines, each ended by a line feed, in the place of those from `first` to `last`. -/
def splice (t : Text) (first last : Nat) (new : List Text) : Text :=
  ((fullLines t).take first).flatten ++ unlines new ++ ((fullLines t).drop (last + 1)).flatten

/-- Full lines: every line has a break behind it, except perhaps the last one, which is not empty then. -/
inductive Layout : List Text → Prop
  | nil : Layout []
  | last {line : Text} : line ≠ [] → Unbroken line → Layout [line]
  | cons {line : Text} {c : Char} {rest : List Text} : Unbroken line → isLineBreak c = true → Layout rest →
      Layout ((line ++ [c]) :: rest)

section Single

variable {line t : Text} {c : Char}

theorem bare_of_unbroken (unbroken : Unbroken line) : bare line = line :=
  List.filter_eq_self.mpr fun c member => by rw [unbroken c member, Bool.not_false]

theorem bare_append (unbroken : Unbroken line) (ends : isLineBreak c = true) : bare (line ++ [c]) = line := by
  have own := bare_of_unbroken unbroken
  rw [bare] at own ⊢
  rw [List.filter_append, own]
  simp [ends]

theorem leveled_append (a b : Text) : leveled (a ++ b) = leveled a ++ leveled b := List.map_append

/-- A text is on one level exactly if its breaks are line feeds. -/
theorem leveled_eq_self_iff : leveled t = t ↔ LineFed t := by
  have fixed : ∀ c, (if isLineBreak c then '\n' else c) = c ↔ (isLineBreak c = true → c = '\n') := by
    intro c
    split_ifs with ends
    · simp [ends, eq_comm]
    · simp [ends]
  have whole : leveled t = t ↔ leveled t = t.map id := by rw [List.map_id]
  rw [whole, leveled, List.map_inj_left]
  exact forall₂_congr fun c _ => fixed c

theorem Unbroken.lineFed (unbroken : Unbroken line) : LineFed line := by
  intro c member ends
  rw [unbroken c member] at ends
  cases ends

theorem lineFed_append {a b : Text} : LineFed (a ++ b) ↔ LineFed a ∧ LineFed b := List.forall_mem_append

theorem lineFed_unlines {ls : List Text} (unbroken : ∀ line ∈ ls, Unbroken line) : LineFed (unlines ls) := by
  intro c member ends
  obtain ⟨line, inside, part⟩ := List.mem_flatMap.mp member
  rcases List.mem_append.mp part with here | last
  · exact (unbroken line inside).lineFed c here ends
  · exact List.mem_singleton.mp last

theorem ended_cons (filled : t ≠ []) : ended (c :: t) = c :: ended t := by
  obtain ⟨d, rest, rfl⟩ := List.exists_cons_of_ne_nil filled
  unfold ended
  rw [List.getLast?_cons_cons]
  split_ifs <;> rfl

theorem ended_append {a b : Text} (filled : b ≠ []) : ended (a ++ b) = a ++ ended b := by
  induction a with
  | nil => rfl
  | cons c rest ih => rw [List.cons_append, ended_cons (List.append_ne_nil_of_right_ne_nil rest filled), ih, List.cons_append]

/-- A line feed ends what stands in front of it. -/
theorem ended_append_cons (a b : Text) : ended (a ++ '\n' :: b) = a ++ '\n' :: ended b := by
  rw [ended_append (List.cons_ne_nil _ _)]
  cases b with
  | nil => rfl
  | cons d rest => rw [ended_cons (List.cons_ne_nil _ _)]

theorem ended_of_unbroken (filled : line ≠ []) (unbroken : Unbroken line) : ended line = line ++ ['\n'] := by
  refine if_neg fun last => ?_
  rw [List.getLast?_eq_some_getLast filled, Option.all_some, decide_eq_true_eq] at last
  exact absurd (unbroken _ (last ▸ List.getLast_mem filled)) (by decide)

theorem take_ended (t : Text) : (ended t).take t.length = t := by
  unfold ended
  split_ifs <;> simp

/-- A text keeps its breaks, up to a line feed at its end, exactly if they are line feeds. -/
theorem ended_leveled_eq_iff : ended (leveled t) = ended t ↔ LineFed t := by
  constructor
  · intro same
    refine leveled_eq_self_iff.mp ?_
    have front := take_ended (leveled t)
    rwa [same, leveled, List.length_map, take_ended, eq_comm] at front
  · intro fed
    rw [leveled_eq_self_iff.mpr fed]

end Single

/-! ## Full lines -/

/-- A text is what its full lines make up. -/
theorem flatten_fullLines (t : Text) : (fullLines t).flatten = t := by
  fun_induction fullLines t with
  | case1 => rfl
  | case2 c rest ends ih => rw [List.flatten_cons, ih, List.singleton_append]
  | case3 c rest inside none ih =>
    rw [none] at ih
    simpa using ih
  | case4 c rest inside line others listed ih =>
    rw [listed] at ih
    simpa using ih

theorem layout_fullLines (t : Text) : Layout (fullLines t) := by
  fun_induction fullLines t with
  | case1 => exact .nil
  | case2 c rest ends ih =>
    have none : Unbroken [] := fun _ member => (List.not_mem_nil member).elim
    exact .cons none ends ih
  | case3 c rest inside none ih =>
    exact .last (List.cons_ne_nil _ _) fun d member => List.mem_singleton.mp member ▸ Bool.eq_false_iff.mpr inside
  | case4 c rest inside line others listed ih =>
    rw [listed] at ih
    have longer : ∀ {line : Text}, Unbroken line → Unbroken (c :: line) := fun unbroken d member =>
      (List.mem_cons.mp member).elim (fun same => same ▸ Bool.eq_false_iff.mpr inside) (unbroken d)
    cases ih with
    | last filled unbroken => exact .last (List.cons_ne_nil _ _) (longer unbroken)
    | cons unbroken ends layout => exact .cons (longer unbroken) ends layout

namespace Layout

variable {ls : List Text}

theorem drop (layout : Layout ls) (count : Nat) : Layout (ls.drop count) := by
  induction layout generalizing count with
  | nil => rw [List.drop_nil]; exact .nil
  | last filled unbroken =>
    cases count with
    | zero => exact .last filled unbroken
    | succ count => rw [List.drop_succ_cons, List.drop_nil]; exact .nil
  | cons unbroken ends layout ih =>
    cases count with
    | zero => exact .cons unbroken ends layout
    | succ count => exact ih count

/-- Lines with line feeds behind them in front of full lines. -/
theorem append (layout : Layout ls) {new : List Text} (unbroken : ∀ line ∈ new, Unbroken line) :
    Layout (new.map (· ++ ['\n']) ++ ls) := by
  induction new with
  | nil => exact layout
  | cons line rest ih =>
    have later := ih fun other member => unbroken other (List.mem_cons_of_mem _ member)
    exact .cons (unbroken line List.mem_cons_self) (by decide) later

/-- Full lines stay so where some are replaced: only the last one may lack a break, and none of those in front is that. -/
theorem put (layout : Layout ls) {first last : Nat} (inside : first < ls.length) (ordered : first ≤ last) {new : List Text}
    (unbroken : ∀ line ∈ new, Unbroken line) :
    Layout (ls.take first ++ (new.map (· ++ ['\n']) ++ ls.drop (last + 1))) := by
  induction layout generalizing first last with
  | nil => exact absurd inside (Nat.not_lt_zero _)
  | last filled unbroken' =>
    obtain rfl : first = 0 := by simpa using inside
    exact (drop (.last filled unbroken') _).append unbroken
  | cons unbroken' ends layout ih =>
    cases first with
    | zero => exact (drop (.cons unbroken' ends layout) _).append unbroken
    | succ first =>
      obtain ⟨last, rfl⟩ := Nat.exists_eq_succ_of_ne_zero (Nat.ne_of_gt (Nat.lt_of_lt_of_le first.succ_pos ordered))
      exact .cons unbroken' ends (ih (Nat.lt_of_succ_lt_succ inside) (Nat.le_of_succ_le_succ ordered))

/-- Splitting a text that full lines make up gives their lines. -/
theorem lines_flatten (layout : Layout ls) (returnless : Returnless ls.flatten) : lines ls.flatten = ls.map bare := by
  induction layout with
  | nil => rfl
  | @last line filled unbroken =>
    have single := lines_append_of_unbroken filled unbroken []
    rw [List.append_nil] at single
    simp [single, lines, bare_of_unbroken unbroken]
  | @cons line c rest unbroken ends layout ih =>
    rw [List.flatten_cons] at returnless ⊢
    have single : c ≠ '\r' := by
      rintro rfl
      exact returnless (by simp)
    have below : Returnless rest.flatten := fun member => returnless (List.mem_append_right _ member)
    rw [List.append_assoc, List.singleton_append, lines_append_of_isLineBreak unbroken ends single, ih below, List.map_cons,
      bare_append unbroken ends]

/-- Joining lines makes a line feed of every break. -/
theorem unlines_map_bare (layout : Layout ls) : unlines (ls.map bare) = ended (leveled ls.flatten) := by
  induction layout with
  | nil => rfl
  | @last line filled unbroken =>
    rw [List.flatten_singleton, leveled_eq_self_iff.mpr unbroken.lineFed, ended_of_unbroken filled unbroken, List.map_singleton,
      bare_of_unbroken unbroken, unlines_cons, unlines_nil]
  | @cons line c rest unbroken ends layout ih =>
    have level : leveled ((line ++ [c]) ++ rest.flatten) = line ++ '\n' :: leveled rest.flatten := by
      rw [leveled_append, leveled_append, leveled_eq_self_iff.mpr unbroken.lineFed]
      simp [leveled, ends]
    rw [List.map_cons, unlines_cons, bare_append unbroken ends, ih, List.flatten_cons, level, ended_append_cons]

end Layout

/-! ## Splitting and joining -/

variable {t : Text} {new : List Text} {first last : Nat}

theorem lines_eq_map_bare (returnless : Returnless t) : lines t = (fullLines t).map bare := by
  have listed := (layout_fullLines t).lines_flatten (by rwa [flatten_fullLines])
  rwa [flatten_fullLines] at listed

theorem unlines_lines (returnless : Returnless t) : unlines (lines t) = ended (leveled t) := by
  rw [lines_eq_map_bare returnless, (layout_fullLines t).unlines_map_bare, flatten_fullLines]

/-- Joining lines of which some are replaced makes a line feed of every break. -/
theorem unlines_splice (returnless : Returnless t) (inside : first < (lines t).length) (ordered : first ≤ last)
    (unbroken : ∀ line ∈ new, Unbroken line) :
    unlines ((lines t).take first ++ (new ++ (lines t).drop (last + 1))) = ended (leveled (splice t first last new)) := by
  rw [lines_eq_map_bare returnless] at inside ⊢
  have layout := (layout_fullLines t).put (by rwa [List.length_map] at inside) ordered unbroken
  have bared : (new.map (· ++ ['\n'])).map bare = new := by
    rw [List.map_map]
    exact (List.map_congr_left fun line member => bare_append (unbroken line member) (by decide)).trans (List.map_id new)
  have joined := layout.unlines_map_bare
  rw [List.map_append, List.map_append, bared, List.map_take, List.map_drop] at joined
  rw [joined, splice, unlines, List.flatMap_def, List.flatten_append, List.flatten_append, List.append_assoc]

/-- New lines have no breaks other than line feeds behind them. -/
theorem lineFed_splice_iff (unbroken : ∀ line ∈ new, Unbroken line) :
    LineFed (splice t first last new) ↔ LineFed (splice t first last []) := by
  simp only [splice, lineFed_append, lineFed_unlines unbroken, unlines_nil, List.append_nil, and_true]

end ShaderShrink.Text
