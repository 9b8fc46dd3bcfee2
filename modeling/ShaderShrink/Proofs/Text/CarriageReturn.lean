import ShaderShrink.Text.Bytes
import ShaderShrink.Text.Word

/-!
# Carriage returns

A text that is read has no carriage returns, and a text without carriage returns is read as it was written.
-/

namespace ShaderShrink.Text

/-- Whether a text has no carriage return. -/
def Returnless (t : Text) : Prop := '\r' ∉ t

theorem returnless_universalNewlines (t : Text) : Returnless (universalNewlines t) := by
  fun_induction universalNewlines t with
  | case1 => exact List.not_mem_nil
  | case2 rest ih => exact fun member => (List.mem_cons.mp member).elim (by decide) ih
  | case3 rest _ ih => exact fun member => (List.mem_cons.mp member).elim (by decide) ih
  | case4 c rest _ other ih => exact fun member => (List.mem_cons.mp member).elim (fun same => other same.symm) ih

theorem universalNewlines_of_returnless {t : Text} (returnless : Returnless t) : universalNewlines t = t := by
  fun_induction universalNewlines t with
  | case1 => rfl
  | case2 rest ih => exact absurd List.mem_cons_self returnless
  | case3 rest _ ih => exact absurd List.mem_cons_self returnless
  | case4 c rest _ _ ih => rw [ih fun member => returnless (List.mem_cons_of_mem _ member)]

/-- What was read has no carriage returns. -/
theorem returnless_of_read? {content : ByteArray} {t : Text} (read : read? content = some t) : Returnless t := by
  obtain ⟨raw, -, rfl⟩ := Option.map_eq_some_iff.mp read
  exact returnless_universalNewlines raw

theorem ofUtf8?_utf8 (t : Text) : ofUtf8? (utf8 t) = some t := by
  rw [ofUtf8?, utf8, show (String.ofList t).toUTF8 = t.utf8Encode from rfl, List.utf8Decode?_utf8Encode]
  rfl

/-- A text without carriage returns is read as it was written. -/
theorem read?_utf8 {t : Text} (returnless : Returnless t) : read? (utf8 t) = some t := by
  rw [read?, ofUtf8?_utf8, Option.map_some, universalNewlines_of_returnless returnless]

theorem returnless_unlines {ls : List Text} (all : ∀ line ∈ ls, Returnless line) : Returnless (unlines ls) := by
  intro member
  obtain ⟨line, inside, part⟩ := List.mem_flatMap.mp member
  rcases List.mem_append.mp part with here | last
  · exact all line inside here
  · exact absurd last (by decide)

end ShaderShrink.Text
