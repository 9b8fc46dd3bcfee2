import ShaderShrink.Text.Blank

/-!
# Lines

A text is split at every line break, where a carriage return and the line feed after it are one
break; a break at the end opens no further line.  Joining ends every line with a line feed.
-/

namespace ShaderShrink.Text

/-- The lines of a text, without their breaks. -/
def lines : Text → List Text
  | [] => []
  | '\r' :: '\n' :: rest => [] :: lines rest
  | c :: rest =>
    if isLineBreak c then [] :: lines rest
    else
      match lines rest with
      | [] => [[c]]
      | line :: others => (c :: line) :: others

/-- The text whose lines are the given ones, each ended by a line feed. -/
def unlines (ls : List Text) : Text := ls.flatMap fun line => line ++ ['\n']

/-- Every carriage return, alone or with a line feed after it, becomes a line feed. -/
def universalNewlines : Text → Text
  | [] => []
  | '\r' :: '\n' :: rest => '\n' :: universalNewlines rest
  | '\r' :: rest => '\n' :: universalNewlines rest
  | c :: rest => c :: universalNewlines rest

@[simp] theorem unlines_nil : unlines [] = [] := rfl

@[simp] theorem unlines_cons (line : Text) (ls : List Text) :
    unlines (line :: ls) = line ++ '\n' :: unlines ls := by
  simp [unlines]

end ShaderShrink.Text
