import NetworkTime.Proofs.Text.Blank

/-! The lines of a text. Each ends in a line feed, with or without a carriage return before it, and
the last one may do without. -/

namespace NetworkTime.Text
variable {cs before : List Char}

/-- A line without the carriage return before its line feed, if there is one. -/
def dropReturn (raw : List Char) : List Char :=
  if raw.getLast? = some '\r' then raw.dropLast else raw

/-- The lines among the parts between line feeds. What follows the last of these is a line only if
there is something. -/
def endedLines : List (List Char) → List (List Char)
  | [] => []
  | [last] => if last = [] then [] else [last]
  | part :: next :: parts => dropReturn part :: endedLines (next :: parts)

/-- The lines of a text without what ends them. -/
def splitLines (cs : List Char) : List (List Char) := endedLines (splitOn '\n' cs)

theorem trim_dropReturn (raw : List Char) : trim (dropReturn raw) = trim raw := by
  unfold dropReturn
  split
  · rename_i h
    obtain ⟨front, rfl⟩ := List.getLast?_eq_some_iff.mp h
    rw [List.dropLast_concat, trim_append (by simp [IsBlanks, isBlank])]
  · rfl

theorem splitLines_append_cons (h : '\n' ∉ before) (after : List Char) :
    splitLines (before ++ '\n' :: after) = dropReturn before :: splitLines after := by
  rw [splitLines, splitOn_append_cons h, splitLines]
  cases hafter : splitOn '\n' after with
  | nil => exact absurd hafter (splitOn_ne_nil '\n')
  | cons part parts => rfl

theorem length_splitLines_le_one (h : '\n' ∉ cs) : (splitLines cs).length ≤ 1 := by
  rw [splitLines, splitOn_eq_singleton h, endedLines]
  split <;> simp

/-- A text begins with the text of its first lines. -/
theorem exists_splitLines_eq_take (cs : List Char) (k : Nat) :
    ∃ upto rest, cs = upto ++ rest ∧ splitLines upto = (splitLines cs).take k := by
  induction k generalizing cs with
  | zero => exact ⟨[], cs, rfl, rfl⟩
  | succ k ih =>
    by_cases hmem : '\n' ∈ cs
    · obtain ⟨line, after, rfl, hline⟩ := List.eq_append_cons_of_mem hmem
      obtain ⟨upto, rest, rfl, hupto⟩ := ih after
      refine ⟨line ++ '\n' :: upto, rest, by simp, ?_⟩
      rw [splitLines_append_cons hline, splitLines_append_cons hline, hupto, List.take_succ_cons]
    · refine ⟨cs, [], (List.append_nil cs).symm, ?_⟩
      have hlength := length_splitLines_le_one hmem
      rw [List.take_of_length_le (by omega)]

end NetworkTime.Text
