import ComposeCluster.Text.Split

/-!
# Texts and their lines

A text is a single line without a line feed, or a line, a line feed and another text; facts about
lines are proved along these two forms (`lineInduction`). A line feed after a text that does not end
in a carriage return ends its last line and changes no other line. A carriage return in front of a
line feed belongs to the line break, so it does not matter whether there is one
(`lines_withReturns`).
-/

set_option autoImplicit false

namespace ComposeCluster.Text

variable {line : List Char}

/-- A text is a single line, or a line that is followed by a line feed and another text. -/
@[elab_as_elim]
theorem lineInduction {motive : List Char → Prop} (last : ∀ line, '\n' ∉ line → motive line)
    (next : ∀ line rest, '\n' ∉ line → motive rest → motive (line ++ '\n' :: rest))
    (cs : List Char) : motive cs :=
  if h : '\n' ∈ cs then by
    obtain ⟨line, rest, hcut, hline⟩ := List.eq_append_cons_of_mem h
    have hshorter : rest.length < cs.length := by
      rw [hcut, List.length_append, List.length_cons]
      omega
    rw [hcut]
    exact next line rest hline (lineInduction last next rest)
  else last cs h
termination_by cs.length

/-- Characters without a line feed are one line, or none if there are no characters. -/
theorem lines_of_notMem (h : '\n' ∉ line) : lines line = if line = [] then [] else [line] := by
  rw [lines, List.splitOn_eq_singleton h]
  by_cases hempty : line = []
  · simp [hempty]
  · simp [hempty]

/-- A line feed ends a line, from which a carriage return at its end is dropped. -/
theorem lines_append_cons (h : '\n' ∉ line) (rest : List Char) :
    lines (line ++ '\n' :: rest) = dropReturn line :: lines rest := by
  obtain ⟨first, others, hpieces⟩ := List.exists_cons_of_ne_nil (List.splitOn_ne_nil '\n' rest)
  rw [lines, lines, List.splitOn_append_cons_self, List.splitOn_eq_singleton h, hpieces,
    List.singleton_append, List.dropLast_cons_of_ne_nil (List.cons_ne_nil first others),
    List.getLast?_cons_cons]
  rfl

/-- A line without a carriage return at its end stays as it is. -/
theorem dropReturn_of_getLast? (h : line.getLast? ≠ some '\r') : dropReturn line = line :=
  if_neg h

/-- A carriage return at the end of a line is dropped. -/
theorem dropReturn_append_return (line : List Char) : dropReturn (line ++ ['\r']) = line := by
  rw [dropReturn, List.getLast?_concat, if_pos rfl, List.dropLast_concat]

/-! ## Carriage returns -/

/-- A copy with a carriage return in front of every line feed. -/
def withReturns (cs : List Char) : List Char :=
  cs.flatMap fun c => if c = '\n' then ['\r', '\n'] else [c]

/-- Where there are no line feeds, no carriage returns are added. -/
theorem withReturns_of_notMem (h : '\n' ∉ line) : withReturns line = line := by
  induction line with
  | nil => rfl
  | cons c cs ih =>
    obtain ⟨hc, hcs⟩ : '\n' ≠ c ∧ '\n' ∉ cs := by simpa using h
    have htail : cs.flatMap (fun c => if c = '\n' then ['\r', '\n'] else [c]) = cs := ih hcs
    rw [withReturns, List.flatMap_cons, htail, if_neg (Ne.symm hc), List.singleton_append]

/-- A carriage return is added in front of each line feed. -/
theorem withReturns_append_cons (h : '\n' ∉ line) (rest : List Char) :
    withReturns (line ++ '\n' :: rest) = (line ++ ['\r']) ++ '\n' :: withReturns rest := by
  have hline := withReturns_of_notMem h
  rw [withReturns] at hline ⊢
  rw [List.flatMap_append, hline, List.flatMap_cons, if_pos rfl, List.append_assoc]
  rfl

/-- A text without carriage returns keeps its lines if its line breaks get some. -/
theorem lines_withReturns {cs : List Char} (h : '\r' ∉ cs) : lines (withReturns cs) = lines cs := by
  induction cs using lineInduction with
  | last line hline => rw [withReturns_of_notMem hline]
  | next line rest hline ih =>
    obtain ⟨hfront, hback⟩ : '\r' ∉ line ∧ '\r' ∉ rest := by simpa using h
    have hbreak : '\n' ∉ line ++ ['\r'] := by simp [hline]
    have hend : line.getLast? ≠ some '\r' := fun hlast => hfront (List.mem_of_getLast? hlast)
    rw [withReturns_append_cons hline, lines_append_cons hbreak, lines_append_cons hline,
      dropReturn_append_return, dropReturn_of_getLast? hend, ih hback]

end ComposeCluster.Text
