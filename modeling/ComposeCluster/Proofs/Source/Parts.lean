import ComposeCluster.Proofs.Text.Cut
import ComposeCluster.Source.Tree

/-!
# Parts of paths

The parts of a path are what stands between its slashes. They make up the path again
(`join_pathParts`), a path that is put together from parts has these parts (`pathParts_join`), and a
path that continues another has the parts of both (`pathParts_append_slash`). So two paths are the
same as soon as their parts are, and a path comes before those that lead through it
(`not_prefix_of_compare_eq_lt`).
-/

set_option autoImplicit false

namespace ComposeCluster

variable {path other part : String} {parts : List String}

/-- The parts of a path are what stands between its slashes. -/
theorem map_toList_pathParts (path : String) :
    (pathParts path).map String.toList = path.toList.splitOn '/' := by
  rw [pathParts, Text.splitAll, List.map_map]
  have hid : String.toList ∘ String.ofList = id := funext fun cs => String.toList_ofList
  rw [hid, List.map_id]

/-- A path has at least one part. -/
theorem pathParts_ne_nil (path : String) : pathParts path ≠ [] := by
  simp [pathParts, Text.splitAll]

/-- The parts of a path, joined with slashes, are the path. -/
theorem join_pathParts (path : String) : Text.join "/" (pathParts path) = path := by
  have hslash : "/".toList = ['/'] := by decide
  rw [Text.join, map_toList_pathParts, hslash, List.intercalate_splitOn, String.ofList_toList]

/-- Paths with the same parts are the same. -/
theorem pathParts_inj (h : pathParts path = pathParts other) : path = other := by
  rw [← join_pathParts path, h, join_pathParts]

/-- A path that is put together from parts has these parts. -/
theorem pathParts_join (hne : parts ≠ []) (h : ∀ part ∈ parts, '/' ∉ part.toList) :
    pathParts (Text.join "/" parts) = parts := by
  have hslash : "/".toList = ['/'] := by decide
  have hpieces : ∀ piece ∈ parts.map String.toList, '/' ∉ piece := by
    intro piece hpiece
    obtain ⟨part, hpart, rfl⟩ := List.mem_map.1 hpiece
    exact h part hpart
  have hid : String.ofList ∘ String.toList = id := funext fun text => String.ofList_toList
  rw [pathParts, Text.splitAll, Text.join, String.toList_ofList, hslash,
    List.splitOn_intercalate '/' hpieces (by simpa using hne), List.map_map, hid, List.map_id]

/-- The parts of two paths with a slash between them are those of the first and those of the
second. -/
theorem pathParts_append_slash (front back : String) :
    pathParts (front ++ "/" ++ back) = pathParts front ++ pathParts back :=
  Text.splitAll_append '/' front back

/-- A path without a slash is its own only part. -/
theorem pathParts_of_notMem (h : '/' ∉ path.toList) : pathParts path = [path] :=
  Text.splitAll_of_notMem h

/-- No piece holds what the text was cut at. -/
theorem notMem_of_mem_splitOn {α : Type} [BEq α] [LawfulBEq α] {sep : α} {piece cs : List α}
    (h : piece ∈ cs.splitOn sep) : sep ∉ piece := by
  induction cs generalizing piece with
  | nil =>
    obtain rfl : piece = [] := by simpa using h
    exact List.not_mem_nil
  | cons c cs ih =>
    rw [List.splitOn_cons_eq_if_modifyHead] at h
    by_cases hc : c = sep
    · rw [if_pos (beq_iff_eq.2 hc), List.mem_cons] at h
      rcases h with rfl | h
      · exact List.not_mem_nil
      · exact ih h
    · rw [if_neg (mt beq_iff_eq.1 hc)] at h
      obtain ⟨first, rest, hcut⟩ := List.exists_cons_of_ne_nil (List.splitOn_ne_nil sep cs)
      rw [hcut] at h ih
      rcases List.mem_cons.1 h with rfl | hrest
      · intro hsep
        rcases List.mem_cons.1 hsep with rfl | hfirst
        · exact hc rfl
        · exact ih List.mem_cons_self hfirst
      · exact ih (List.mem_cons_of_mem _ hrest)

/-- No part of a path has a slash in it. -/
theorem slash_notMem_of_mem_pathParts (h : part ∈ pathParts path) : '/' ∉ part.toList := by
  obtain ⟨piece, hpiece, rfl⟩ := List.mem_map.1 h
  rw [String.toList_ofList]
  exact notMem_of_mem_splitOn hpiece

/-! ## Order -/

/-- A text does not come before one that it continues. -/
theorem compare_append_ne_lt (front back : String) : compare (front ++ back) front ≠ .lt := by
  have hcompare : compare (front ++ back) front = compareOfLessAndEq (front ++ back) front := rfl
  rw [ne_eq, hcompare, compareOfLessAndEq_eq_lt, String.lt_iff, String.toList_append, List.not_lt]
  exact List.le_append_left

/-- A path whose parts begin with those of another one continues it. -/
theorem exists_append_of_pathParts {path other : String}
    (h : pathParts other <+: pathParts path) :
    path = other ∨ ∃ back, path = other ++ "/" ++ back := by
  obtain ⟨rest, hrest⟩ := h
  by_cases hnil : rest = []
  · rw [hnil, List.append_nil] at hrest
    exact .inl (pathParts_inj hrest.symm)
  · have hparts : pathParts (Text.join "/" rest) = rest := by
      apply pathParts_join hnil
      intro part hpart
      apply slash_notMem_of_mem_pathParts
      rw [← hrest]
      exact List.mem_append_right _ hpart
    refine .inr ⟨Text.join "/" rest, pathParts_inj ?_⟩
    rw [pathParts_append_slash, hparts, hrest]

/-- Of two paths in order, the later one does not lead to the earlier one. -/
theorem not_prefix_of_compare_eq_lt {earlier later : String} (h : compare earlier later = .lt) :
    ¬ pathParts later <+: pathParts earlier := by
  intro hprefix
  rcases exists_append_of_pathParts hprefix with rfl | ⟨back, rfl⟩
  · simp at h
  · rw [String.append_assoc] at h
    exact compare_append_ne_lt _ _ h

end ComposeCluster
