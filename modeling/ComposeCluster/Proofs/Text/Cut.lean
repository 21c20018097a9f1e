import ComposeCluster.Text.Split
import Mathlib.Data.List.TakeWhile

/-!
# Texts that are cut at a separator

A text is cut at the first separator in it. What stands before the cut has no separator in it, and
together with what stands behind it makes up the text (`splitOnce_append`); a text without a
separator is not cut (`splitOnce_of_notMem`). Every text is of one of the two forms
(`splitOnce_cases`). A text that is cut at every separator has the pieces of what stands on the two
sides of any of them (`splitAll_append`).
-/

set_option autoImplicit false

namespace ComposeCluster.Text

variable {sep : Char} {text : String}

/-- Characters of a text without a separator pass the test for not being one. -/
theorem bne_of_notMem {cs : List Char} (h : sep ∉ cs) : ∀ c ∈ cs, (c != sep) = true := by
  intro c hc
  rw [bne_iff_ne]
  rintro rfl
  exact h hc

/-- Without a separator there is nothing to cut. -/
theorem splitOnceChars_of_notMem {cs : List Char} (h : sep ∉ cs) :
    splitOnceChars sep cs = none := by
  have hdrop : cs.dropWhile (· != sep) = [] := List.dropWhile_eq_nil_iff.2 (bne_of_notMem h)
  rw [splitOnceChars, hdrop]

/-- A cut is made at the first separator. -/
theorem splitOnceChars_append {before : List Char} (h : sep ∉ before) (after : List Char) :
    splitOnceChars sep (before ++ sep :: after) = some (before, after) := by
  have hall := bne_of_notMem h
  rw [splitOnceChars, List.dropWhile_append_of_pos hall, List.takeWhile_append_of_pos hall]
  simp

/-- A text without a separator is not cut. -/
theorem splitOnce_of_notMem (h : sep ∉ text.toList) : splitOnce sep text = none := by
  rw [splitOnce, splitOnceChars_of_notMem h, Option.map_none]

/-- A text is cut at its first separator, into what stands before and after it. -/
theorem splitOnce_append {before : String} (h : sep ∉ before.toList) (after : String) :
    splitOnce sep (before ++ String.singleton sep ++ after) = some (before, after) := by
  rw [splitOnce, String.toList_append, String.toList_append, String.toList_singleton,
    List.append_assoc, List.singleton_append, splitOnceChars_append h, Option.map_some]
  simp only [String.ofList_toList]

/-- A text has no separator, or is cut at the first one. -/
theorem splitOnce_cases (sep : Char) (text : String) :
    (sep ∉ text.toList ∧ splitOnce sep text = none) ∨
      ∃ before after, sep ∉ before.toList ∧ text = before ++ String.singleton sep ++ after ∧
        splitOnce sep text = some (before, after) := by
  by_cases h : sep ∈ text.toList
  · right
    obtain ⟨before, after, hcut, hbefore⟩ := List.eq_append_cons_of_mem h
    have hfront : sep ∉ (String.ofList before).toList := by rwa [String.toList_ofList]
    have htext : text = String.ofList before ++ String.singleton sep ++ String.ofList after := by
      rw [← String.toList_inj, hcut]
      simp
    refine ⟨String.ofList before, String.ofList after, hfront, htext, ?_⟩
    rw [htext, splitOnce_append hfront]
  · exact .inl ⟨h, splitOnce_of_notMem h⟩

/-! ## Every separator -/

/-- A text without a separator is its own only piece. -/
theorem splitAll_of_notMem (h : sep ∉ text.toList) : splitAll sep text = [text] := by
  rw [splitAll, List.splitOn_eq_singleton h, List.map_singleton, String.ofList_toList]

/-- Pieces of two texts with a separator between them are those of the first and those of the
second. -/
theorem splitAll_append (sep : Char) (front back : String) :
    splitAll sep (front ++ String.singleton sep ++ back) =
      splitAll sep front ++ splitAll sep back := by
  rw [splitAll, String.toList_append, String.toList_append, String.toList_singleton,
    List.append_assoc, List.singleton_append, List.splitOn_append_cons_self, List.map_append]
  rfl

end ComposeCluster.Text
