import ComposeCluster.Text.Blank
import ComposeCluster.Text.Split
import Mathlib

/-!
# Text without regard to case

Two texts that differ in ASCII capitals alone have one form in small letters
(`Text.SameLetters`). Nothing changes in small letters any more (`asciiLower_asciiLower`), and they
are blank where the capitals were, so a text may be trimmed before or after
(`trim_asciiLower`).
-/

set_option autoImplicit false

namespace ComposeCluster.Text

/-- The texts are the same up to ASCII capitals. -/
def SameLetters (text other : String) : Prop := asciiLower text = asciiLower other

instance (text other : String) : Decidable (SameLetters text other) :=
  inferInstanceAs (Decidable (asciiLower text = asciiLower other))

/-- Text in small letters stays as it is when put into small letters. -/
theorem asciiLower_asciiLower (text : String) : asciiLower (asciiLower text) = asciiLower text := by
  rw [asciiLower, asciiLower, String.toList_ofList, List.map_map]
  refine congrArg String.ofList (List.map_congr_left fun c _ => ?_)
  exact c.toLower_toLower_eq_toLower

/-- A text in small letters is empty exactly if the text is. -/
theorem isEmpty_asciiLower (text : String) : (asciiLower text).isEmpty = text.isEmpty := by
  have hempty (other : String) : other.isEmpty = other.toList.isEmpty := by
    rw [Bool.eq_iff_iff, String.isEmpty_iff, List.isEmpty_iff, String.toList_eq_nil_iff]
  rw [hempty, hempty, asciiLower, String.toList_ofList, List.isEmpty_map]

/-- Capitals and their small letters are not blank. -/
theorem isBlank_toLower (c : Char) : isBlank c.toLower = isBlank c := by
  by_cases hupper : c.isUpper
  · have hrange : 65 ≤ c.toNat ∧ c.toNat ≤ 90 := by
      simpa [Char.isUpper, UInt32.le_iff_toNat_le] using hupper
    have hsmall : c.toLower.toNat = c.toNat + 32 := by
      rw [Char.toLower_eq_of_isUpper hupper, Char.toNat_ofNat, if_pos (.inl (by omega))]
    have hnone : ∀ code ∈ blankCodes, code < 65 ∨ 122 < code := by decide
    have hsolid {code : Nat} (h : 65 ≤ code ∧ code ≤ 122) : blankCodes.contains code = false := by
      rw [List.contains_eq_mem, decide_eq_false_iff_not]
      intro hmem
      have hcode := hnone code hmem
      omega
    rw [isBlank, isBlank, hsolid (by omega), hsolid (by omega)]
  · rw [Char.toLower_eq_of_not_isUpper hupper]

/-- Characters are trimmed before or after they are put into small letters. -/
theorem trimChars_map_toLower (cs : List Char) :
    trimChars (cs.map Char.toLower) = (trimChars cs).map Char.toLower := by
  have hdrop (cs : List Char) :
      (cs.map Char.toLower).dropWhile isBlank = (cs.dropWhile isBlank).map Char.toLower := by
    rw [List.dropWhile_map]
    congr 2
    exact funext isBlank_toLower
  rw [trimChars, hdrop, ← List.map_reverse, hdrop, ← List.map_reverse, trimChars]

/-- Trimming and putting into small letters may change places. -/
theorem trim_asciiLower (text : String) : trim (asciiLower text) = asciiLower (trim text) := by
  rw [trim, asciiLower, String.toList_ofList, trimChars_map_toLower, asciiLower, trim,
    String.toList_ofList]

/-- What ends a text in small letters is the end of the text, in small letters. -/
theorem endsWith_asciiLower {ending text : String} :
    endsWith ending (asciiLower text) = true ↔
      ∃ front back, text = front ++ back ∧ asciiLower back = ending := by
  rw [endsWith, asciiLower, String.toList_ofList, List.isSuffixOf_iff_suffix]
  constructor
  · rintro ⟨start, h⟩
    obtain ⟨front, back, htext, -, hback⟩ := List.map_eq_append_iff.1 h.symm
    refine ⟨.ofList front, .ofList back, ?_, ?_⟩
    · rw [← String.ofList_append, ← htext, String.ofList_toList]
    · rw [asciiLower, String.toList_ofList, hback, String.ofList_toList]
  · rintro ⟨front, back, rfl, rfl⟩
    rw [String.toList_append, List.map_append, asciiLower, String.toList_ofList]
    exact List.suffix_append _ _

end ComposeCluster.Text
