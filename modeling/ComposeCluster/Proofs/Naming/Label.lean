import ComposeCluster.Naming.Label
import ComposeCluster.Proofs.Text.Numeral
import Mathlib.Data.String.Basic

/-!
# What passes the check of a label

The check of a name accepts the labels that are not too long, whatever they are names of
(`Naming.isLabel_iff`); the characters of a label take one byte each, so its length is their
number (`utf8ByteSize_of_isLabelText`). A front of such characters that begins with a letter or a
digit keeps a label one and only makes it longer (`isLabel_append_iff`).
-/

set_option autoImplicit false

namespace ComposeCluster.Naming

/-- A name passes the check of labels of at most so many bytes, whatever it is the name of. -/
def IsLabel (maxLength : Nat) (name : String) : Prop :=
  ∀ kind, checkLabel name maxLength kind = .ok ()

variable {name front kind : String} {maxLength limit : Nat}

/-- A name passes the check exactly if it is short enough and has the text of a label. -/
theorem checkLabel_eq_ok : checkLabel name maxLength kind = .ok () ↔
    name.utf8ByteSize ≤ maxLength ∧ isLabelText name.toList = true := by
  have hempty (h : isLabelText name.toList = true) : ¬ name.isEmpty = true := by
    rw [String.isEmpty_iff]
    rintro rfl
    revert h
    decide
  unfold checkLabel
  constructor
  · intro h
    split_ifs at h with _ hlong hlabel
    exact ⟨Nat.not_lt.1 hlong, hlabel⟩
  · rintro ⟨hsize, hlabel⟩
    rw [if_neg (hempty hlabel), if_neg (Nat.not_lt.2 hsize), if_pos hlabel]

/-- A label is short enough and has the text of one. -/
theorem isLabel_iff : IsLabel maxLength name ↔
    name.utf8ByteSize ≤ maxLength ∧ isLabelText name.toList = true := by
  simp only [IsLabel, checkLabel_eq_ok, forall_const]

instance : DecidablePred (IsLabel maxLength) := fun _ => decidable_of_iff _ isLabel_iff.symm

/-- A name that passed the check is a label. -/
theorem isLabel_of_checkLabel (h : checkLabel name maxLength kind = .ok ()) :
    IsLabel maxLength name :=
  isLabel_iff.2 (checkLabel_eq_ok.1 h)

/-- A label may be allowed to be longer. -/
theorem IsLabel.mono (h : IsLabel maxLength name) (hle : maxLength ≤ limit) :
    IsLabel limit name := by
  obtain ⟨hsize, hlabel⟩ := isLabel_iff.1 h
  exact isLabel_iff.2 ⟨hsize.trans hle, hlabel⟩

/-! ## Characters of a label -/

/-- A character of a label is one byte. -/
theorem utf8Size_of_isLowerOrDigit {c : Char} (h : (isLowerOrDigit c || c == '-') = true) :
    c.utf8Size = 1 := by
  rw [Char.utf8Size_eq_one_iff]
  simp only [isLowerOrDigit, Bool.or_eq_true, Bool.and_eq_true, decide_eq_true_eq, beq_iff_eq] at h
  rcases h with (⟨-, h⟩ | ⟨-, h⟩) | rfl
  · exact UInt32.le_trans (Char.le_def.1 h) (by decide)
  · exact UInt32.le_trans (Char.le_def.1 h) (by decide)
  · decide

/-- Characters of a label have as many bytes as there are characters. -/
theorem utf8Len_of_all {cs : List Char}
    (h : cs.all (fun c => isLowerOrDigit c || c == '-') = true) :
    String.utf8Len cs = cs.length := by
  induction cs with
  | nil => rfl
  | cons c cs ih =>
    rw [List.all_cons, Bool.and_eq_true] at h
    rw [String.utf8Len_cons, ih h.2, utf8Size_of_isLowerOrDigit h.1, List.length_cons]

/-- The characters of a label take one byte each. -/
theorem utf8ByteSize_of_isLabelText (h : isLabelText name.toList = true) :
    name.utf8ByteSize = name.length := by
  simp only [isLabelText, Bool.and_eq_true] at h
  rw [← String.ofList_toList (s := name), String.utf8ByteSize_ofList, utf8Len_of_all h.1.1,
    String.length_ofList]

/-- Small letters and digits make a label. -/
theorem isLabelText_of_all {cs : List Char} (hne : cs ≠ [])
    (hall : ∀ c ∈ cs, isLowerOrDigit c = true) : isLabelText cs = true := by
  simp only [isLabelText, Bool.and_eq_true, List.all_eq_true, Bool.or_eq_true]
  refine ⟨⟨fun c hmem => .inl (hall c hmem), ?_⟩, ?_⟩
  · rw [List.head?_eq_some_head hne]
    exact hall _ (List.head_mem hne)
  · rw [List.getLast?_eq_some_getLast hne]
    exact hall _ (List.getLast_mem hne)

/-- The digits of a number are a label. -/
theorem isLabelText_digits (n : Nat) : isLabelText (Nat.toDigits 10 n) = true := by
  apply isLabelText_of_all Nat.toDigits_ne_nil
  intro c hmem
  have hrange : '0' ≤ c ∧ c ≤ '9' := by
    simpa [Char.isDigit, Char.le_def] using Text.isDigit_of_mem_digits c hmem
  simp [isLowerOrDigit, hrange]

/-- Characters that begin like a label are one unless a hyphen ends them. -/
theorem isLabelText_iff_getLast? {cs : List Char}
    (hall : cs.all (fun c => isLowerOrDigit c || c == '-') = true)
    (hfirst : cs.head?.any isLowerOrDigit = true) :
    isLabelText cs = true ↔ cs.getLast? ≠ some '-' := by
  have hne : cs ≠ [] := by
    rintro rfl
    cases hfirst
  have hlast := List.all_eq_true.1 hall _ (List.getLast_mem hne)
  rw [isLabelText, hall, hfirst, Bool.and_self, Bool.true_and,
    List.getLast?_eq_some_getLast hne, Option.any_some, ne_eq, Option.some_inj]
  constructor
  · intro hchar heq
    rw [heq] at hchar
    revert hchar
    decide
  · intro hother
    rwa [Bool.or_eq_true, beq_iff_eq, or_iff_left hother] at hlast

/-! ## A front -/

/-- Label characters before a label keep it one if they begin with a letter or a digit. -/
theorem isLabelText_append {cs ds : List Char}
    (hall : cs.all (fun c => isLowerOrDigit c || c == '-') = true)
    (hfirst : cs.head?.any isLowerOrDigit = true) (h : isLabelText ds = true) :
    isLabelText (cs ++ ds) = true := by
  simp only [isLabelText, Bool.and_eq_true] at h ⊢
  obtain ⟨⟨hrest, -⟩, hlast⟩ := h
  have hcs : cs ≠ [] := by
    rintro rfl
    cases hfirst
  have hds : ds ≠ [] := by
    rintro rfl
    cases hlast
  refine ⟨⟨?_, ?_⟩, ?_⟩
  · rw [List.all_append, hall, hrest, Bool.and_self]
  · rwa [List.head?_append_of_ne_nil _ hcs]
  · rwa [List.getLast?_append_of_ne_nil _ hds]

/-- With such characters in front, the first no hyphen, a label is one exactly if it is short
enough. -/
theorem isLabel_append_iff (hall : front.toList.all (fun c => isLowerOrDigit c || c == '-') = true)
    (hfirst : front.toList.head?.any isLowerOrDigit = true) (h : IsLabel maxLength name) :
    IsLabel limit (front ++ name) ↔ front.utf8ByteSize + name.utf8ByteSize ≤ limit := by
  rw [isLabel_iff, String.utf8ByteSize_append, String.toList_append]
  exact and_iff_left (isLabelText_append hall hfirst (isLabel_iff.1 h).2)

end ComposeCluster.Naming
