import ComposeCluster.Env.File

/-!
# What the data of a secret may be

Keys and values are checked one after another, with the size of those before them. As sizes only
add up, a size that is once exceeded stays so, and the checks say the same as three conditions on
all of the data (`checkEntries_eq_ok`). The conditions are spelled out, without the functions that
check them, as `IsSecretData`, and `checkData_eq_ok` says that they are what is checked.
-/

set_option autoImplicit false

namespace ComposeCluster.Env

/-! ## Names and control characters -/

/-- A character that a name may begin with. -/
def IsNameStart (c : Char) : Prop :=
  ('A' ≤ c ∧ c ≤ 'Z') ∨ ('a' ≤ c ∧ c ≤ 'z') ∨ c = '_'

/-- A character that a name may go on with. -/
def IsNamePart (c : Char) : Prop :=
  IsNameStart c ∨ ('0' ≤ c ∧ c ≤ '9')

/-- An ASCII letter or an underscore, then ASCII letters, digits and underscores. -/
def IsName (text : String) : Prop :=
  ∃ first rest, text.toList = first :: rest ∧ IsNameStart first ∧ ∀ c ∈ rest, IsNamePart c

/-- A control character other than the tab, the line feed and the carriage return. -/
def IsControl (c : Char) : Prop :=
  c.toNat ≤ 0x08 ∨ c.toNat = 0x0B ∨ c.toNat = 0x0C ∨ (0x0E ≤ c.toNat ∧ c.toNat ≤ 0x1F) ∨
    c.toNat = 0x7F

/-- A name begins with an ASCII letter or an underscore. -/
theorem isNameStart_iff {c : Char} : IsNameStart c ↔ (c.isAlpha || c == '_') = true := by
  have hupper : c.isUpper = true ↔ 'A' ≤ c ∧ c ≤ 'Z' := decide_eq_true_iff
  have hlower : c.isLower = true ↔ 'a' ≤ c ∧ c ≤ 'z' :=
    Bool.and_eq_true_iff.trans (and_congr decide_eq_true_iff decide_eq_true_iff)
  have halpha : c.isAlpha = true ↔ c.isUpper = true ∨ c.isLower = true := Bool.or_eq_true_iff
  rw [IsNameStart, Bool.or_eq_true, beq_iff_eq, halpha, hupper, hlower, or_assoc]

/-- A name goes on with ASCII letters, digits and underscores. -/
theorem isNamePart_iff {c : Char} : IsNamePart c ↔ (c.isAlphanum || c == '_') = true := by
  have hdigit : c.isDigit = true ↔ '0' ≤ c ∧ c ≤ '9' :=
    Bool.and_eq_true_iff.trans (and_congr decide_eq_true_iff decide_eq_true_iff)
  have halphanum : c.isAlphanum = true ↔ c.isAlpha = true ∨ c.isDigit = true := Bool.or_eq_true_iff
  rw [IsNamePart, isNameStart_iff, Bool.or_eq_true, Bool.or_eq_true, halphanum, hdigit]
  exact or_right_comm

/-- A text passes as a key exactly if it is a name. -/
theorem isKey_iff {text : String} : isKey text = true ↔ IsName text := by
  rw [isKey, IsName]
  cases text.toList with
  | nil => simp [isKeyText]
  | cons first rest =>
    simp only [isKeyText, Bool.and_eq_true, List.all_eq_true, ← isNameStart_iff, ← isNamePart_iff]
    constructor
    · rintro ⟨hfirst, hrest⟩
      exact ⟨first, rest, rfl, hfirst, hrest⟩
    · rintro ⟨_, _, hcons, hfirst, hrest⟩
      cases hcons
      exact ⟨hfirst, hrest⟩

/-- Each character of a name is one that a name may go on with. -/
theorem IsName.isNamePart {text : String} (h : IsName text) : ∀ c ∈ text.toList, IsNamePart c := by
  obtain ⟨first, rest, htext, hfirst, hrest⟩ := h
  rw [htext, List.forall_mem_cons]
  exact ⟨.inl hfirst, hrest⟩

/-- Each character of a key is a letter, a digit or an underscore. -/
theorem isAlphanum_of_mem_key {key : String} (h : isKey key = true) {c : Char}
    (hc : c ∈ key.toList) : c.isAlphanum = true ∨ c = '_' := by
  have hpart := isNamePart_iff.1 ((isKey_iff.1 h).isNamePart c hc)
  rwa [Bool.or_eq_true, beq_iff_eq] at hpart

/-- A character is forbidden exactly if it is a control character. -/
theorem isForbidden_eq_true {c : Char} : isForbidden c = true ↔ IsControl c := by
  simp [isForbidden, IsControl, or_assoc]

/-! ## Sizes and checks -/

/-- The size of all keys and values in bytes, in UTF-8. -/
def dataSize : List (String × String) → Nat
  | [] => 0
  | (key, value) :: rest => key.utf8ByteSize + value.utf8ByteSize + dataSize rest

/-- A value passes exactly if none of its characters is forbidden. -/
theorem checkValue_eq_ok {key value : String} :
    checkValue key value = .ok () ↔ ∀ c ∈ value.toList, isForbidden c = false := by
  unfold checkValue
  split
  case h_1 hnone =>
    rw [List.find?_eq_none] at hnone
    simpa using hnone
  case h_2 c hfound =>
    have hmem := List.mem_of_find?_eq_some hfound
    have hforbidden := List.find?_some hfound
    refine iff_of_false ?_ fun h => ?_
    · split <;> exact nofun
    · rw [h c hmem] at hforbidden
      cases hforbidden

/-- Entries pass if each key and each value does and all together are not too large. -/
theorem checkEntries_eq_ok {total : Nat} {entries : List (String × String)}
    (htotal : total ≤ maxDataSize) :
    checkEntries total entries = .ok () ↔
      (∀ entry ∈ entries, isKey entry.1 = true ∧ ∀ c ∈ entry.2.toList, isForbidden c = false) ∧
        total + dataSize entries ≤ maxDataSize := by
  induction entries generalizing total with
  | nil => simpa [checkEntries, dataSize] using htotal
  | cons entry rest ih =>
    obtain ⟨key, value⟩ := entry
    have hsize : total + dataSize ((key, value) :: rest) =
        total + key.utf8ByteSize + value.utf8ByteSize + dataSize rest := by
      rw [dataSize]
      omega
    rw [hsize, List.forall_mem_cons, checkEntries]
    split
    case isTrue hkey => exact iff_of_false nofun fun h => by simp [h.1.1.1] at hkey
    case isFalse hkey =>
      have hkey : isKey key = true := by simpa using hkey
      split
      case h_1 error hvalue =>
        refine iff_of_false nofun fun h => ?_
        rw [checkValue_eq_ok.2 h.1.1.2] at hvalue
        cases hvalue
      case h_2 hvalue =>
        dsimp only
        split
        case isTrue hlarge => exact iff_of_false nofun fun h => by omega
        case isFalse hfits =>
          have hentry : isKey key = true ∧ ∀ c ∈ value.toList, isForbidden c = false :=
            ⟨hkey, checkValue_eq_ok.1 hvalue⟩
          rw [ih (Nat.le_of_not_lt hfits), and_iff_right hentry]

/-- Keys and values that a secret may hold: the keys are names, no value has a control character,
and all keys and values together have at most a million bytes. -/
structure IsSecretData (entries : List (String × String)) : Prop where
  keys : ∀ entry ∈ entries, IsName entry.1
  values : ∀ entry ∈ entries, ∀ c ∈ entry.2.toList, ¬ IsControl c
  size : dataSize entries ≤ 1000000

/-- Data passes exactly if a secret may hold it. -/
theorem checkData_eq_ok {data : Variables} :
    checkData data = .ok () ↔ IsSecretData data.entries := by
  have hvalue (c : Char) : isForbidden c = false ↔ ¬ IsControl c := by
    rw [← isForbidden_eq_true, Bool.not_eq_true]
  have hmax : maxDataSize = 1000000 := rfl
  rw [checkData, checkEntries_eq_ok (Nat.zero_le _), Nat.zero_add, hmax]
  simp only [isKey_iff, hvalue]
  constructor
  · rintro ⟨hentries, hsize⟩
    exact ⟨fun entry hmem => (hentries entry hmem).1, fun entry hmem => (hentries entry hmem).2,
      hsize⟩
  · rintro ⟨hkeys, hvalues, hsize⟩
    exact ⟨fun entry hmem => ⟨hkeys entry hmem, hvalues entry hmem⟩, hsize⟩

end ComposeCluster.Env
