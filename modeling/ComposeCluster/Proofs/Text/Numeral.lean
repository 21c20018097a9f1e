import ComposeCluster.Text.Numeral

/-!
# Decimal texts of whole numbers

The decimal text of a number is a sign and digits (`toList_toString`), and is read as the number
again (`signed?_toString`), also where the number has to fit 64 bits (`int64?_toString`) or is a
port (`port?_toString`).
-/

set_option autoImplicit false

namespace ComposeCluster.Text

/-- The value of a decimal digit is its distance from zero. -/
theorem digitValue?_of_isDigit {c : Char} (h : c.isDigit = true) :
    digitValue? 10 c = some (c.toNat - '0'.toNat) := by
  have hrange : '0' ≤ c ∧ c ≤ '9' := by
    simpa [Char.isDigit, Char.le_def] using h
  have hlt : c.toNat - '0'.toNat < 10 := by
    have hcode : '0'.toNat ≤ c.toNat ∧ c.toNat ≤ '9'.toNat := Char.isDigit_iff_toNat.1 h
    simp only [Char.reduceToNat] at hcode ⊢
    omega
  simp only [digitValue?, if_pos hrange, if_pos hlt]

/-- Reading digits one after another continues the number that was read before them. -/
theorem foldlM_digitValue? {cs : List Char} (h : ∀ c ∈ cs, c.isDigit = true) (acc : Nat) :
    cs.foldlM (fun acc c => (digitValue? 10 c).map (acc * 10 + ·)) acc =
      some (Nat.ofDigitChars 10 cs acc) := by
  induction cs generalizing acc with
  | nil => simp
  | cons c cs ih =>
    rw [List.foldlM_cons, digitValue?_of_isDigit (h c List.mem_cons_self), Nat.ofDigitChars_cons,
      Nat.mul_comm 10]
    exact ih (fun c hc => h c (List.mem_cons_of_mem _ hc)) _

/-- A number is written in decimal digits only. -/
theorem isDigit_of_mem_digits {n : Nat} : ∀ c ∈ Nat.toDigits 10 n, c.isDigit = true :=
  fun _ hc => Nat.isDigit_of_mem_toDigits (by decide) (by decide) hc

/-- What is not a digit does not stand in a written natural number. -/
theorem notMem_toString {c : Char} (h : c.isDigit = false) (n : Nat) : c ∉ (toString n).toList := by
  rw [Nat.toString_eq_ofList_toDigits, String.toList_ofList]
  intro hmem
  rw [isDigit_of_mem_digits c hmem] at h
  cases h

/-- The digits of a natural number are read as this number. -/
theorem natural?_digits (n : Nat) : natural? 10 (Nat.toDigits 10 n) = some n := by
  have hne : Nat.toDigits 10 n ≠ [] := Nat.toDigits_ne_nil
  rw [natural?, if_neg (by simp [hne]), foldlM_digitValue? isDigit_of_mem_digits,
    Nat.ofDigitChars_ten_toDigits]

/-- The first digit of a number, which is no sign. -/
theorem exists_digits (n : Nat) :
    ∃ c rest, Nat.toDigits 10 n = c :: rest ∧ c.isDigit = true := by
  obtain ⟨c, rest, heq⟩ := List.exists_cons_of_ne_nil (Nat.toDigits_ne_nil (b := 10) (n := n))
  exact ⟨c, rest, heq, isDigit_of_mem_digits c (by rw [heq]; exact List.mem_cons_self)⟩

/-- The digits of a number are read as it where a plus sign may stand in front. -/
theorem unsigned?_digits (n : Nat) : unsigned? 10 (Nat.toDigits 10 n) = some n := by
  obtain ⟨c, rest, heq, hdigit⟩ := exists_digits n
  rw [← natural?_digits n, heq, unsigned?]
  intro digits h
  cases h
  exact absurd hdigit (by decide)

/-- The decimal text of a port is read as the port. -/
theorem port?_toString (port : Port) : port? (toString port.toNat) = some port := by
  have hlt : port.toNat < UInt16.size := port.toNat_lt
  rw [port?, Nat.toString_eq_ofList_toDigits, String.toList_ofList, unsigned?_digits,
    Option.filter_some, if_pos (decide_eq_true hlt), Option.map_some, UInt16.ofNat_toNat]

/-- An integer is written as the digits of its absolute value, with a sign in front if it is
negative. -/
theorem toList_toString (n : Int) :
    (toString n).toList =
      if n < 0 then '-' :: Nat.toDigits 10 n.natAbs else Nat.toDigits 10 n.natAbs := by
  cases n with
  | ofNat n => simp [toString, Int.repr, Nat.repr_eq_ofList_toDigits]
  | negSucc n => simp [toString, Int.repr, Nat.repr_eq_ofList_toDigits]

/-- The decimal text of a number has its value. -/
theorem signed?_toString (n : Int) : signed? 10 (toString n).toList = some n := by
  rw [toList_toString]
  split
  case isTrue hneg =>
    simp only [signed?, natural?_digits, Option.map_some, Option.some.injEq, Int.ofNat_eq_natCast]
    omega
  case isFalse hpos =>
    obtain ⟨c, rest, heq, hdigit⟩ := exists_digits n.natAbs
    have hsigned : signed? 10 (Nat.toDigits 10 n.natAbs) =
        (unsigned? 10 (Nat.toDigits 10 n.natAbs)).map Int.ofNat := by
      rw [heq, signed?]
      intro digits h
      cases h
      exact absurd hdigit (by decide)
    rw [hsigned, unsigned?_digits, Option.map_some, Int.ofNat_eq_natCast,
      Int.natAbs_of_nonneg (by omega)]

/-- An integer of 64 bits is read from its text as it was. -/
theorem int64?_toString {n : Int} (h : fitsInt64 n = true) :
    int64? 10 (toString n).toList = some n := by
  rw [int64?, signed?_toString, Option.filter_some, if_pos h]

end ComposeCluster.Text
