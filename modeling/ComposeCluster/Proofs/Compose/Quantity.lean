import ComposeCluster.Compose.Quantity
import Mathlib.Data.List.TakeWhile

/-!
# How quantities are written

A quantity is written as a sign that may be missing, a decimal number and an ending
(`Quantity.Written`). The number ends where the first character stands that is no digit and no
point, and no ending begins with one of those, so a text that is cut there falls into its parts
(`Quantity.cut_append`). The marks of exponents are letters, and one of them is a suffix as well; an
exponent has digits behind its mark, so it is no suffix. With that the check accepts the texts
that are written in this form and no others (`isQuantity_iff_written`).
-/

set_option autoImplicit false

namespace ComposeCluster.Compose

namespace Quantity

/-- No sign or a single one. -/
inductive Sign : List Char → Prop where
  | missing : Sign []
  | plus : Sign ['+']
  | minus : Sign ['-']

/-- Only ASCII digits. -/
def Digits (cs : List Char) : Prop := ∀ c ∈ cs, c.isDigit = true

/-- Digits, or digits around one point; there is at least one digit. -/
inductive Number : List Char → Prop where
  | whole {digits : List Char} (hdigits : Digits digits) (hne : digits ≠ []) : Number digits
  | pointed {front back : List Char} (hfront : Digits front) (hback : Digits back)
    (hne : front ≠ [] ∨ back ≠ []) : Number (front ++ '.' :: back)

/-- The letters of powers of ten. -/
def tenLetters : List Char := ['n', 'u', 'm', 'k', 'M', 'G', 'T', 'P', 'E']

/-- The letters of powers of two, behind which stands an `i`. -/
def twoLetters : List Char := ['K', 'M', 'G', 'T', 'P', 'E']

/-- The letters with which exponents begin. -/
def exponentMarks : List Char := ['e', 'E']

/-- Nothing, the letter of a power of ten, the letters of a power of two, or an exponent. -/
inductive Ending : List Char → Prop where
  | missing : Ending []
  | decimal {c : Char} (hc : c ∈ tenLetters) : Ending [c]
  | binary {c : Char} (hc : c ∈ twoLetters) : Ending [c, 'i']
  | exponent {mark : Char} {sign digits : List Char} (hmark : mark ∈ exponentMarks)
    (hsign : Sign sign) (hdigits : Digits digits) (hne : digits ≠ []) :
    Ending (mark :: (sign ++ digits))

/-- The text is a sign, a number and an ending. -/
def Written (text : String) : Prop :=
  ∃ sign number ending, Sign sign ∧ Number number ∧ Ending ending ∧
    text = String.ofList (sign ++ number ++ ending)

variable {cs sign digits number ending : List Char}

/-! ## Signs -/

/-- A character that may occur in a number. -/
def isNumeric (c : Char) : Bool := c.isDigit || c == '.'

/-- What stands before the characters without a sign. -/
theorem exists_sign (cs : List Char) : ∃ sign, Sign sign ∧ cs = sign ++ dropSign cs := by
  fun_cases dropSign cs with
  | case1 rest => exact ⟨['+'], .plus, rfl⟩
  | case2 rest => exact ⟨['-'], .minus, rfl⟩
  | case3 => exact ⟨[], .missing, rfl⟩

/-- A sign is taken away from a number, which does not begin with another one. -/
theorem dropSign_append (hsign : Sign sign) (hfirst : ∀ c ∈ cs.head?, isNumeric c = true) :
    dropSign (sign ++ cs) = cs := by
  cases hsign with
  | missing =>
    rw [List.nil_append]
    fun_cases dropSign cs with
    | case1 rest => exact absurd (hfirst '+' rfl) (by decide)
    | case2 rest => exact absurd (hfirst '-' rfl) (by decide)
    | case3 => rfl
  | plus => rfl
  | minus => rfl

/-! ## Numbers -/

/-- Digits occur in numbers. -/
theorem Digits.isNumeric (h : Digits digits) : ∀ c ∈ digits, isNumeric c = true := by
  intro c hc
  rw [Quantity.isNumeric, h c hc, Bool.true_or]

/-- There is no point among digits. -/
theorem Digits.count_point (h : Digits digits) : digits.count '.' = 0 := by
  refine List.count_eq_zero.2 fun hpoint => ?_
  exact absurd (h '.' hpoint) (by decide)

/-- Where there are digits, one is found. -/
theorem Digits.any_isDigit (h : Digits digits) (hne : digits ≠ []) :
    digits.any Char.isDigit = true := by
  obtain ⟨c, hc⟩ := List.exists_mem_of_ne_nil digits hne
  exact List.any_eq_true.2 ⟨c, hc, h c hc⟩

/-- Characters of numbers are digits as soon as no point is among them. -/
theorem digits_of_isNumeric (h : ∀ c ∈ cs, isNumeric c = true) (hpoint : '.' ∉ cs) :
    Digits cs := by
  intro c hc
  have hnumeric := h c hc
  rw [isNumeric, Bool.or_eq_true, beq_iff_eq] at hnumeric
  refine hnumeric.resolve_right ?_
  rintro rfl
  exact hpoint hc

/-- Each character of a number may occur in a number. -/
theorem Number.isNumeric (h : Number number) : ∀ c ∈ number, isNumeric c = true := by
  cases h with
  | whole hdigits _ => exact hdigits.isNumeric
  | pointed hfront hback _ =>
    intro c hc
    rcases List.mem_append.1 hc with hc | hc
    · exact hfront.isNumeric c hc
    · rcases List.mem_cons.1 hc with rfl | hc
      · decide
      · exact hback.isNumeric c hc

/-- The numbers are the characters that pass the test on digits and points. -/
theorem number_iff :
    Number cs ↔ (∀ c ∈ cs, isNumeric c = true) ∧ isDecimal cs = true := by
  rw [isDecimal, Bool.and_eq_true, decide_eq_true_eq]
  constructor
  · intro h
    refine ⟨h.isNumeric, ?_⟩
    cases h with
    | whole hdigits hne => exact ⟨hdigits.any_isDigit hne, by rw [hdigits.count_point]; omega⟩
    | pointed hfront hback hne =>
      refine ⟨?_, ?_⟩
      · rw [List.any_append, List.any_cons, Bool.or_eq_true, Bool.or_eq_true]
        exact hne.imp hfront.any_isDigit fun hne => .inr (hback.any_isDigit hne)
      · rw [List.count_append, List.count_cons_self, hfront.count_point, hback.count_point]
  · rintro ⟨hnumeric, hdigit, hcount⟩
    by_cases hpoint : '.' ∈ cs
    · -- what stands before the first point has none, and one more behind it would be a second one
      obtain ⟨front, back, rfl, hfront⟩ := List.eq_append_cons_of_mem hpoint
      rw [List.count_append, List.count_cons_self, List.count_eq_zero.2 hfront] at hcount
      have hback : '.' ∉ back := List.count_eq_zero.1 (by omega)
      refine .pointed (digits_of_isNumeric (fun c hc => hnumeric c (by simp [hc])) hfront)
        (digits_of_isNumeric (fun c hc => hnumeric c (by simp [hc])) hback) ?_
      by_contra hnone
      obtain ⟨rfl, rfl⟩ := not_or.1 hnone |>.imp not_not.1 not_not.1
      exact absurd hdigit (by decide)
    · refine .whole (digits_of_isNumeric hnumeric hpoint) ?_
      rintro rfl
      cases hdigit

/-! ## Endings -/

/-- A text passes as an exponent exactly if it is a mark, a sign and digits. -/
theorem isExponent_iff :
    isExponent cs = true ↔ ∃ mark sign digits, mark ∈ exponentMarks ∧ Sign sign ∧ Digits digits ∧
      digits ≠ [] ∧ cs = mark :: (sign ++ digits) := by
  constructor
  · intro h
    cases cs with
    | nil => cases h
    | cons mark rest =>
      obtain ⟨sign, hsign, hrest⟩ := exists_sign rest
      simp only [isExponent, Bool.and_eq_true, Bool.or_eq_true, beq_iff_eq, Bool.not_eq_true',
        List.isEmpty_eq_false_iff, List.all_eq_true] at h
      obtain ⟨⟨hmark, hne⟩, hdigits⟩ := h
      have hletter : mark ∈ exponentMarks := by simpa [exponentMarks] using hmark
      exact ⟨mark, sign, dropSign rest, hletter, hsign, hdigits, hne, by rw [← hrest]⟩
  · rintro ⟨mark, sign, digits, hmark, hsign, hdigits, hne, rfl⟩
    have hfirst : ∀ c ∈ digits.head?, isNumeric c = true :=
      fun c hc => hdigits.isNumeric c (List.mem_of_mem_head? hc)
    simp only [isExponent, dropSign_append hsign hfirst, Bool.and_eq_true, Bool.or_eq_true,
      beq_iff_eq, Bool.not_eq_true', List.isEmpty_eq_false_iff, List.all_eq_true]
    exact ⟨⟨by simpa [exponentMarks] using hmark, hne⟩, hdigits⟩

/-- A text is a known suffix exactly if it is one of the letters for powers of ten or of two. -/
theorem suffix_iff :
    quantitySuffixes.contains (String.ofList cs) = true ↔
      (∃ c ∈ tenLetters, cs = [c]) ∨ ∃ c ∈ twoLetters, cs = [c, 'i'] := by
  have hsuffixes : quantitySuffixes =
      (twoLetters.map fun c => String.ofList [c, 'i']) ++
        tenLetters.map fun c => String.ofList [c] := by decide
  rw [hsuffixes, List.contains_iff_mem, List.mem_append, List.mem_map, List.mem_map, or_comm]
  simp only [String.ofList_inj, eq_comm]

/-- The endings are what the check accepts behind a number. -/
theorem ending_iff :
    Ending cs ↔ cs.isEmpty || quantitySuffixes.contains (String.ofList cs) || isExponent cs := by
  rw [Bool.or_eq_true, Bool.or_eq_true, List.isEmpty_iff, suffix_iff, isExponent_iff]
  constructor
  · rintro (_ | hc | hc | ⟨hmark, hsign, hdigits, hne⟩)
    · exact .inl (.inl rfl)
    · exact .inl (.inr (.inl ⟨_, hc, rfl⟩))
    · exact .inl (.inr (.inr ⟨_, hc, rfl⟩))
    · exact .inr ⟨_, _, _, hmark, hsign, hdigits, hne, rfl⟩
  · rintro ((rfl | ⟨c, hc, rfl⟩ | ⟨c, hc, rfl⟩) | ⟨_, _, _, hmark, hsign, hdigits, hne, rfl⟩)
    · exact .missing
    · exact .decimal hc
    · exact .binary hc
    · exact .exponent hmark hsign hdigits hne

/-- No ending begins with a character that would belong to the number. -/
theorem Ending.head?_not_isNumeric (h : Ending ending) :
    ∀ c ∈ ending.head?, isNumeric c = false := by
  have hletters : (tenLetters ++ twoLetters ++ exponentMarks).all (!isNumeric ·) = true := by decide
  intro c hc
  rw [← Bool.not_eq_true']
  refine List.all_eq_true.1 hletters c ?_
  rw [List.mem_append, List.mem_append]
  cases h with
  | missing => cases hc
  | decimal hletter =>
    cases hc
    exact .inl (.inl hletter)
  | binary hletter =>
    cases hc
    exact .inl (.inr hletter)
  | exponent hmark =>
    cases hc
    exact .inr hmark

/-! ## The parts of a quantity -/

/-- A number and an ending are cut where the number ends. -/
theorem cut_append (hnumber : Number number) (hending : Ending ending) :
    (number ++ ending).takeWhile isNumeric = number ∧
      (number ++ ending).dropWhile isNumeric = ending := by
  rw [List.takeWhile_append_of_pos hnumber.isNumeric,
    List.dropWhile_append_of_pos hnumber.isNumeric]
  cases ending with
  | nil => simp
  | cons c rest => simp [hending.head?_not_isNumeric c rfl]

/-- With a number in front, the first character occurs in numbers. -/
theorem Number.head?_isNumeric (h : Number number) (ending : List Char) :
    ∀ c ∈ (number ++ ending).head?, Quantity.isNumeric c = true := by
  have hne : number ≠ [] := by
    rintro rfl
    exact absurd (number_iff.1 h).2 (by decide)
  obtain ⟨first, rest, rfl⟩ := List.exists_cons_of_ne_nil hne
  intro c hc
  cases hc
  exact h.isNumeric _ List.mem_cons_self

/-- A text is checked without its sign: its number first, and then the ending behind it. -/
theorem isQuantity_eq (text : String) :
    isQuantity text =
      (isDecimal ((dropSign text.toList).takeWhile isNumeric) &&
        (((dropSign text.toList).dropWhile isNumeric).isEmpty ||
          quantitySuffixes.contains (String.ofList ((dropSign text.toList).dropWhile isNumeric)) ||
          isExponent ((dropSign text.toList).dropWhile isNumeric))) := rfl

end Quantity

/-- A text is a quantity exactly if it is a sign that may be missing, a decimal number and an ending
that may be missing. -/
theorem isQuantity_iff_written (text : String) :
    isQuantity text = true ↔ Quantity.Written text := by
  rw [Quantity.isQuantity_eq, Bool.and_eq_true, ← Quantity.ending_iff]
  constructor
  · rintro ⟨hdecimal, hending⟩
    obtain ⟨sign, hsign, hbody⟩ := Quantity.exists_sign text.toList
    refine ⟨sign, _, _, hsign, Quantity.number_iff.2 ⟨?_, hdecimal⟩, hending, ?_⟩
    · exact fun c hc => List.mem_takeWhile_imp hc
    · rw [List.append_assoc, List.takeWhile_append_dropWhile, ← hbody, String.ofList_toList]
  · rintro ⟨sign, number, ending, hsign, hnumber, hending, rfl⟩
    obtain ⟨hfront, hback⟩ := Quantity.cut_append hnumber hending
    rw [String.toList_ofList, List.append_assoc,
      Quantity.dropSign_append hsign (hnumber.head?_isNumeric ending), hfront, hback]
    exact ⟨(Quantity.number_iff.1 hnumber).2, hending⟩

/-- The letter `E` is a suffix, begins another one and marks exponents. -/
example :
    isQuantity "-1.5E" = true ∧ isQuantity ".5Ei" = true ∧ isQuantity "2E+3" = true ∧
      isQuantity "2Ei3" = false ∧ isQuantity "1E-" = false := by
  decide

end ComposeCluster.Compose
