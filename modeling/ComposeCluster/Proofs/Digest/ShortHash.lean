import ComposeCluster.Digest.ShortHash
import Mathlib.Data.List.Induction
import Mathlib.Data.Nat.Digits.Lemmas
import Mathlib.Tactic.Ring

/-!
# Short hashes as digits of a number

A digest is a number (`bigEndian`). One pass of the long division takes the lowest digit of base
thirty-six off it (`divide_spec`), so a short hash is the list of the low digits, the lowest one
first (`lowDigits_eq_map`). That holds because no step of a pass loses anything: it starts from a
remainder below thirty-six, so what is divided fits its word and the quotient fits a byte
(`DivisionStep.exact_of_lt`). Fifty digits determine the number of a digest, and the number
determines the digest (`bigEndian_inj`).
-/

set_option autoImplicit false

namespace ComposeCluster

/-! ## Bytes as a number -/

/-- The number that bytes are, the first one being the highest. -/
def bigEndian (bytes : Bytes) : Nat :=
  bytes.foldl (fun value byte => value * 256 + byte.toNat) 0

/-- The number that bytes are has them as its digits, the last one being the lowest. -/
theorem bigEndian_eq_ofDigits (bytes : Bytes) :
    bigEndian bytes = Nat.ofDigits 256 (bytes.reverse.map UInt8.toNat) := by
  induction bytes using List.reverseRecOn with
  | nil => rfl
  | append_singleton front byte ih =>
    rw [List.reverse_concat, List.map_cons, Nat.ofDigits_cons, ← ih, bigEndian, List.foldl_concat,
      ← bigEndian, Nat.add_comm, Nat.mul_comm]

/-- A byte in front counts as often as the number of bytes behind it says. -/
theorem bigEndian_cons (byte : UInt8) (rest : Bytes) :
    bigEndian (byte :: rest) = byte.toNat * 256 ^ rest.length + bigEndian rest := by
  rw [bigEndian_eq_ofDigits, bigEndian_eq_ofDigits, List.reverse_cons, List.map_append,
    Nat.ofDigits_append, List.length_map, List.length_reverse, List.map_singleton,
    Nat.ofDigits_singleton, Nat.add_comm, Nat.mul_comm]

/-- A byte is a digit of base 256. -/
theorem toNat_lt_of_mem_map {bytes : Bytes} {digit : Nat}
    (h : digit ∈ bytes.reverse.map UInt8.toNat) : digit < 256 := by
  obtain ⟨byte, -, rfl⟩ := List.mem_map.1 h
  exact byte.toNat_lt

/-- The number that bytes are is less than what one more byte would stand for. -/
theorem bigEndian_lt (bytes : Bytes) : bigEndian bytes < 256 ^ bytes.length := by
  have hlt := Nat.ofDigits_lt_base_pow_length (b := 256) (l := bytes.reverse.map UInt8.toNat)
    (by decide) fun _ => toNat_lt_of_mem_map
  rwa [← bigEndian_eq_ofDigits, List.length_map, List.length_reverse] at hlt

/-- Bytes of one length are determined by their number. -/
theorem bigEndian_inj {bytes others : Bytes} (hlength : bytes.length = others.length) :
    bigEndian bytes = bigEndian others ↔ bytes = others := by
  refine ⟨fun h => ?_, fun h => h ▸ rfl⟩
  rw [bigEndian_eq_ofDigits, bigEndian_eq_ofDigits] at h
  have hdigits := Nat.ofDigits_inj_of_len_eq (by decide) (by simp [hlength])
    (fun _ => toNat_lt_of_mem_map) (fun _ => toNat_lt_of_mem_map) h
  exact List.reverse_injective (List.map_injective_iff.2 (fun _ _ => UInt8.toNat_inj.1) hdigits)

namespace ShortHash

/-! ## The steps of a division -/

/-- A step of the long division: the remainder that it starts from, and the byte that it takes. -/
structure DivisionStep where
  remainder : UInt32
  byte : UInt8

namespace DivisionStep

/-- What the step divides. -/
def dividend (step : DivisionStep) : UInt32 :=
  (step.remainder <<< 8) ||| step.byte.toUInt32

/-- The remainder times the base, and the byte: what the step divides if nothing is lost. -/
def value (step : DivisionStep) : Nat :=
  step.remainder.toNat * 256 + step.byte.toNat

/-- Nothing is lost in the step: what it divides fits its word, and the quotient fits a byte. -/
structure Exact (step : DivisionStep) : Prop where
  fits : step.value < UInt32.size
  dividend : step.dividend.toNat = step.value
  quotient_fits : (step.dividend / 36).toNat < UInt8.size
  quotient : (divideStep step.remainder step.byte).1.toNat = step.value / 36
  remainder : (divideStep step.remainder step.byte).2.toNat = step.value % 36

/-- From a remainder below thirty-six nothing is lost in a step. -/
theorem exact_of_lt (step : DivisionStep) (h : step.remainder.toNat < 36) : step.Exact := by
  have hbyte : step.byte.toNat < 2 ^ 8 := step.byte.toNat_lt
  have hvalue : step.value < 36 * 256 := by
    rw [value]
    omega
  have hdividend : step.dividend.toNat = step.value := by
    -- The remainder is moved up by a byte, and the byte takes the place that this leaves.
    have hshift : (step.remainder <<< 8).toNat = step.remainder.toNat <<< 8 := by
      rw [UInt32.toNat_shiftLeft, Nat.shiftLeft_eq, Nat.shiftLeft_eq]
      exact Nat.mod_eq_of_lt (by show step.remainder.toNat * 2 ^ 8 < 2 ^ 32; omega)
    rw [DivisionStep.dividend, UInt32.toNat_or, hshift, UInt8.toNat_toUInt32,
      ← Nat.shiftLeft_add_eq_or_of_lt hbyte, Nat.shiftLeft_eq]
    rfl
  have hquotient : (step.dividend / 36).toNat = step.value / 36 := by
    rw [UInt32.toNat_div, hdividend]
    rfl
  refine ⟨hvalue.trans (by decide), hdividend, ?_, ?_, ?_⟩
  · rw [hquotient]
    exact Nat.div_lt_of_lt_mul hvalue
  · show (step.dividend / 36).toUInt8.toNat = _
    rw [UInt32.toNat_toUInt8, hquotient]
    exact Nat.mod_eq_of_lt (Nat.div_lt_of_lt_mul hvalue)
  · show (step.dividend % 36).toNat = _
    rw [UInt32.toNat_mod, hdividend]
    rfl

end DivisionStep

/-- The steps of a pass over bytes. -/
def passSteps (remainder : UInt32) : Bytes → List DivisionStep
  | [] => []
  | byte :: rest => ⟨remainder, byte⟩ :: passSteps (divideStep remainder byte).2 rest

/-- The steps of as many passes as there are digits to find, each over the quotient of the one
before. -/
def divisionSteps : Nat → Bytes → List DivisionStep
  | 0, _ => []
  | count + 1, bytes => passSteps 0 bytes ++ divisionSteps count (divide 0 bytes).1

/-- A step leaves a remainder from which the next one may start. -/
theorem toNat_divideStep_lt {remainder : UInt32} (h : remainder.toNat < 36) (byte : UInt8) :
    (divideStep remainder byte).2.toNat < 36 := by
  rw [(DivisionStep.exact_of_lt ⟨remainder, byte⟩ h).remainder]
  exact Nat.mod_lt _ (by decide)

/-- Nothing is lost in a pass. -/
theorem exact_of_mem_passSteps {remainder : UInt32} {bytes : Bytes} (h : remainder.toNat < 36)
    {step : DivisionStep} (hmem : step ∈ passSteps remainder bytes) : step.Exact := by
  induction bytes generalizing remainder with
  | nil => cases hmem
  | cons byte rest ih =>
    rcases List.mem_cons.1 hmem with rfl | hmem
    · exact DivisionStep.exact_of_lt _ h
    · exact ih (toNat_divideStep_lt h byte) hmem

/-- Nothing is lost in any step of any pass. -/
theorem exact_of_mem_divisionSteps {count : Nat} {bytes : Bytes} {step : DivisionStep}
    (hmem : step ∈ divisionSteps count bytes) : step.Exact := by
  induction count generalizing bytes with
  | zero => cases hmem
  | succ count ih =>
    rcases List.mem_append.1 hmem with hpass | hlater
    · exact exact_of_mem_passSteps (by decide) hpass
    · exact ih hlater

/-! ## Digits -/

/-- A pass takes one byte after another, with the remainder of the step before. -/
theorem divide_cons (remainder : UInt32) (byte : UInt8) (rest : Bytes) :
    divide remainder (byte :: rest) =
      ((divideStep remainder byte).1 :: (divide (divideStep remainder byte).2 rest).1,
        (divide (divideStep remainder byte).2 rest).2) := rfl

/-- A pass divides the remainder that it starts from and the bytes behind it, as one number. -/
theorem divide_spec {remainder : UInt32} (h : remainder.toNat < 36) (bytes : Bytes) :
    (divide remainder bytes).1.length = bytes.length ∧ (divide remainder bytes).2.toNat < 36 ∧
      remainder.toNat * 256 ^ bytes.length + bigEndian bytes =
        36 * bigEndian (divide remainder bytes).1 + (divide remainder bytes).2.toNat := by
  induction bytes generalizing remainder with
  | nil => exact ⟨rfl, h, by simp [divide, bigEndian]⟩
  | cons byte rest ih =>
    have hexact := DivisionStep.exact_of_lt ⟨remainder, byte⟩ h
    have hstep : remainder.toNat * 256 + byte.toNat =
        36 * (divideStep remainder byte).1.toNat + (divideStep remainder byte).2.toNat := by
      rw [hexact.quotient, hexact.remainder]
      exact (Nat.div_add_mod _ 36).symm
    obtain ⟨hlength, hlast, heq⟩ := ih (toNat_divideStep_lt h byte)
    rw [divide_cons]
    refine ⟨congrArg Nat.succ hlength, hlast, ?_⟩
    rw [bigEndian_cons, bigEndian_cons, hlength, List.length_cons]
    calc remainder.toNat * 256 ^ (rest.length + 1) +
          (byte.toNat * 256 ^ rest.length + bigEndian rest)
      _ = (remainder.toNat * 256 + byte.toNat) * 256 ^ rest.length + bigEndian rest := by ring
      _ = 36 * ((divideStep remainder byte).1.toNat * 256 ^ rest.length) +
          ((divideStep remainder byte).2.toNat * 256 ^ rest.length + bigEndian rest) := by
        rw [hstep]
        ring
      _ = _ := by
        rw [heq]
        ring

/-- A pass over a whole number takes its lowest digit off. -/
theorem divide_zero (bytes : Bytes) :
    bigEndian (divide 0 bytes).1 = bigEndian bytes / 36 ∧
      (divide 0 bytes).2.toNat = bigEndian bytes % 36 := by
  obtain ⟨-, hlast, heq⟩ := divide_spec (show (0 : UInt32).toNat < 36 by decide) bytes
  rw [UInt32.toNat_zero, Nat.zero_mul, Nat.zero_add] at heq
  omega

/-- The digit of base thirty-six with a value: `0` to `9`, and then `a` to `z`. -/
def digitChar (value : Nat) : Char :=
  Char.ofNat (if value < 10 then '0'.toNat + value else 'a'.toNat + (value - 10))

/-- The digit of a remainder below thirty-six is that with its value. -/
theorem digit_eq {remainder : UInt32} (h : remainder.toNat < 36) :
    digit remainder = digitChar remainder.toNat := by
  have hall : ∀ value < 36, digits.getD value '0' = digitChar value := by decide
  exact hall remainder.toNat h

/-- Different values below thirty-six have different digits. -/
theorem digitChar_inj {value other : Nat} (hvalue : value < 36) (hother : other < 36) :
    digitChar value = digitChar other ↔ value = other := by
  have hall : ∀ value < 36, digits.idxOf (digitChar value) = value := by decide
  refine ⟨fun h => ?_, fun h => h ▸ rfl⟩
  rw [← hall value hvalue, h, hall other hother]

/-- The digits that the passes find are those of the number, from the lowest one on. -/
theorem lowDigits_eq_map (count : Nat) (bytes : Bytes) :
    lowDigits count bytes =
      (List.range count).map fun i => digitChar (bigEndian bytes / 36 ^ i % 36) := by
  induction count generalizing bytes with
  | zero => rfl
  | succ count ih =>
    obtain ⟨hquotient, hremainder⟩ := divide_zero bytes
    have hdigit : digit (divide 0 bytes).2 = digitChar (bigEndian bytes % 36) := by
      rw [digit_eq (by omega), hremainder]
    have hshift (i : Nat) : bigEndian bytes / 36 / 36 ^ i = bigEndian bytes / 36 ^ (i + 1) := by
      rw [Nat.div_div_eq_div_mul, ← pow_succ']
    show digit (divide 0 bytes).2 :: lowDigits count (divide 0 bytes).1 = _
    rw [ih, hdigit, hquotient, List.range_succ_eq_map, List.map_cons, List.map_map, pow_zero,
      Nat.div_one]
    simp only [hshift, Function.comp_def]

/-- The square of thirty-six. -/
example : lowDigits 4 [5, 16] = ['0', '0', '1', '0'] := by rfl

/-- Numbers whose low digits agree agree up to the place of the highest of these. -/
theorem mod_eq_of_digits_eq {value other count : Nat}
    (h : ∀ i < count, value / 36 ^ i % 36 = other / 36 ^ i % 36) :
    value % 36 ^ count = other % 36 ^ count := by
  induction count with
  | zero => rw [pow_zero, Nat.mod_one, Nat.mod_one]
  | succ count ih =>
    rw [Nat.mod_pow_succ, Nat.mod_pow_succ, ih fun i hi => h i (Nat.lt_succ_of_lt hi),
      h count (Nat.lt_succ_self count)]

/-- Fifty digits determine thirty-two bytes. -/
theorem eq_of_lowDigits_eq {bytes others : Bytes} (hbytes : bytes.length = 32)
    (hothers : others.length = 32)
    (h : lowDigits maxHashLength bytes = lowDigits maxHashLength others) : bytes = others := by
  have hlt {list : Bytes} (hlist : list.length = 32) : bigEndian list < 36 ^ maxHashLength := by
    have hbound := bigEndian_lt list
    rw [hlist] at hbound
    exact hbound.trans (by decide)
  rw [lowDigits_eq_map, lowDigits_eq_map, List.map_inj_left] at h
  have hdigits : ∀ i < maxHashLength,
      bigEndian bytes / 36 ^ i % 36 = bigEndian others / 36 ^ i % 36 := fun i hi =>
    (digitChar_inj (Nat.mod_lt _ (by decide)) (Nat.mod_lt _ (by decide))).1
      (h i (List.mem_range.2 hi))
  have hmod := mod_eq_of_digits_eq hdigits
  rw [Nat.mod_eq_of_lt (hlt hbytes), Nat.mod_eq_of_lt (hlt hothers)] at hmod
  exact (bigEndian_inj (hbytes.trans hothers.symm)).1 hmod

/-! ## Short hashes -/

/-- A short hash has the low digits of the digest, at least one and at most fifty. -/
theorem toList_shortHashOf (bytes : Bytes) (length : Nat) :
    (shortHashOf bytes length).toList =
      lowDigits (max 1 (min length 50)) (Sha256.digest bytes) := by
  rw [shortHashOf, String.toList_ofList]
  rfl

/-- A short hash is as long as it is asked to be, between one and fifty characters, and they are
the low digits of base thirty-six of the digest as a number, the lowest one first; no step of the
division that finds them loses anything. So a longer hash begins with the shorter one, and hashes
of fifty characters are equal only if the digests are. -/
theorem low_digits_of_digest (bytes : Bytes) (length : Nat) :
    let count := max 1 (min length 50)
    let value := bigEndian (Sha256.digest bytes)
    (shortHashOf bytes length).length = count ∧
    (shortHashOf bytes length).toList =
      (List.range count).map (fun i => digitChar (value / 36 ^ i % 36)) ∧
    (∀ step ∈ divisionSteps count (Sha256.digest bytes), step.Exact) ∧
    (∀ more, (shortHashOf bytes length).toList <+: (shortHashOf bytes (length + more)).toList) ∧
    ∀ other, shortHashOf bytes 50 = shortHashOf other 50 ↔
      Sha256.digest bytes = Sha256.digest other := by
  refine ⟨length_shortHashOf bytes length, ?_, fun _ => exact_of_mem_divisionSteps, ?_, ?_⟩
  · rw [toList_shortHashOf, lowDigits_eq_map]
  · intro more
    rw [toList_shortHashOf, toList_shortHashOf, lowDigits_eq_map, lowDigits_eq_map]
    refine List.IsPrefix.map _ ?_
    have hle : max 1 (min length 50) ≤ max 1 (min (length + more) 50) := by omega
    rw [← Nat.min_eq_left hle, ← List.take_range]
    exact List.take_prefix _ _
  · intro other
    rw [← String.toList_inj, toList_shortHashOf, toList_shortHashOf]
    refine ⟨eq_of_lowDigits_eq (Sha256.length_digest _) (Sha256.length_digest _), fun h => ?_⟩
    rw [h]

end ShortHash

end ComposeCluster
