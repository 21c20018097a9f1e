import ComposeCluster.Digest.Base64

/-!
# Base64 is read back

Six bits are one character and the other way round (`sextet?_char`), so each group of four
characters gives the bytes it was written for (`group?_three`, `group?_two`, `group?_one`), and by
induction over the groups a text gives all bytes (`decode?_encode`).
-/

set_option autoImplicit false

namespace ComposeCluster.Base64

/-! ## Characters -/

/-- The character for six bits stands for these bits. -/
theorem sextet?_char {n : Nat} (h : n < 64) : sextet? (char n) = some n := by
  have hall : ∀ n ∈ List.range 64, sextet? (char n) = some n := by decide +kernel
  exact hall n (List.mem_range.2 h)

/-- No six bits are written as padding. -/
theorem char_ne_pad {n : Nat} (h : n < 64) : char n ≠ '=' := by
  have hall : ∀ n ∈ List.range 64, char n ≠ '=' := by decide +kernel
  exact hall n (List.mem_range.2 h)

/-! ## Groups -/

variable {p q r s : Nat}

/-- Four characters stand for three bytes. -/
theorem group?_three (last : Bool) (hp : p < 64) (hq : q < 64) (hr : r < 64) (hs : s < 64) :
    group? last (char p) (char q) (char r) (char s) =
      some [UInt8.ofNat (p * 4 + q / 16), UInt8.ofNat (q * 16 + r / 4),
        UInt8.ofNat (r * 64 + s)] := by
  simp [group?, sextet?_char, char_ne_pad, hp, hq, hr, hs]

/-- Three characters and one of padding stand for two bytes, if no bits are left over. -/
theorem group?_two (hp : p < 64) (hq : q < 64) (hr : r < 64) (hunused : r % 4 = 0) :
    group? true (char p) (char q) (char r) '=' =
      some [UInt8.ofNat (p * 4 + q / 16), UInt8.ofNat (q * 16 + r / 4)] := by
  simp [group?, sextet?_char, char_ne_pad, hp, hq, hr, hunused]

/-- Two characters and two of padding stand for one byte, if no bits are left over. -/
theorem group?_one (hp : p < 64) (hq : q < 64) (hunused : q % 16 = 0) :
    group? true (char p) (char q) '=' '=' = some [UInt8.ofNat (p * 4 + q / 16)] := by
  simp [group?, sextet?_char, hp, hq, hunused]

/-! ## Texts -/

/-- What was written earlier stays in front. -/
theorem encodeChars_eq : ∀ (acc : List Char) (bytes : Bytes),
    encodeChars acc bytes = acc.reverse ++ encodeChars [] bytes
  | acc, a :: b :: c :: rest => by
    rw [encodeChars, encodeChars_eq _ rest, encodeChars, encodeChars_eq [_, _, _, _] rest]
    simp
  | acc, [a, b] => by simp [encodeChars]
  | acc, [a] => by simp [encodeChars]
  | acc, [] => by simp [encodeChars]

/-- A byte is known by the rest that it leaves. -/
theorem ofNat_eq_of_mod {n : Nat} (byte : UInt8) (h : n % 256 = byte.toNat) :
    UInt8.ofNat n = byte :=
  UInt8.toNat_inj.1 ((UInt8.toNat_ofNat' ..).trans h)

/-- Encoded bytes are decoded as they were, behind those that were decoded before. -/
theorem decodeChars?_encodeChars : ∀ acc bytes : Bytes,
    decodeChars? acc (encodeChars [] bytes) = some (acc.reverse ++ bytes)
  | acc, a :: b :: c :: rest => by
    have ha := a.toNat_lt
    have hb := b.toNat_lt
    have hc := c.toNat_lt
    rw [encodeChars, encodeChars_eq]
    show decodeChars? acc (_ :: _ :: _ :: _ :: encodeChars [] rest) = _
    rw [decodeChars?, group?_three _ (by omega) (by omega) (by omega) (by omega),
      ofNat_eq_of_mod a (by omega), ofNat_eq_of_mod b (by omega),
      ofNat_eq_of_mod c (by omega)]
    show decodeChars? ([a, b, c].reverse ++ acc) _ = _
    rw [decodeChars?_encodeChars _ rest]
    simp
  | acc, [a, b] => by
    have ha := a.toNat_lt
    have hb := b.toNat_lt
    show decodeChars? acc [_, _, _, '='] = _
    rw [decodeChars?, List.isEmpty_nil, group?_two (by omega) (by omega) (by omega) (by omega),
      ofNat_eq_of_mod a (by omega), ofNat_eq_of_mod b (by omega)]
    simp [decodeChars?]
  | acc, [a] => by
    have ha := a.toNat_lt
    show decodeChars? acc [_, _, '=', '='] = _
    rw [decodeChars?, List.isEmpty_nil, group?_one (by omega) (by omega) (by omega),
      ofNat_eq_of_mod a (by omega)]
    simp [decodeChars?]
  | acc, [] => by simp [encodeChars, decodeChars?]

/-- A text is read as the bytes that it was written for. -/
theorem decode?_encode (bytes : Bytes) : decode? (encode bytes) = some bytes := by
  rw [decode?, encode, String.toList_ofList, decodeChars?_encodeChars]
  rfl

/-- The bits that the last group does not use are zero. -/
example : encode [0x66] = "Zg==" ∧ decode? "Zg==" = some [0x66] ∧ decode? "Zh==" = none := by
  decide +kernel

end ComposeCluster.Base64
