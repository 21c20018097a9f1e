import ComposeCluster.Text.Utf8

/-!
# Single characters in encoded text

UTF-8 writes an ASCII character as one byte, and every byte of another character is above those. So
such a byte is found in the encoding of a text exactly if the text has the character
(`mem_utf8_iff`), and bytes that are cut there are cut between characters.
-/

set_option autoImplicit false

namespace ComposeCluster.Text

variable {c d : Char}

/-- The bytes of a text are those of its characters, one after another. -/
theorem utf8_eq_flatMap (text : String) :
    utf8 text = text.toList.flatMap String.utf8EncodeChar := by
  have hbytes : text.toByteArray = text.toList.utf8Encode := by
    rw [← String.toByteArray_ofList, String.ofList_toList]
  rw [utf8, hbytes, List.utf8Encode, List.toList_data_toByteArray]

/-- Each byte of a character outside ASCII is at least 128. -/
theorem le_of_mem_utf8EncodeChar (hd : 128 ≤ d.toNat) {byte : UInt8}
    (h : byte ∈ String.utf8EncodeChar d) : 128 ≤ byte.toNat := by
  have hval : d.val.toNat = d.toNat := rfl
  simp only [String.utf8EncodeChar, hval] at h
  rw [if_neg (by omega)] at h
  -- Of two, three or four bytes the first has its two high bits set, and each later one the first.
  split at h
  · simp only [List.mem_cons, List.not_mem_nil, or_false] at h
    rcases h with rfl | rfl <;> rw [UInt8.toNat_ofNat'] <;> omega
  · split at h <;> simp only [List.mem_cons, List.not_mem_nil, or_false] at h
    · rcases h with rfl | rfl | rfl <;> rw [UInt8.toNat_ofNat'] <;> omega
    · rcases h with rfl | rfl | rfl | rfl <;> rw [UInt8.toNat_ofNat'] <;> omega

/-- The byte of an ASCII character stands among the bytes of that character only. -/
theorem mem_utf8EncodeChar_iff (hc : c.toNat < 128) :
    UInt8.ofNat c.toNat ∈ String.utf8EncodeChar d ↔ c = d := by
  have hbyte : (UInt8.ofNat c.toNat).toNat = c.toNat := by
    rw [UInt8.toNat_ofNat']
    omega
  by_cases hd : d.toNat < 128
  · have hval : d.val.toNat = d.toNat := rfl
    simp only [String.utf8EncodeChar, hval]
    rw [if_pos (by omega), List.mem_singleton, ← UInt8.toNat_inj, hbyte, UInt8.toNat_ofNat',
      ← Char.toNat_inj]
    omega
  · refine iff_of_false (fun h => ?_) ?_
    · have hle := le_of_mem_utf8EncodeChar (by omega) h
      omega
    · rintro rfl
      exact hd hc

/-- The byte of an ASCII character stands in the bytes of a text exactly if the character does in
it. -/
theorem mem_utf8_iff (hc : c.toNat < 128) (text : String) :
    UInt8.ofNat c.toNat ∈ utf8 text ↔ c ∈ text.toList := by
  simp only [utf8_eq_flatMap, List.mem_flatMap, mem_utf8EncodeChar_iff hc, exists_eq_right']

end ComposeCluster.Text
