import ComposeCluster.Digest.Sha256

/-!
# Short hashes

A short hash is the low end of a SHA-256 digest in base thirty-six: the digest is read as a
big-endian number, and its digits are written least significant first. Each digit is one long
division of the bytes by thirty-six, done in place.
-/

set_option autoImplicit false

namespace ComposeCluster

/-- The longest short hash; thirty-six to this power exceeds every digest. -/
def maxHashLength : Nat := 50

namespace ShortHash

/-- The digits of base thirty-six. -/
def digits : List Char := "0123456789abcdefghijklmnopqrstuvwxyz".toList

/-- The digit for a remainder. -/
def digit (remainder : UInt32) : Char :=
  digits.getD remainder.toNat '0'

/-- One step of the long division: the remainder so far and the next byte give a byte of the
quotient and the next remainder. -/
def divideStep (remainder : UInt32) (byte : UInt8) : UInt8 × UInt32 :=
  let acc := (remainder <<< 8) ||| byte.toUInt32
  ((acc / 36).toUInt8, acc % 36)

/-- Big-endian bytes divided by thirty-six: the quotient in as many bytes, and the remainder. -/
def divide (remainder : UInt32) : Bytes → Bytes × UInt32
  | [] => ([], remainder)
  | byte :: rest =>
    let (quotient, next) := divideStep remainder byte
    let (quotients, last) := divide next rest
    (quotient :: quotients, last)

/-- The low digits of big-endian bytes, least significant first. -/
def lowDigits : Nat → Bytes → List Char
  | 0, _ => []
  | count + 1, bytes =>
    let (quotient, remainder) := divide 0 bytes
    digit remainder :: lowDigits count quotient

/-- There are as many digits as were asked for. -/
theorem length_lowDigits (count : Nat) (bytes : Bytes) :
    (lowDigits count bytes).length = count := by
  induction count generalizing bytes with
  | zero => rfl
  | succ count ih =>
    rw [lowDigits]
    simp [ih]

/-- A length brought between one and the longest. -/
def clampLength (length : Nat) : Nat :=
  max 1 (min length maxHashLength)

end ShortHash

/-- The short hash of bytes. -/
def shortHashOf (bytes : Bytes) (length : Nat) : String :=
  String.ofList (ShortHash.lowDigits (ShortHash.clampLength length) (Sha256.digest bytes))

/-- A short hash has as many digits as the clamped length says. -/
theorem length_shortHashOf (bytes : Bytes) (length : Nat) :
    (shortHashOf bytes length).length = ShortHash.clampLength length := by
  rw [shortHashOf, String.length_ofList, ShortHash.length_lowDigits]

/-- The short hash of a text. -/
def shortHash (text : String) (length : Nat) : String :=
  shortHashOf (Text.utf8 text) length

end ComposeCluster
