/-!
# Whole numbers in text

Numbers as people write them in settings: digits of a base, any number of leading zeros, one sign
in front where signs are allowed. A text that is not such a number, or whose value does not fit
the asked width, has no value.
-/

set_option autoImplicit false

namespace ComposeCluster

/-- A port number. -/
abbrev Port := UInt16

namespace Text

/-- The value of a digit in a base of at most thirty-six. -/
def digitValue? (base : Nat) (c : Char) : Option Nat :=
  let value :=
    if '0' ≤ c ∧ c ≤ '9' then c.toNat - '0'.toNat
    else if 'a' ≤ c ∧ c ≤ 'z' then c.toNat - 'a'.toNat + 10
    else if 'A' ≤ c ∧ c ≤ 'Z' then c.toNat - 'A'.toNat + 10
    else base
  if value < base then some value else none

/-- The value of one or more digits. -/
def natural? (base : Nat) (cs : List Char) : Option Nat :=
  if cs.isEmpty then none
  else cs.foldlM (fun acc c => (digitValue? base c).map (acc * base + ·)) 0

/-- The value of digits with at most one plus sign in front. -/
def unsigned? (base : Nat) (cs : List Char) : Option Nat :=
  match cs with
  | '+' :: digits => natural? base digits
  | digits => natural? base digits

/-- The value of digits with at most one sign in front. -/
def signed? (base : Nat) (cs : List Char) : Option Int :=
  match cs with
  | '-' :: digits => (natural? base digits).map (-Int.ofNat ·)
  | cs => (unsigned? base cs).map Int.ofNat

/-- Whether a number fits 64 bits with a sign. -/
def fitsInt64 (n : Int) : Bool :=
  -9223372036854775808 ≤ n && n ≤ 9223372036854775807

/-- Whether a number fits 32 bits with a sign. -/
def fitsInt32 (n : Int) : Bool :=
  -2147483648 ≤ n && n ≤ 2147483647

/-- A signed number of 64 bits. -/
def int64? (base : Nat) (cs : List Char) : Option Int :=
  (signed? base cs).filter fitsInt64

/-- A signed number of 32 bits. -/
def int32? (base : Nat) (cs : List Char) : Option Int :=
  (signed? base cs).filter fitsInt32

/-- A port number: an unsigned number of 16 bits. -/
def port? (text : String) : Option Port :=
  ((unsigned? 10 text.toList).filter (· < UInt16.size)).map UInt16.ofNat

end Text

end ComposeCluster
