import ComposeCluster.Text.Utf8

/-!
# Base64

The standard alphabet with padding. Three bytes are four characters, and a shorter last group is
padded with `=`. Reading is strict: whole groups only, padding only at the end and in full, and
the bits that the last group does not use are zero, so every value has one text.
-/

set_option autoImplicit false

namespace ComposeCluster.Base64

/-- The sixty-four characters. -/
def alphabet : List Char :=
  "ABCDEFGHIJKLMNOPQRSTUVWXYZabcdefghijklmnopqrstuvwxyz0123456789+/".toList

/-- The character for six bits. -/
def char (sextet : Nat) : Char :=
  alphabet.getD sextet 'A'

/-- The six bits of a character. -/
def sextet? (c : Char) : Option Nat :=
  alphabet.findIdx? (· == c)

/-- Bytes as characters; `acc` holds those written so far, last first. -/
def encodeChars (acc : List Char) : Bytes → List Char
  | a :: b :: c :: rest =>
    let n := a.toNat * 65536 + b.toNat * 256 + c.toNat
    encodeChars
      (char (n % 64) :: char (n / 64 % 64) :: char (n / 4096 % 64) :: char (n / 262144) :: acc) rest
  | [a, b] =>
    let n := a.toNat * 256 + b.toNat
    ('=' :: char (n % 16 * 4) :: char (n / 16 % 64) :: char (n / 1024) :: acc).reverse
  | [a] => ('=' :: '=' :: char (a.toNat % 4 * 16) :: char (a.toNat / 4) :: acc).reverse
  | [] => acc.reverse

/-- Bytes as text. -/
def encode (bytes : Bytes) : String :=
  String.ofList (encodeChars [] bytes)

/-- The bytes of four characters; the last group alone may be padded. -/
def group? (last : Bool) (a b c d : Char) : Option Bytes := do
  let p ← sextet? a
  let q ← sextet? b
  if c = '=' ∧ d = '=' then
    if last ∧ q % 16 = 0 then some [UInt8.ofNat (p * 4 + q / 16)] else none
  else
    let r ← sextet? c
    if d = '=' then
      if last ∧ r % 4 = 0 then
        some [UInt8.ofNat (p * 4 + q / 16), UInt8.ofNat (q * 16 + r / 4)]
      else none
    else
      let s ← sextet? d
      some [UInt8.ofNat (p * 4 + q / 16), UInt8.ofNat (q * 16 + r / 4), UInt8.ofNat (r * 64 + s)]

/-- Characters as bytes; `acc` holds those read so far, last first. -/
def decodeChars? (acc : Bytes) : List Char → Option Bytes
  | a :: b :: c :: d :: rest =>
    match group? rest.isEmpty a b c d with
    | some bytes => decodeChars? (bytes.reverse ++ acc) rest
    | none => none
  | [] => some acc.reverse
  | _ => none

/-- Text as bytes, if it is base64. -/
def decode? (text : String) : Option Bytes :=
  decodeChars? [] text.toList

end ComposeCluster.Base64
