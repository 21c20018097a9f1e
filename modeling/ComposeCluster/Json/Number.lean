import ComposeCluster.Json.Basic
import ComposeCluster.Text.Numeral

/-!
# Numbers in JSON text

A number without a point and an exponent is a whole number as long as 64 bits hold it. Any other
is a floating-point number, computed in two rounded steps: the leading digits that fit 64 bits as
a whole number (`significand`), and that number times or divided by a power of ten (`scale?`).
Digits beyond the significand only move the power. A value too large for the format is refused.
-/

set_option autoImplicit false

namespace ComposeCluster.Json

/-- The greatest number of 64 bits without a sign. -/
def maxSignificand : Nat := 18446744073709551615

/-- Appends digits to a significand as long as it fits 64 bits: the significand, how many digits
were appended, and the rest. -/
def significand (acc count : Nat) : List Char → Nat × Nat × List Char
  | [] => (acc, count, [])
  | c :: rest =>
    if c.isDigit then
      let next := acc * 10 + (c.toNat - '0'.toNat)
      if next ≤ maxSignificand then significand next (count + 1) rest else (acc, count, c :: rest)
    else (acc, count, c :: rest)

/-- Times a power of ten, in steps that the format can hold. -/
def scale? : Nat → Binary64 → Int → Option Binary64
  | 0, value, _ => some value
  | fuel + 1, value, exponent =>
    let power := Binary64.ofDecimal? false 1 exponent.natAbs
    if exponent.natAbs ≤ 308 then
      if 0 ≤ exponent then power.bind value.mul? else power.bind value.div?
    else if value.isZero then some value
    else if 0 ≤ exponent then none
    else
      ((Binary64.ofDecimal? false 1 308).bind value.div?).bind fun value =>
        scale? fuel value (exponent + 308)

/-- The floating-point number `± digits · 10 ^ exponent`. -/
def floatOf? (negative : Bool) (digits : Nat) (exponent : Int) : Option Json :=
  ((Binary64.ofNat? digits).bind (scale? 8 · exponent)).map fun value =>
    .float { value with negative }

/-- The widest exponent that is still counted. -/
def maxExponentDigits : Nat := 2147483647

/-- A floating-point number whose exponent follows, after its mark. -/
def withExponent? (negative : Bool) (digits : Nat) (start : Int) (cs : List Char) :
    Option (Json × List Char) := do
  let (down, cs) : Bool × List Char :=
    match cs with
    | '+' :: rest => (false, rest)
    | '-' :: rest => (true, rest)
    | cs => (false, cs)
  let size ← Text.natural? 10 (cs.takeWhile Char.isDigit)
  let rest := cs.dropWhile Char.isDigit
  if maxExponentDigits < size then
    if digits ≠ 0 ∧ !down then none else some (.float (Binary64.zero negative), rest)
  else
    let value ← floatOf? negative digits (if down then start - size else start + size)
    some (value, rest)

/-- What may follow the digits of a floating-point number: an exponent or nothing. -/
def finish? (negative : Bool) (digits : Nat) (exponent : Int) (cs : List Char) :
    Option (Json × List Char) :=
  match cs with
  | c :: rest =>
    if c = 'e' ∨ c = 'E' then withExponent? negative digits exponent rest
    else (floatOf? negative digits exponent).map (·, cs)
  | [] => (floatOf? negative digits exponent).map (·, cs)

/-- The digits after a point. -/
def fraction? (negative : Bool) (digits : Nat) (exponent : Int) (cs : List Char) :
    Option (Json × List Char) :=
  if cs.head?.any Char.isDigit then
    let (digits, count, rest) := significand digits 0 cs
    finish? negative digits (exponent - count) (rest.dropWhile Char.isDigit)
  else none

/-- The whole number `± digits`, if 64 bits hold it and it is not a zero with a sign. -/
def wholeOf? (negative : Bool) (digits : Nat) : Option Json :=
  if negative then
    if digits = 0 ∨ 9223372036854775808 < digits then floatOf? true digits 0
    else some (.int (-Int.ofNat digits))
  else some (.int (Int.ofNat digits))

/-- An unsigned number: no zero leads another digit. -/
def unsignedNumber? (negative : Bool) (cs : List Char) : Option (Json × List Char) :=
  if cs.head?.any Char.isDigit = false then none
  else if cs.head? = some '0' ∧ (cs.drop 1).head?.any Char.isDigit then none
  else
    let (digits, _, rest) := significand 0 0 cs
    let beyond := rest.takeWhile Char.isDigit
    let exponent : Int := beyond.length
    match rest.dropWhile Char.isDigit with
    | '.' :: rest => fraction? negative digits exponent rest
    | rest =>
      if beyond.isEmpty ∧ !(rest.head?.any fun c => c = 'e' ∨ c = 'E') then
        (wholeOf? negative digits).map (·, rest)
      else finish? negative digits exponent rest

/-- A number at the head of a text. -/
def number? (cs : List Char) : Option (Json × List Char) :=
  match cs with
  | '-' :: rest => unsignedNumber? true rest
  | cs => unsignedNumber? false cs

end ComposeCluster.Json
