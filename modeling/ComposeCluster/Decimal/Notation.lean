import ComposeCluster.Decimal.Shortest
import ComposeCluster.Text.Numeral
import ComposeCluster.Text.Split

/-!
# Writing and reading binary numbers in decimal

A `Layout` holds the choices that a decimal notation leaves open: which exponents are written
out in full, and what marks a whole number as a number with a fraction. There are two of them,
one for JSON text and one for values that end up in plain settings. `readDecimal?` reads the
ordinary notation with a point and an exponent.
-/

set_option autoImplicit false

namespace ComposeCluster

/-- How a number is laid out: `inFull` tells which exponents of the leading digit are written
without an exponent, and `wholeMark` follows a whole number written so. -/
structure Layout where
  inFull : Int → Bool
  wholeMark : String

namespace Layout

/-- JSON text: the leading digit between the fifth place after the point and the sixteenth before
it, whole numbers with `.0`, otherwise an exponent that always has a sign. -/
def json : Layout := ⟨fun exponent => -5 ≤ exponent && exponent < 16, ".0"⟩

/-- Settings: all digits, no exponent, no mark. -/
def plain : Layout := ⟨fun _ => true, ""⟩

/-- So many zeros. -/
def zeros (count : Nat) : String := String.ofList (List.replicate count '0')

/-- A decimal number in full. -/
def writeInFull (layout : Layout) (digits : List Char) (place : Int) : String :=
  if 0 ≤ place then String.ofList digits ++ zeros place.toNat ++ layout.wholeMark
  else
    let fraction := (-place).toNat
    if fraction < digits.length then
      String.ofList (digits.take (digits.length - fraction)) ++ "." ++
        String.ofList (digits.drop (digits.length - fraction))
    else "0." ++ zeros (fraction - digits.length) ++ String.ofList digits

/-- A decimal number as a leading digit, its fraction and an exponent. -/
def writeScientific (digits : List Char) (exponent : Int) : String :=
  let fraction := String.ofList (digits.drop 1)
  let mark := if exponent < 0 then "e-" else "e+"
  String.ofList (digits.take 1) ++ (if fraction.isEmpty then "" else "." ++ fraction) ++ mark ++
    toString exponent.natAbs

/-- A number in a layout. -/
def write (layout : Layout) (x : Binary64) : String :=
  let decimal := x.shortest
  let digits := Nat.toDigits 10 decimal.coefficient
  let exponent := decimal.place + digits.length - 1
  (if x.negative then "-" else "") ++
    if layout.inFull exponent then writeInFull layout digits decimal.place
    else writeScientific digits exponent

end Layout

/-- What a text means as a floating-point number: a finite one, or one that the format cannot
hold. -/
inductive FloatReading where
  | finite (value : Binary64)
  | unbounded
  deriving DecidableEq

namespace FloatReading

/-- The words for infinities and for the value that is no number, in small letters. -/
def words : List String := ["inf", "infinity", "nan"]

/-- The exponent that follows a coefficient: none, or a mark and a signed number. -/
def exponent? (cs : List Char) : Option Int :=
  match cs with
  | [] => some 0
  | c :: digits => if c = 'e' ∨ c = 'E' then Text.signed? 10 digits else none

/-- An unsigned number: digits with at most one point and at least one digit, then the
exponent. -/
def magnitude? (negative : Bool) (cs : List Char) : Option FloatReading :=
  let whole := cs.takeWhile Char.isDigit
  let rest := cs.dropWhile Char.isDigit
  let (fraction, rest) :=
    match rest with
    | '.' :: rest => (rest.takeWhile Char.isDigit, rest.dropWhile Char.isDigit)
    | rest => ([], rest)
  match Text.natural? 10 (whole ++ fraction), exponent? rest with
  | some coefficient, some exponent =>
    some <| match Binary64.ofDecimal? negative coefficient (exponent - fraction.length) with
      | some value => .finite value
      | none => .unbounded
  | _, _ => none

/-- The meaning of a text: an optional sign, then a number or one of the words. -/
def read? (text : String) : Option FloatReading :=
  let (negative, cs) : Bool × List Char :=
    match text.toList with
    | '-' :: rest => (true, rest)
    | '+' :: rest => (false, rest)
    | cs => (false, cs)
  if words.contains (Text.asciiLower (String.ofList cs)) then some .unbounded
  else magnitude? negative cs

end FloatReading

end ComposeCluster
