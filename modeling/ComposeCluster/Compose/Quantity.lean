import ComposeCluster.Text.Split

/-!
# Resource quantities

Amounts of processor time and memory: a decimal number with an optional sign, and after it a
suffix for a power of ten or of two, or a decimal exponent.
-/

set_option autoImplicit false

namespace ComposeCluster.Compose

/-- The suffixes of quantities. -/
def quantitySuffixes : List String :=
  ["Ki", "Mi", "Gi", "Ti", "Pi", "Ei", "n", "u", "m", "k", "M", "G", "T", "P", "E"]

/-- Characters without one sign in front. -/
def dropSign : List Char → List Char
  | '+' :: rest => rest
  | '-' :: rest => rest
  | cs => cs

/-- Whether digits and points form a number: at least one digit and at most one point. -/
def isDecimal (cs : List Char) : Bool :=
  cs.any Char.isDigit && cs.count '.' ≤ 1

/-- Whether characters are a decimal exponent with its mark. -/
def isExponent : List Char → Bool
  | c :: rest =>
    let digits := dropSign rest
    (c == 'e' || c == 'E') && !digits.isEmpty && digits.all Char.isDigit
  | [] => false

/-- Whether a text is a quantity. -/
def isQuantity (text : String) : Bool :=
  let body := dropSign text.toList
  let isNumeric (c : Char) : Bool := c.isDigit || c == '.'
  let number := body.takeWhile isNumeric
  let suffix := body.dropWhile isNumeric
  isDecimal number &&
    (suffix.isEmpty || quantitySuffixes.contains (String.ofList suffix) || isExponent suffix)

end ComposeCluster.Compose
