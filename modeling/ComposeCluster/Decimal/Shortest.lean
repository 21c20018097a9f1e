import ComposeCluster.Decimal.Binary64

/-!
# The shortest decimal that reads back

Around each binary number lies the interval of reals that round to it; its ends belong to it
exactly when the mantissa is even, and its lower half is narrower just above a power of two. The
decimal chosen for a number lies in the interval, has the fewest digits of all that do, and is the
nearest of those; an exact tie goes to the even last digit.

On a grid of multiples of `10 ^ place` the two neighbours of the number are the only candidates,
so the search goes down the places and stops at the first grid with a hit.
-/

set_option autoImplicit false

namespace ComposeCluster

/-- The number `coefficient · 10 ^ place`. -/
structure DecimalNumber where
  coefficient : Nat
  place : Int
  deriving DecidableEq

namespace Binary64

/-- Removes the zeros that end a coefficient. -/
def dropZeros : Nat → Nat → Int → DecimalNumber
  | 0, coefficient, place => ⟨coefficient, place⟩
  | fuel + 1, coefficient, place =>
    if coefficient % 10 = 0 then dropZeros fuel (coefficient / 10) (place + 1)
    else ⟨coefficient, place⟩

/-- The chosen neighbour on the grid of one place. The number is `4 · mantissa` units and the
interval reaches `below` and two units from it; `unit` and `grid` are a unit and `10 ^ place` over
a common denominator. -/
def gridHit? (mantissa below unit grid : Nat) : Option Nat :=
  let value := 4 * mantissa * unit
  let low := (4 * mantissa - below) * unit
  let high := (4 * mantissa + 2) * unit
  let floor := value / grid
  let inside (n : Nat) : Bool :=
    if mantissa % 2 = 0 then low ≤ n * grid && n * grid ≤ high
    else low < n * grid && n * grid < high
  if floor = 0 then none
  else match inside floor, inside (floor + 1) with
    | false, false => none
    | true, false => some floor
    | false, true => some (floor + 1)
    | true, true =>
      let down := value - floor * grid
      let up := (floor + 1) * grid - value
      if down < up then some floor
      else if up < down then some (floor + 1)
      else if floor % 2 = 0 then some floor else some (floor + 1)

/-- The first hit on the grids from `place` downwards. -/
def searchGrids (mantissa below : Nat) (exponent : Int) : Nat → Int → DecimalNumber
  | 0, place => ⟨0, place⟩
  | fuel + 1, place =>
    let unit := twoTo (exponent - 2).toNat * tenTo (-place).toNat
    let grid := twoTo (2 - exponent).toNat * tenTo place.toNat
    match gridHit? mantissa below unit grid with
    | some coefficient => dropZeros 20 coefficient place
    | none => searchGrids mantissa below exponent fuel (place - 1)

/-- The shortest decimal that reads back as the number, its sign apart. -/
def shortest (x : Binary64) : DecimalNumber :=
  if x.mantissa = 0 then ⟨0, 0⟩
  else
    let below := if x.mantissa = twoTo 52 ∧ leastExponent < x.exponent then 1 else 2
    let start := Int.fdiv ((x.mantissa.log2 + x.exponent) * 1233) 4096 + 1
    searchGrids x.mantissa below x.exponent 24 start

end Binary64

end ComposeCluster
