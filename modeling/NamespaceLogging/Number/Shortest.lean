import NamespaceLogging.Number.Binary64

/-!
# The fewest digits that identify a number

A positive number `coeff * 2 ^ exponent` is the nearest one to every real of an interval around
it.  `Shortest.digits` selects the decimal with the fewest digits in that interval; of several
the one nearest to the number, and of two equally near ones the larger.

## Main definitions

* `Ratio`: a quotient of natural numbers, and `Ratio.scale`: its order of magnitude.
* `DecimalText`: digits behind a decimal point that has been moved.
* `Shortest.digits`: the selection.

## Implementation notes

For one digit, two digits and so on, the number's two neighbours on the grid of decimals with so
many digits are tried.  If a decimal of that grid lies in the interval, one of those two does.
Seventeen digits always suffice; past them the exact value is taken.
-/

set_option autoImplicit false

namespace NamespaceLogging

/-- The quotient `num / den`; the denominator is positive. -/
structure Ratio where
  num : Nat
  den : Nat

namespace Ratio

/-- The value of a coefficient and a binary exponent. -/
def ofBinary (coeff : Nat) (exponent : Int) : Ratio where
  num := coeff * Nat.pow 2 exponent.toNat
  den := Nat.pow 2 (-exponent).toNat

/-- The quotient divided by ten to the given power. -/
def shiftTen (r : Ratio) (places : Int) : Ratio where
  num := r.num * Nat.pow 10 (-places).toNat
  den := r.den * Nat.pow 10 places.toNat

/-- The number of decimal digits of a natural number. -/
def digitCount (n : Nat) : Nat := (Nat.toDigits 10 n).length

/-- The least power of ten that is greater than a positive quotient. -/
def scale (r : Ratio) : Int :=
  if r.den ≤ r.num then (digitCount (r.num / r.den) : Int)
  else
    let below := digitCount (r.den / r.num)
    -- the quotient is at most `10 ^ (1 - below)`
    if r.num * Nat.pow 10 (below - 1) = r.den then 2 - (below : Int) else 1 - (below : Int)

end Ratio

/-- The decimal `0.d₁d₂…dₙ * 10 ^ point`. -/
structure DecimalText where
  /-- The digits, as characters. -/
  digits : List Char
  /-- Where the decimal point stands, counted from the left end of the digits. -/
  point : Int
deriving DecidableEq, Repr

namespace DecimalText

/-- The decimal `n * 10 ^ exponent`, without zeros at the end. -/
def ofScaled (n : Nat) (exponent : Int) : DecimalText :=
  let digits := Nat.toDigits 10 n
  { digits := (digits.reverse.dropWhile (· == '0')).reverse
    point := (digits.length : Int) + exponent }

end DecimalText

namespace Shortest

/-- Whether the number below is only half as far away as the number above. -/
def narrowBelow (coeff : Nat) (exponent : Int) : Bool :=
  coeff == Nat.pow 2 52 && decide (-1074 < exponent)

/-- The neighbour of the number on the grid of multiples of `10 ^ grid` that identifies it, if
there is one. -/
def onGrid? (c : Nat) (exponent grid : Int) : Option Nat :=
  -- everything in quarters, so that the ends of the interval are whole
  let value := (Ratio.ofBinary (4 * c) exponent).shiftTen grid
  let narrow := narrowBelow c exponent
  let low := (Ratio.ofBinary (4 * c - (if narrow then 1 else 2)) exponent).shiftTen grid
  let high := (Ratio.ofBinary (4 * c + 2) exponent).shiftTen grid
  let inside (d : Nat) : Bool :=
    let x := 4 * d * value.den
    if c % 2 = 0 then decide (low.num ≤ x) && decide (x ≤ high.num)
    else decide (low.num < x) && decide (x < high.num)
  let below := value.num / (4 * value.den)
  match inside below, inside (below + 1) with
  | true, false => some below
  | false, true => some (below + 1)
  | true, true =>
    if 2 * value.num < 4 * (2 * below + 1) * value.den then some below else some (below + 1)
  | false, false => none

/-- The fewest digits that identify the positive number `coeff * 2 ^ exponent`. -/
def digits (coeff : Nat) (exponent : Int) : DecimalText :=
  let top := (Ratio.ofBinary coeff exponent).scale
  let found := (List.range 17).findSome? fun n =>
    let grid := top - ((n + 1 : Nat) : Int)
    (onGrid? coeff exponent grid).map fun d => DecimalText.ofScaled d grid
  found.getD
    (DecimalText.ofScaled (coeff * Nat.pow 2 exponent.toNat * Nat.pow 5 (-exponent).toNat)
      (if exponent < 0 then exponent else 0))

end Shortest

end NamespaceLogging
