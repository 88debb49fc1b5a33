/-!
# Binary floating-point numbers

A 64-bit binary floating-point number as what its bits say: not a number, an infinity, or a sign
and a natural coefficient times a power of two.  All arithmetic on it is exact arithmetic on
natural numbers.

## Main definitions

* `Binary64`: the numbers, and `Binary64.equals`, which compares them as numbers.
* `Binary64.ofBits`, `Binary64.ofBits32`: the number that a word of 64 or 32 bits stands for.
* `Binary64.ofInt`: the number nearest to an integer.
* `Binary64.trunc`: the number without its fraction.
* `roundHalfEven`: a quotient rounded to the nearest integer, halves to the even one.

## Implementation notes

A finite number is kept in its one normal form: the coefficient has 53 binary digits, or the
exponent is the least one, -1074.  So two finite numbers other than zero are equal exactly when
their fields are.
-/

set_option autoImplicit false

namespace NamespaceLogging

/-- The quotient rounded to the nearest integer; a half goes to the even neighbour. -/
def roundHalfEven (num den : Nat) : Nat :=
  let q := num / den
  let twice := 2 * (num % den)
  if twice < den then q
  else if den < twice then q + 1
  else if q % 2 = 0 then q else q + 1

/-- A 64-bit binary floating-point number. -/
inductive Binary64 where
  /-- Not a number. -/
  | nan
  /-- One of the two infinities. -/
  | infinity (negative : Bool)
  /-- The coefficient times two to the exponent, with a sign. -/
  | finite (negative : Bool) (coeff : Nat) (exponent : Int)
deriving DecidableEq, Repr

namespace Binary64

/-- The number `coeff * 2 ^ exponent`, brought to 53 binary digits by rounding to nearest, ties to
even.  The caller's exponents keep clear of the ends of the range. -/
def ofScaled (negative : Bool) (coeff : Nat) (exponent : Int) : Binary64 :=
  if coeff = 0 then .finite negative 0 (-1074)
  else
    let top := coeff.log2
    if top ≤ 52 then
      .finite negative (coeff * Nat.pow 2 (52 - top)) (exponent - ((52 - top : Nat) : Int))
    else
      let drop := top - 52
      let rounded := roundHalfEven coeff (Nat.pow 2 drop)
      if rounded = Nat.pow 2 53 then .finite negative (Nat.pow 2 52) (exponent + (drop : Int) + 1)
      else .finite negative rounded (exponent + (drop : Int))

/-- The number with these 64 bits. -/
def ofBits (word : Nat) : Binary64 :=
  let negative := word / Nat.pow 2 63 % 2 = 1
  let biased : Nat := word / Nat.pow 2 52 % Nat.pow 2 11
  let fraction := word % Nat.pow 2 52
  if biased = 2047 then
    if fraction = 0 then .infinity negative else .nan
  else if biased = 0 then .finite negative fraction (-1074)
  else .finite negative (Nat.pow 2 52 + fraction) ((biased : Int) - 1075)

/-- The number that the 32-bit floating-point number with these bits widens to. -/
def ofBits32 (word : Nat) : Binary64 :=
  let negative := word / Nat.pow 2 31 % 2 = 1
  let biased : Nat := word / Nat.pow 2 23 % Nat.pow 2 8
  let fraction := word % Nat.pow 2 23
  if biased = 255 then
    if fraction = 0 then .infinity negative else .nan
  else if biased = 0 then ofScaled negative fraction (-149)
  else ofScaled negative (Nat.pow 2 23 + fraction) ((biased : Int) - 150)

/-- The number nearest to an integer. -/
def ofInt (n : Int) : Binary64 := ofScaled (decide (n < 0)) n.natAbs 0

/-- Whether the number is zero, of either sign. -/
def isZero : Binary64 → Bool
  | .finite _ coeff _ => coeff == 0
  | _ => false

/-- Equality of numbers: the two zeros are equal, and what is not a number equals nothing. -/
def equals : Binary64 → Binary64 → Bool
  | .nan, _ => false
  | x, y => decide (x = y) || (x.isZero && y.isZero)

/-- The number without its fraction; the sign stays, also on zero. -/
def trunc : Binary64 → Binary64
  | .finite negative coeff exponent =>
    if 0 ≤ exponent then .finite negative coeff exponent
    else ofScaled negative (coeff / Nat.pow 2 exponent.natAbs) 0
  | other => other

end Binary64

end NamespaceLogging
