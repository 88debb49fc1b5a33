import NamespaceLogging.Number.Shortest

/-!
# Writing floating-point numbers

Four notations: positional and with an exponent, each either with the fewest digits that identify
the number or with a set number of places.  A set number of places rounds the exact value, halves
to the even neighbour.

## Main definitions

* `Binary64.positional`, `Binary64.scientific`: with the fewest digits.
* `Binary64.fixed`, `Binary64.scientificFixed`: with a set number of places.
* `Binary64.special`: the sign and the texts of the infinities and of what is not a number.
-/

set_option autoImplicit false

namespace NamespaceLogging

namespace DecimalText

/-- The decimal written without an exponent and without a needless point. -/
def positional (d : DecimalText) : List Char :=
  let n := d.digits.length
  if d.point ≤ 0 then '0' :: '.' :: (List.replicate d.point.natAbs '0' ++ d.digits)
  else if (n : Int) ≤ d.point then d.digits ++ List.replicate (d.point.toNat - n) '0'
  else d.digits.take d.point.toNat ++ '.' :: d.digits.drop d.point.toNat

/-- The decimal written with one digit before the point and an exponent. -/
def scientific (d : DecimalText) : List Char :=
  let fraction := d.digits.drop 1
  d.digits.take 1 ++ (if fraction.isEmpty then [] else '.' :: fraction) ++
    'e' :: (toString (d.point - 1)).toList

end DecimalText

namespace Binary64

/-- The text of a number, given how a finite magnitude is written.  What is not a number has no
sign; zero keeps its own. -/
def special (magnitude : Nat → Int → List Char) : Binary64 → List Char
  | .nan => ['N', 'a', 'N']
  | .infinity negative => (if negative then ['-'] else []) ++ ['i', 'n', 'f']
  | .finite negative coeff exponent =>
    (if negative then ['-'] else []) ++ magnitude coeff exponent

/-- The number with the fewest digits, without an exponent. -/
def positional : Binary64 → List Char :=
  special fun coeff exponent =>
    if coeff = 0 then ['0'] else (Shortest.digits coeff exponent).positional

/-- The number with the fewest digits and an exponent. -/
def scientific : Binary64 → List Char :=
  special fun coeff exponent =>
    if coeff = 0 then ['0', 'e', '0'] else (Shortest.digits coeff exponent).scientific

/-- The digits with a point before the last `places` of them. -/
def insertPoint (places : Nat) (digits : List Char) : List Char :=
  let padded := List.replicate (places + 1 - digits.length) '0' ++ digits
  let whole := padded.length - places
  padded.take whole ++ (if places = 0 then [] else '.' :: padded.drop whole)

/-- The number rounded to `places` digits after the point. -/
def fixed (places : Nat) : Binary64 → List Char :=
  special fun coeff exponent =>
    let scaled := (Ratio.ofBinary coeff exponent).shiftTen (-(places : Int))
    insertPoint places (Nat.toDigits 10 (roundHalfEven scaled.num scaled.den))

/-- The number rounded to `places` digits after the first one, with an exponent. -/
def scientificFixed (places : Nat) : Binary64 → List Char :=
  special fun coeff exponent =>
    if coeff = 0 then insertPoint places ['0'] ++ ['e', '0']
    else
      let value := Ratio.ofBinary coeff exponent
      let top := value.scale
      let scaled := value.shiftTen (top - 1 - (places : Int))
      let rounded := roundHalfEven scaled.num scaled.den
      -- rounding up may reach the next power of ten
      let carried := rounded = Nat.pow 10 (places + 1)
      let digits := Nat.toDigits 10 (if carried then rounded / 10 else rounded)
      let power := if carried then top else top - 1
      insertPoint places digits ++ 'e' :: (toString power).toList

end Binary64

end NamespaceLogging
