import NamespaceLogging.Error

/-!
# Reading integers

Decimal texts of integers that have to fit a range.  The first character at which the reading
fails decides the error.

## Main definitions

* `readDigits`: digits whose value must not pass a limit.
* `readNatural`: an unsigned integer with an optional `+`.
* `readInteger`: a signed integer.
-/

set_option autoImplicit false

namespace NamespaceLogging

/-- Reads digits after those with the value `n`; passing the limit is the error `beyond`. -/
def readDigits (limit : Nat) (beyond : IntegerError) (n : Nat) :
    List Char → Except IntegerError Nat
  | [] => .ok n
  | c :: cs =>
    if c.isDigit then
      let next := 10 * n + (c.toNat - '0'.toNat)
      if limit < next then .error beyond else readDigits limit beyond next cs
    else .error .invalidDigit

/-- Reads an unsigned integer up to the limit. -/
def readNatural (limit : Nat) : List Char → Except IntegerError Nat
  | [] => .error .empty
  | ['+'] => .error .invalidDigit
  | '+' :: digits => readDigits limit .tooLarge 0 digits
  | digits => readDigits limit .tooLarge 0 digits

/-- Reads a signed integer of `bits` bits in two's complement. -/
def readInteger (bits : Nat) : List Char → Except IntegerError Int
  | ['-'] => .error .invalidDigit
  | '-' :: digits => (readDigits (Nat.pow 2 (bits - 1)) .tooSmall 0 digits).map fun n => -(n : Int)
  | digits => (readNatural (Nat.pow 2 (bits - 1) - 1) digits).map fun n => (n : Int)

end NamespaceLogging
