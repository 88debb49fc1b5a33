import NamespaceLogging.Number.Notation

/-!
# Arguments of a log call

A log call carries a list of values of six kinds.  Integers have 64 bits, signed or unsigned.

## Main definitions

* `Argument`: one value.
* `Argument.display`: its plain text.
* `Argument.integer?`, `Argument.number?`, `Argument.truthy`: the value seen as an integer, as a
  floating-point number and as a truth value.
-/

set_option autoImplicit false

namespace NamespaceLogging

/-- One argument of a log call. -/
inductive Argument where
  | int (value : Int64)
  | uint (value : UInt64)
  | float (value : Binary64)
  | bool (value : Bool)
  | char (value : Char)
  | text (value : String)

/-- The decimal text of an integer. -/
def intText (n : Int) : List Char :=
  (if n < 0 then ['-'] else []) ++ Nat.toDigits 10 n.natAbs

namespace Argument

/-- The text of the argument when nothing is asked of its form. -/
def display : Argument → List Char
  | int value => intText value.toInt
  | uint value => Nat.toDigits 10 value.toNat
  | float value => value.positional
  | bool value => (if value then "true" else "false").toList
  | char value => [value]
  | text value => value.toList

/-- The argument as an integer: a truth value counts as one or zero, a character as its code
point. -/
def integer? : Argument → Option Int
  | int value => some value.toInt
  | uint value => some value.toNat
  | bool value => some (if value then 1 else 0)
  | char value => some value.toNat
  | float _ => none
  | text _ => none

/-- The argument as a floating-point number; integers go to the nearest one. -/
def number? : Argument → Option Binary64
  | int value => some (Binary64.ofInt value.toInt)
  | uint value => some (Binary64.ofInt value.toNat)
  | float value => some value
  | _ => none

/-- The argument as a truth value: zero and the empty text are false. -/
def truthy : Argument → Bool
  | bool value => value
  | int value => value.toInt != 0
  | uint value => value.toNat != 0
  | float value => !value.isZero
  | char _ => true
  | text value => !value.isEmpty

/-- Whether two arguments are of one kind and have equal values. -/
def equals : Argument → Argument → Bool
  | int a, int b => a == b
  | uint a, uint b => a == b
  | float a, float b => a.equals b
  | bool a, bool b => a == b
  | char a, char b => a == b
  | text a, text b => a == b
  | _, _ => false

end Argument

end NamespaceLogging
