/-!
# Classes of characters

A class of characters is a list of closed ranges of code points.  Two classes of the Unicode
standard are needed by the rest of the library: white space, here, and the letters and digits
that may make up a name, in `NamespaceLogging.Text.Alphanumeric`.

## Main definitions

* `CharClass` and `CharClass.contains`: a class and membership in it.
* `CharClass.whiteSpace`: the 25 characters with the property White_Space.
* `trimStart`, `trimEnd`, `trim`: a text without the white space at its ends.
-/

set_option autoImplicit false

namespace NamespaceLogging.Text

/-- A class of characters: closed ranges of code points, ascending and apart. -/
structure CharClass where
  /-- First and last code point of each range. -/
  ranges : List (Nat × Nat)

namespace CharClass

/-- Whether the character lies in one of the ranges. -/
def contains (cls : CharClass) (c : Char) : Bool :=
  cls.ranges.any fun r => r.1 ≤ c.toNat && c.toNat ≤ r.2

/-- The characters with the Unicode property White_Space. -/
def whiteSpace : CharClass where
  ranges :=
    [(0x9, 0xD), (0x20, 0x20), (0x85, 0x85), (0xA0, 0xA0), (0x1680, 0x1680), (0x2000, 0x200A),
     (0x2028, 0x2029), (0x202F, 0x202F), (0x205F, 0x205F), (0x3000, 0x3000)]

end CharClass

/-- Whether the character is white space. -/
def isBlank (c : Char) : Bool := CharClass.whiteSpace.contains c

/-! ## Trimming -/

/-- The text without its leading white space. -/
def trimStart (cs : List Char) : List Char := cs.dropWhile isBlank

/-- The text without its trailing white space. -/
def trimEnd (cs : List Char) : List Char := (cs.reverse.dropWhile isBlank).reverse

/-- The text without the white space at both ends. -/
def trim (cs : List Char) : List Char := trimEnd (trimStart cs)

/-- The text with its ASCII capitals made small; every other character stays. -/
def asciiLower (cs : List Char) : List Char := cs.map Char.toLower

end NamespaceLogging.Text
