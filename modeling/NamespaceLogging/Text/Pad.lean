/-!
# Padding

A text shorter than a wanted width is filled up with one character on the left, on the right or
on both sides.  Widths count characters.

## Main definitions

* `Alignment`: where the text stands among the fill.
* `pad`: the text filled up to a width.
-/

set_option autoImplicit false

namespace NamespaceLogging.Text

/-- Where a text stands in the space it is given. -/
inductive Alignment where
  | left
  | right
  | center
deriving DecidableEq, Repr

/-- The text filled up to `width` characters; a text that is long enough stays as it is.  When
the fill around a centred text is odd, the larger half stands on the right. -/
def pad (fill : Char) (align : Alignment) (width : Nat) (cs : List Char) : List Char :=
  let missing := width - cs.length
  match align with
  | .left => cs ++ List.replicate missing fill
  | .right => List.replicate missing fill ++ cs
  | .center =>
    List.replicate (missing / 2) fill ++ cs ++ List.replicate (missing - missing / 2) fill

end NamespaceLogging.Text
