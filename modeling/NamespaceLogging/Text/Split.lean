/-!
# Taking texts apart

Texts are lists of characters here.  Each function says where the text is cut; the pieces and
the separator always concatenate back to the text.

## Main definitions

* `stripPrefix?`, `stripSuffix?`: a text without a given beginning or end.
* `splitFirst?`, `splitLast?`: the two sides of the first or last occurrence of a separator.
* `splitOnChar`: the pieces between all occurrences of a character.
* `dropTrailing`: a text without any number of copies of a given end.
* `lines`: the lines of a text, each without its line break.
-/

set_option autoImplicit false

namespace NamespaceLogging.Text

variable {α : Type} [BEq α]

/-- The rest of the text after the given beginning, if the text begins so. -/
def stripPrefix? : List α → List α → Option (List α)
  | [], cs => some cs
  | _ :: _, [] => none
  | p :: ps, c :: cs => if p == c then stripPrefix? ps cs else none

/-- The text before the given end, if the text ends so. -/
def stripSuffix? (suffix cs : List α) : Option (List α) :=
  (stripPrefix? suffix.reverse cs.reverse).map List.reverse

/-- The two sides of the first occurrence of the separator. -/
def splitFirst? (sep : List α) : List α → Option (List α × List α)
  | [] => if sep.isEmpty then some ([], []) else none
  | c :: cs =>
    match stripPrefix? sep (c :: cs) with
    | some rest => some ([], rest)
    | none => (splitFirst? sep cs).map fun sides => (c :: sides.1, sides.2)

/-- The two sides of the last occurrence of the separator. -/
def splitLast? (sep : List α) : List α → Option (List α × List α)
  | [] => if sep.isEmpty then some ([], []) else none
  | c :: cs =>
    match splitLast? sep cs with
    | some sides => some (c :: sides.1, sides.2)
    | none => (stripPrefix? sep (c :: cs)).map fun rest => ([], rest)

/-- The pieces between the occurrences of one element; there is always at least one piece. -/
def splitOnChar (sep : α) : List α → List (List α)
  | [] => [[]]
  | c :: cs =>
    if c == sep then [] :: splitOnChar sep cs
    else
      match splitOnChar sep cs with
      | [] => [[c]]
      | piece :: pieces => (c :: piece) :: pieces

/-- What is left of a reversed text when the two elements are removed from its front as often
as they stand there together. -/
def dropPairs (a b : α) : List α → List α
  | x :: y :: rest => if x == a && y == b then dropPairs a b rest else x :: y :: rest
  | short => short

/-- The text without the pairs `a b` at its end, however many there are. -/
def dropTrailingPairs (a b : α) (cs : List α) : List α := (dropPairs b a cs.reverse).reverse

/-- A line without the carriage return at its end. -/
def dropCarriageReturn (line : List Char) : List Char := (stripSuffix? ['\r'] line).getD line

/-- The lines of a text.  A line ends at a line feed, which takes a carriage return before it
along; text after the last line feed is a line of its own unless it is empty. -/
def lines (cs : List Char) : List (List Char) :=
  let pieces := splitOnChar '\n' cs
  let last := pieces.getLastD []
  pieces.dropLast.map dropCarriageReturn ++ (if last.isEmpty then [] else [last])

end NamespaceLogging.Text
