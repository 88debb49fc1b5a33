import NamespaceLogging.Record.Argument

/-!
# Message templates

A log call carries a template such as `took %d ms for %s` beside its arguments.  A template is
read from left to right into pieces: characters, directives and, at the very end, possibly a
directive that was cut short.  Rendering hands the arguments to the directives in order.

## Main definitions

* `Directive` and `Directive.source`: a directive and its own text.
* `TemplatePiece` and `Template.pieces`: the reading of a template.
* `Directive.convert`, `Directive.padded`: what a directive writes for an argument.
* `Template.render`: the message.
* `RenderFault`, `Template.fault?`: what keeps a message from being written.
* `Template.checked`: the message, or what keeps it from being written.

## Implementation notes

A directive keeps the characters it was written with, so that its text can be given back when no
argument is left or when the argument cannot be converted.
-/

set_option autoImplicit false

namespace NamespaceLogging

/-- What keeps a message from being written. -/
inductive RenderFault where
  /-- A number is to be written with too many places. -/
  | tooManyPlaces
  /-- An argument is to be filled up to too great a width. -/
  | tooLong
deriving DecidableEq, Repr

/-- The fault in words. -/
def RenderFault.text : RenderFault → String
  | .tooManyPlaces => "Formatting argument out of range"
  | .tooLong => "capacity overflow"

/-- A directive: `%`, flags, a width, a precision and a conversion character. -/
structure Directive where
  /-- The flags, each `-` or `0`. -/
  flags : List Char
  /-- The digits of the width. -/
  width : List Char
  /-- The digits after the point; `none` if there is no point. -/
  precision : Option (List Char)
  /-- What follows them. -/
  conversion : Char
deriving DecidableEq, Repr

namespace Directive

/-- The directive as it stands in the template. -/
def source (d : Directive) : List Char :=
  '%' :: d.flags ++ d.width ++
    (match d.precision with
      | none => []
      | some digits => '.' :: digits) ++
    [d.conversion]

/-- The largest number that a width or a precision can express. -/
def largestNumber : Nat := Nat.pow 2 64 - 1

/-- The value of decimal digits, cut off at `largestNumber`; `none` without digits. -/
def number? (digits : List Char) : Option Nat :=
  if digits.isEmpty then none
  else some (min largestNumber (digits.foldl (fun n c => 10 * n + (c.toNat - '0'.toNat)) 0))

/-- Whether the conversion takes an argument. -/
def takesArgument (d : Directive) : Bool := "sdiuxXofebc".toList.contains d.conversion

/-- Whether the `0` flag may fill the conversion up with zeros. -/
def isNumeric (d : Directive) : Bool := !("scb".toList.contains d.conversion)

/-- A text filled up to the directive's width.  `-` keeps it on the left; `0` puts zeros between
the sign and the digits of a number; else spaces go in front. -/
def padded (d : Directive) (piece : List Char) : List Char :=
  let missing := (number? d.width).getD 0 - piece.length
  if d.flags.contains '-' then piece ++ List.replicate missing ' '
  else if d.flags.contains '0' && d.isNumeric && decide (0 < missing) then
    match piece with
    | '-' :: digits => '-' :: (List.replicate missing '0' ++ digits)
    | _ => List.replicate missing '0' ++ piece
  else List.replicate missing ' ' ++ piece

/-- The digits of an integer in a base, negative ones as two's complement in 64 bits. -/
def wordDigits (base : Nat) (n : Int) : List Char := Nat.toDigits base (n % Nat.pow 2 64).toNat

/-- The character with this code point, if there is one. -/
def scalar? (n : Int) : Option Char :=
  if h : 0 ≤ n ∧ n.toNat.isValidChar then some (Char.ofNatAux n.toNat h.2) else none

/-- What the directive writes for an argument, before padding.  A conversion that the argument
does not have leaves the argument's plain text or, for the bases sixteen and eight, the
directive's own. -/
def convert (d : Directive) (arg : Argument) : List Char :=
  let precision := d.precision.bind number?
  match d.conversion with
  | 's' =>
    match precision with
    | some p => arg.display.take p
    | none => arg.display
  | 'd' | 'i' | 'u' =>
    match arg with
    | .float value => value.trunc.positional
    | other =>
      match other.integer? with
      | some n => intText n
      | none => other.display
  | 'x' => (arg.integer?.map (wordDigits 16)).getD d.source
  | 'X' => (arg.integer?.map fun n => (wordDigits 16 n).map Char.toUpper).getD d.source
  | 'o' => (arg.integer?.map (wordDigits 8)).getD d.source
  | 'f' => (arg.number?.map (Binary64.fixed (precision.getD 6))).getD arg.display
  | 'e' =>
    (arg.number?.map fun value =>
      match precision with
      | some p => value.scientificFixed p
      | none => value.scientific).getD arg.display
  | 'b' => (if arg.truthy then "true" else "false").toList
  | 'c' =>
    match arg with
    | .char c => [c]
    | other => ((other.integer?.bind scalar?).map fun c => [c]).getD other.display
  | _ => d.source

/-! ### What cannot be written -/

/-- The greatest number of places that a number can be written with. -/
def mostPlaces : Nat := Nat.pow 2 16 - 1

/-- The greatest width: no text has more bytes than a program can address. -/
def greatestWidth : Nat := Nat.pow 2 47

/-- Whether the conversion of an argument is written with a number of places. -/
def hasPlaces (d : Directive) (arg : Argument) : Bool :=
  (d.conversion == 'f' || d.conversion == 'e') && arg.number?.isSome

/-- What keeps the directive from writing the argument.  The places are looked at first. -/
def fault? (d : Directive) (arg : Argument) : Option RenderFault :=
  if d.hasPlaces arg && decide (mostPlaces < (d.precision.bind number?).getD 0) then
    some .tooManyPlaces
  else if greatestWidth < (number? d.width).getD 0 then some .tooLong
  else none

end Directive

/-! ## Reading a template -/

/-- A piece of a template. -/
inductive TemplatePiece where
  /-- A character that stands for itself. -/
  | literal (c : Char)
  | directive (d : Directive)
  /-- A directive at the end of the template that lacks its conversion. -/
  | unfinished (text : List Char)
deriving DecidableEq, Repr

namespace TemplatePiece

/-- The piece as it stands in the template. -/
def source : TemplatePiece → List Char
  | literal c => [c]
  | directive d => d.source
  | unfinished text => text

end TemplatePiece

namespace Template

/-- Whether the character is a flag. -/
def isFlag (c : Char) : Bool := c == '-' || c == '0'

/-- The precision at the front of a text: a point and the digits after it. -/
def readPrecision : List Char → Option (List Char) × List Char
  | '.' :: rest => (some (rest.takeWhile Char.isDigit), rest.dropWhile Char.isDigit)
  | rest => (none, rest)

/-- The directive whose `%` stands before the text, and the text after it; `none` if the text
ends before the conversion. -/
def readDirective? (cs : List Char) : Option (Directive × List Char) :=
  let afterFlags := cs.dropWhile isFlag
  let (precision, rest) := readPrecision (afterFlags.dropWhile Char.isDigit)
  match rest with
  | [] => none
  | conversion :: rest =>
    some
      ({ flags := cs.takeWhile isFlag
         width := afterFlags.takeWhile Char.isDigit
         precision := precision
         conversion := conversion }, rest)

/-- Reading a precision never makes the rest of a template longer. -/
theorem length_readPrecision_le (cs : List Char) : (readPrecision cs).2.length ≤ cs.length := by
  unfold readPrecision
  split
  · have := (List.dropWhile_suffix Char.isDigit (l := ‹List Char›)).length_le
    simp only [List.length_cons]
    omega
  · exact Nat.le_refl _

/-- A directive takes at least one character of the template, so that what is left is shorter. -/
theorem length_readDirective?_lt {cs rest : List Char} {d : Directive}
    (h : readDirective? cs = some (d, rest)) : rest.length < cs.length := by
  unfold readDirective? at h
  have h₁ := (List.dropWhile_suffix isFlag (l := cs)).length_le
  have h₂ := (List.dropWhile_suffix Char.isDigit (l := cs.dropWhile isFlag)).length_le
  have h₃ := length_readPrecision_le ((cs.dropWhile isFlag).dropWhile Char.isDigit)
  simp only at h
  split at h
  · simp at h
  · rename_i conversion tail heq
    simp only [Option.some.injEq, Prod.mk.injEq] at h
    rw [heq] at h₃
    rw [← h.2]
    simp only [List.length_cons] at h₃
    omega

/-- The pieces of a template, from left to right. -/
def pieces : List Char → List TemplatePiece
  | [] => []
  | c :: cs =>
    if c = '%' then
      match h : readDirective? cs with
      | some (d, rest) =>
        have : rest.length < cs.length + 1 := by
          have := length_readDirective?_lt h
          omega
        .directive d :: pieces rest
      | none => [.unfinished ('%' :: cs)]
    else .literal c :: pieces cs
  termination_by cs => cs.length

/-! ## Rendering -/

/-- The text of one piece, and the arguments that are left after it. -/
def renderPiece (args : List Argument) : TemplatePiece → List Char × List Argument
  | .literal c => ([c], args)
  | .unfinished text => (text, args)
  | .directive d =>
    if d.conversion = '%' then (['%'], args)
    else if d.conversion = 'n' then (['\n'], args)
    else if d.takesArgument then
      match args with
      | arg :: rest => (d.padded (d.convert arg), rest)
      | [] => (d.source, [])
    else (d.source, args)

/-- The arguments that no directive took, in brackets; nothing if there are none. -/
def surplus (args : List Argument) : List Char :=
  if args.isEmpty then []
  else ' ' :: '[' :: (List.intercalate [',', ' '] (args.map Argument.display) ++ [']'])

/-- The text of the pieces, and then of the arguments that are left. -/
def renderPieces : List TemplatePiece → List Argument → List Char
  | [], args => surplus args
  | piece :: rest, args =>
    let (text, left) := renderPiece args piece
    text ++ renderPieces rest left

/-- The message: the template with the arguments put in. -/
def render (template : String) (args : List Argument) : String :=
  String.ofList (renderPieces (pieces template.toList) args)

/-! ## Messages that cannot be written -/

/-- What keeps the first directive that fails from writing its argument. -/
def fault? : List TemplatePiece → List Argument → Option RenderFault
  | .directive d :: rest, arg :: args =>
    if d.takesArgument then (d.fault? arg).or (fault? rest args) else fault? rest (arg :: args)
  | _ :: rest, args => fault? rest args
  | [], _ => none

/-- The message, or what keeps it from being written. -/
def checked (template : String) (args : List Argument) : Except RenderFault String :=
  let pieces := pieces template.toList
  match fault? pieces args with
  | some fault => .error fault
  | none => .ok (String.ofList (renderPieces pieces args))

end Template

end NamespaceLogging
