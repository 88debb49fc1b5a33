import NamespaceLogging.Config.Settings

/-!
# Configuration documents

A configuration is written as a TOML document without tables: lines `key = value`, where a value is
a text, an array of texts, an integer or a truth value.  Every other document is refused, and so is
one with an unknown key, a key given twice or a value of the wrong type.

## Main definitions

* `Document.Value`: the values.
* `Document.readValue?`, `Document.readKey?`: the readings of a value and of a key.
* `Document.read`: the configuration of a document.

## Implementation notes

A reading takes the characters that are left and gives what it read and the characters after it, or
`none` where the text does not fit.  Readings that repeat another one take the length of the text as
fuel: each round consumes at least one character.
-/

set_option autoImplicit false

namespace NamespaceLogging

namespace Document

/-- What a reading gives. -/
abbrev Reading (α : Type) := List Char → Option (α × List Char)

/-- A value of a document. -/
inductive Value where
  | text (s : String)
  | texts (list : List String)
  | number (n : Int)
  | flag (b : Bool)
deriving DecidableEq, Repr

/-! ## Characters -/

/-- Whether the character separates words on a line. -/
def isSpace (c : Char) : Bool := c == ' ' || c == '\t'

/-- Whether the character may stand in a comment or a text: no control character but the tab. -/
def isPrintable (c : Char) : Bool := c == '\t' || (32 ≤ c.toNat && c.toNat != 127)

/-- Whether the character may stand in a key without quotes. -/
def isBareKey (c : Char) : Bool := c.isAlphanum || c == '_' || c == '-'

/-- The value of a hexadecimal digit. -/
def hexValue? (c : Char) : Option Nat :=
  if c.isDigit then some (c.toNat - '0'.toNat)
  else if 'a' ≤ c && c ≤ 'f' then some (c.toNat - 'a'.toNat + 10)
  else if 'A' ≤ c && c ≤ 'F' then some (c.toNat - 'A'.toNat + 10)
  else none

/-- The character whose code point hexadecimal digits give. -/
def codePoint? (digits : List Char) : Option Char := do
  let values ← digits.mapM hexValue?
  let n := values.foldl (fun n d => 16 * n + d) 0
  if n.isValidChar then some (Char.ofNat n) else none

/-- The character that a letter stands for behind a backslash. -/
def escaped? : Char → Option Char
  | 'b' => some '\x08'
  | 't' => some '\t'
  | 'n' => some '\n'
  | 'f' => some '\x0c'
  | 'r' => some '\r'
  | '"' => some '"'
  | '\\' => some '\\'
  | _ => none

/-! ## Texts -/

/-- Adds a character in front of what was read. -/
def andThen (c : Char) (reading : Option (List Char × List Char)) :
    Option (List Char × List Char) :=
  reading.map fun r => (c :: r.1, r.2)

/-- The rest of a text in double quotes on one line. -/
def readBasic : Reading (List Char)
  | '"' :: rest => some ([], rest)
  | '\\' :: 'u' :: a :: b :: c :: d :: rest =>
    (codePoint? [a, b, c, d]).bind fun ch => andThen ch (readBasic rest)
  | '\\' :: 'U' :: a :: b :: c :: d :: e :: f :: g :: h :: rest =>
    (codePoint? [a, b, c, d, e, f, g, h]).bind fun ch => andThen ch (readBasic rest)
  | '\\' :: c :: rest => (escaped? c).bind fun ch => andThen ch (readBasic rest)
  | c :: rest => if isPrintable c then andThen c (readBasic rest) else none
  | [] => none

/-- The rest of a text in single quotes on one line. -/
def readLiteral : Reading (List Char)
  | '\'' :: rest => some ([], rest)
  | c :: rest => if isPrintable c then andThen c (readLiteral rest) else none
  | [] => none

/-- What a text of several lines leaves out at some point. -/
inductive Skipping where
  | nothing
  /-- Spaces up to the line break that a backslash takes away. -/
  | toLineBreak
  /-- Spaces and line breaks. -/
  | blanks
deriving DecidableEq, Repr

/-- The rest of a text of several lines in three double quotes.  One or two quotes may stand
directly before the closing ones. -/
def readBasicLines : Skipping → Reading (List Char)
  | .toLineBreak, '\r' :: '\n' :: rest => readBasicLines .blanks rest
  | .toLineBreak, c :: rest =>
    if c = '\n' then readBasicLines .blanks rest
    else if isSpace c then readBasicLines .toLineBreak rest
    else none
  | .blanks, '\r' :: '\n' :: rest => readBasicLines .blanks rest
  | .blanks, '\n' :: rest => readBasicLines .blanks rest
  | .blanks, ' ' :: rest => readBasicLines .blanks rest
  | .blanks, '\t' :: rest => readBasicLines .blanks rest
  | _, '"' :: '"' :: '"' :: '"' :: '"' :: rest => some (['"', '"'], rest)
  | _, '"' :: '"' :: '"' :: '"' :: rest => some (['"'], rest)
  | _, '"' :: '"' :: '"' :: rest => some ([], rest)
  | _, '\\' :: 'u' :: a :: b :: c :: d :: rest =>
    (codePoint? [a, b, c, d]).bind fun ch => andThen ch (readBasicLines .nothing rest)
  | _, '\\' :: 'U' :: a :: b :: c :: d :: e :: f :: g :: h :: rest =>
    (codePoint? [a, b, c, d, e, f, g, h]).bind fun ch => andThen ch (readBasicLines .nothing rest)
  | _, '\\' :: '\r' :: '\n' :: rest => readBasicLines .blanks rest
  | _, '\\' :: c :: rest =>
    if c = '\n' then readBasicLines .blanks rest
    else if isSpace c then readBasicLines .toLineBreak rest
    else (escaped? c).bind fun ch => andThen ch (readBasicLines .nothing rest)
  | _, '\r' :: '\n' :: rest => andThen '\n' (readBasicLines .nothing rest)
  | _, c :: rest =>
    if c = '\n' || isPrintable c then andThen c (readBasicLines .nothing rest) else none
  | _, [] => none

/-- The rest of a text of several lines in three single quotes. -/
def readLiteralLines : Reading (List Char)
  | '\'' :: '\'' :: '\'' :: '\'' :: '\'' :: rest => some (['\'', '\''], rest)
  | '\'' :: '\'' :: '\'' :: '\'' :: rest => some (['\''], rest)
  | '\'' :: '\'' :: '\'' :: rest => some ([], rest)
  | '\r' :: '\n' :: rest => andThen '\n' (readLiteralLines rest)
  | c :: rest =>
    if c = '\n' || isPrintable c then andThen c (readLiteralLines rest) else none
  | [] => none

/-- A text without the line break at its front. -/
def dropLineBreak : List Char → List Char
  | '\r' :: '\n' :: rest => rest
  | '\n' :: rest => rest
  | rest => rest

/-- A text in any of the four notations. -/
def readText? : Reading (List Char)
  | '"' :: '"' :: '"' :: rest => readBasicLines .nothing (dropLineBreak rest)
  | '\'' :: '\'' :: '\'' :: rest => readLiteralLines (dropLineBreak rest)
  | '"' :: rest => readBasic rest
  | '\'' :: rest => readLiteral rest
  | _ => none

/-! ## Blanks and comments -/

/-- The characters after the spaces at the front. -/
def skipSpaces (cs : List Char) : List Char := cs.dropWhile isSpace

/-- The characters from the end of the line on, after spaces and a comment. -/
def skipLineEnd? (cs : List Char) : Option (List Char) :=
  match skipSpaces cs with
  | '#' :: rest => some (rest.dropWhile isPrintable)
  | rest => some rest

/-- The characters after a line break; `none` if there is something else on the line. -/
def lineBreak? : List Char → Option (List Char)
  | '\r' :: '\n' :: rest => some rest
  | '\n' :: rest => some rest
  | _ => none

/-- The characters after spaces, comments and line breaks. -/
def skipBlankLines : Nat → List Char → List Char
  | 0, cs => cs
  | fuel + 1, cs =>
    match skipSpaces cs with
    | '#' :: rest =>
      match lineBreak? (rest.dropWhile isPrintable) with
      | some rest => skipBlankLines fuel rest
      | none => rest.dropWhile isPrintable
    | rest =>
      match lineBreak? rest with
      | some rest => skipBlankLines fuel rest
      | none => rest

/-! ## Values -/

/-- The value of digits in a base; underscores may stand between digits. -/
def readNumeral? (base : Nat) (digits : List Char) : Option Nat :=
  let groups := Text.splitOnChar '_' digits
  if groups.any List.isEmpty then none
  else do
    let values ← groups.flatten.mapM hexValue?
    if values.all (· < base) then some (values.foldl (fun n d => base * n + d) 0) else none

/-- The value of a decimal numeral without a sign and without needless zeros in front. -/
def readDecimal? : List Char → Option Nat
  | ['0'] => some 0
  | '0' :: _ => none
  | digits => readNumeral? 10 digits

/-- An integer of 64 bits. -/
def readInteger? (word : List Char) : Option Int := do
  let n : Int ←
    match word with
    | '0' :: 'x' :: digits => (readNumeral? 16 digits).map Int.ofNat
    | '0' :: 'o' :: digits => (readNumeral? 8 digits).map Int.ofNat
    | '0' :: 'b' :: digits => (readNumeral? 2 digits).map Int.ofNat
    | '+' :: digits => (readDecimal? digits).map Int.ofNat
    | '-' :: digits => (readDecimal? digits).map fun n => -(n : Int)
    | digits => (readDecimal? digits).map Int.ofNat
  if -(Nat.pow 2 63) ≤ n && n < Nat.pow 2 63 then some n else none

/-- Whether the character may stand in a number or a truth value. -/
def isWord (c : Char) : Bool := isBareKey c || c == '+' || c == '.' || c == ':'

/-- The elements of an array from an element on.  The fuel is never less than the length of the
text. -/
def readElements : Nat → Reading (List String)
  | 0, _ => none
  | fuel + 1, cs =>
    match skipBlankLines (fuel + 1) cs with
    | ']' :: rest => some ([], rest)
    | rest => do
      let (element, rest) ← readText? rest
      let element := String.ofList element
      match skipBlankLines (fuel + 1) rest with
      | ']' :: rest => some ([element], rest)
      | ',' :: rest => do
        let (elements, rest) ← readElements fuel rest
        return (element :: elements, rest)
      | _ => none

/-- A value. -/
def readValue? (cs : List Char) : Option (Value × List Char) :=
  match cs with
  | '[' :: rest => do
    let (elements, rest) ← readElements rest.length rest
    return (.texts elements, rest)
  | c :: _ =>
    if c = '"' || c = '\'' then do
      let (text, rest) ← readText? cs
      return (.text (String.ofList text), rest)
    else
      let rest := cs.dropWhile isWord
      match cs.takeWhile isWord with
      | ['t', 'r', 'u', 'e'] => some (.flag true, rest)
      | ['f', 'a', 'l', 's', 'e'] => some (.flag false, rest)
      | word => (readInteger? word).map fun n => (.number n, rest)
  | [] => none

/-- A key: a bare word, or a text in quotes on one line. -/
def readKey? : Reading String
  | '"' :: rest => (readBasic rest).map fun r => (String.ofList r.1, r.2)
  | '\'' :: rest => (readLiteral rest).map fun r => (String.ofList r.1, r.2)
  | cs =>
    let word := cs.takeWhile isBareKey
    if word.isEmpty then none else some (String.ofList word, cs.dropWhile isBareKey)

/-! ## The document -/

/-- A key, its value, and the rest of the line. -/
def readEntry? (cs : List Char) : Option ((String × Value) × List Char) := do
  let (key, rest) ← readKey? cs
  let '=' :: rest := skipSpaces rest | none
  let (value, rest) ← readValue? (skipSpaces rest)
  let rest ← skipLineEnd? rest
  if rest.isEmpty then some ((key, value), [])
  else do
    let rest ← lineBreak? rest
    some ((key, value), rest)

/-- The entries of a document, in order.  The fuel is never less than the length of the text. -/
def readEntries? : Nat → List Char → Option (List (String × Value))
  | 0, cs => if cs.isEmpty then some [] else none
  | fuel + 1, cs =>
    match skipBlankLines (fuel + 1) cs with
    | [] => some []
    | rest => do
      let (entry, rest) ← readEntry? rest
      let entries ← readEntries? fuel rest
      return entry :: entries

/-- The configuration with the field that a key names set to a value. -/
def assign? (c : Configuration) (key : String) (value : Value) : Option Configuration :=
  match key, value with
  | "level", .text s => some { c with level := s }
  | "levels", .texts list => some { c with levels := some list }
  | "overrides", .texts list => some { c with overrides := list }
  | "target", .text s => some { c with target := some s }
  | "aspect_level", .text s => some { c with aspectLevel := some s }
  | "layout", .text s => some { c with layout := s }
  | "time_format", .text s => some { c with timeFormat := s }
  | "max_cause_frames", .number n =>
    if 0 ≤ n then some { c with maxCauseFrames := n.toNat } else none
  | "error_threshold", .number n =>
    if 0 ≤ n && n < Nat.pow 2 32 then some { c with errorThreshold := n.toNat } else none
  | "capture_stack", .flag b => some { c with captureStack := b }
  | _, _ => none

/-- Whether no key stands twice. -/
def keysDistinct (entries : List (String × Value)) : Bool :=
  let keys := entries.map Prod.fst
  keys.eraseDups.length == keys.length

/-- The characters of a document without a byte order mark at its front. -/
def withoutMark : List Char → List Char
  | '\ufeff' :: rest => rest
  | rest => rest

/-- The configuration of a document. -/
def read? (text : String) : Option Configuration := do
  let cs := withoutMark text.toList
  let entries ← readEntries? (cs.length + 1) cs
  if keysDistinct entries then entries.foldlM (fun c e => assign? c e.1 e.2) {} else none

/-- The configuration of a document, or the error that it is none. -/
def read (text : String) : Except ConfigError Configuration :=
  match read? text with
  | some c => .ok c
  | none => .error .parse

end Document

end NamespaceLogging
