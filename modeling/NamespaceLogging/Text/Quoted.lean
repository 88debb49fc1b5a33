import NamespaceLogging.Text.Unprintable

/-!
# Quoted texts

A text between double quotes, written so that every character of it can be told from what is seen:
quotes and backslashes are escaped, and so are the characters that cannot be seen.

## Main definitions

* `quotedChar`: one character of a quoted text.
* `quote`: the quoted text.
-/

set_option autoImplicit false

namespace NamespaceLogging.Text

/-- A character of a quoted text.  What cannot be seen is given by its code point. -/
def quotedChar (c : Char) : List Char :=
  match c with
  | '"' => ['\\', '"']
  | '\\' => ['\\', '\\']
  | '\n' => ['\\', 'n']
  | '\r' => ['\\', 'r']
  | '\t' => ['\\', 't']
  | '\x00' => ['\\', '0']
  | _ =>
    if isUnprintable c then '\\' :: 'u' :: '{' :: (Nat.toDigits 16 c.toNat ++ ['}']) else [c]

/-- The text between double quotes. -/
def quote (s : String) : String :=
  String.ofList ('"' :: (s.toList.flatMap quotedChar ++ ['"']))

end NamespaceLogging.Text
