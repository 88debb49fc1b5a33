import NamespaceLogging.Level
import NamespaceLogging.Text.Split

/-!
# Overrides

An override asks for a stricter level in one namespace and below it.  It is written
`namespace=LEVEL`.

## Main definitions

* `Namespace.normalize`: a namespace without surrounding white space and without `::` at its end.
* `Override`, `Override.parse`: an override and its reading.
* `Override.parseList`: the overrides of a list with commas.
-/

set_option autoImplicit false

namespace NamespaceLogging

open Text

/-- A namespace without surrounding white space and without any `::` at its end. -/
def Namespace.normalize (ns : List Char) : List Char := dropTrailingPairs ':' ':' (trim ns)

/-- The level that is asked for in a namespace and below it. -/
structure Override where
  namespaceName : String
  level : Level
deriving DecidableEq, Repr

namespace Override

/-- Reads `namespace=LEVEL`.  A missing namespace is reported before a second `=`, and both before
the level. -/
def parse (entry : String) : Except ConfigError Override :=
  match splitFirst? ['='] entry.toList with
  | none => .error (.malformedOverride entry)
  | some (before, after) =>
    let ns := Namespace.normalize before
    if ns.isEmpty then .error (.emptyNamespace entry)
    else if after.contains '=' then .error (.malformedOverride entry)
    else do
      let level ← Level.parse (String.ofList after)
      return { namespaceName := String.ofList ns, level := level }

/-- The entries of a list with commas, trimmed, without the empty ones. -/
def entries (list : String) : List String :=
  (((splitOnChar ',' list.toList).map trim).filter fun entry => !entry.isEmpty).map String.ofList

/-- The overrides of a list with commas; the first entry that cannot be read decides the error. -/
def parseList (list : String) : Except ConfigError (List Override) := (entries list).mapM parse

end Override

end NamespaceLogging
