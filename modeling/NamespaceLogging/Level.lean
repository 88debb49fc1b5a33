import NamespaceLogging.Error
import NamespaceLogging.Text.CharClass
import NamespaceLogging.Text.Pad

/-!
# Levels

The severity of a log call, and sets of severities.

## Main definitions

* `Level`: the six severities, ordered by `Level.rank`.
* `Level.parse`: a severity by its name, in any letter case.
* `LevelSet`: a set of severities, which always holds `Level.fatal`.
-/

set_option autoImplicit false

namespace NamespaceLogging

/-- The severity of a log call, lowest first. -/
inductive Level where
  /-- Step-by-step detail. -/
  | trace
  /-- Diagnostics for the developers of the calling code. -/
  | debug
  /-- Normal operation. -/
  | info
  /-- A suspicious condition. -/
  | warn
  /-- An error that was handled. -/
  | error
  /-- An unrecoverable condition. -/
  | fatal
deriving DecidableEq, Repr, Inhabited

namespace Level

/-- Every level, lowest first. -/
def all : List Level := [trace, debug, info, warn, error, fatal]

/-- The number of lower levels. -/
def rank : Level → Nat
  | trace => 0
  | debug => 1
  | info => 2
  | warn => 3
  | error => 4
  | fatal => 5

instance : LE Level := ⟨fun a b => a.rank ≤ b.rank⟩

instance : LT Level := ⟨fun a b => a.rank < b.rank⟩

instance (a b : Level) : Decidable (a ≤ b) := inferInstanceAs (Decidable (a.rank ≤ b.rank))

instance (a b : Level) : Decidable (a < b) := inferInstanceAs (Decidable (a.rank < b.rank))

/-- The name of a level, as it is written in a log line. -/
def name : Level → String
  | trace => "TRACE"
  | debug => "DEBUG"
  | info => "INFO"
  | warn => "WARN"
  | error => "ERROR"
  | fatal => "FATAL"

/-- The level with this name in small letters. -/
def ofLowerName? : String → Option Level
  | "trace" => some trace
  | "debug" => some debug
  | "info" => some info
  | "warn" => some warn
  | "warning" => some warn
  | "error" => some error
  | "fatal" => some fatal
  | _ => none

/-- The level that a text names, whatever the letter case and the white space around it. -/
def ofText? (s : String) : Option Level :=
  ofLowerName? (String.ofList (Text.asciiLower (Text.trim s.toList)))

/-- The level that a text names; the error repeats the text as it was given. -/
def parse (s : String) : Except ConfigError Level :=
  match ofText? s with
  | some level => .ok level
  | none => .error (.unknownLevel s)

/-- The greatest width and precision that a level can be formatted with. -/
def greatestWidth : Nat := Nat.pow 2 16 - 1

/-- The name cut to `precision` characters, or whole without one, and filled up to `width`; `none`
if one of the two is too great. -/
def format? (fill : Char) (align : Text.Alignment) (width : Nat) (precision : Option Nat)
    (level : Level) : Option String :=
  if greatestWidth < width || greatestWidth < precision.getD 0 then none
  else
    let name := level.name.toList
    some (String.ofList (Text.pad fill align width (name.take (precision.getD name.length))))

end Level

/-! ## Sets of levels -/

/-- A set of levels, one bit per level: bit `l.rank` says whether `l` is a member. -/
structure LevelSet where
  bits : Nat
  /-- A fatal record is never held back. -/
  fatal_mem : bits.testBit Level.fatal.rank = true
deriving DecidableEq, Repr

namespace LevelSet

/-- Whether the level is a member. -/
def contains (s : LevelSet) (level : Level) : Bool := s.bits.testBit level.rank

/-- The set of `Level.fatal` alone. -/
def onlyFatal : LevelSet := ⟨Nat.pow 2 5, by decide⟩

/-- All levels from `least` on. -/
def startingAt (least : Level) : LevelSet :=
  ⟨Nat.pow 2 6 - Nat.pow 2 least.rank, by cases least <;> decide⟩

/-- The set with the level added. -/
def insert (s : LevelSet) (level : Level) : LevelSet :=
  ⟨s.bits ||| Nat.pow 2 level.rank, by simp [Nat.testBit_or, s.fatal_mem]⟩

/-- Every set of levels takes fatal records: the structure does not allow another one. -/
@[simp]
theorem contains_fatal (s : LevelSet) : s.contains .fatal = true := s.fatal_mem

/-- The given levels and `Level.fatal`. -/
def ofList (levels : List Level) : LevelSet := levels.foldl insert onlyFatal

/-- The given levels and `Level.fatal`; an empty list is refused. -/
def ofNonempty (levels : List Level) : Except ConfigError LevelSet :=
  if levels.isEmpty then .error .emptyLevelSet else .ok (ofList levels)

/-- The levels from `Level.info` on. -/
def default : LevelSet := startingAt .info

/-- The members, lowest first. -/
def levels (s : LevelSet) : List Level := Level.all.filter s.contains

/-- The lowest member; `Level.fatal` if there is none. -/
def minimum (s : LevelSet) : Level := s.levels.headD .fatal

/-- The names of the members, lowest first, with bars between them. -/
def display (s : LevelSet) : String := "|".intercalate (s.levels.map Level.name)

/-- The set for diagnostics: its bits as a number. -/
def debugText (s : LevelSet) : String := "LevelFilter \x7b bits: " ++ toString s.bits ++ " \x7d"

end LevelSet

end NamespaceLogging
