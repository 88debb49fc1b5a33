import NamespaceLogging.Number.Integer
import NamespaceLogging.Record.Frame
import NamespaceLogging.Text.CharClass

/-!
# Backtraces

The text form of a call stack has a line `index: symbol` for each frame and below it lines
`at file:line:column`, of which the first gives the frame's own position.

## Main definitions

* `Backtrace.parse`: the frames of such a text.
* `Backtrace.overhead`: the number of leading frames that belong to the logging machinery.
* `Backtrace.trimmed`: a stack without them, given the number found on an earlier stack.
-/

set_option autoImplicit false

namespace NamespaceLogging

open Text

namespace Backtrace

/-- A text split at its last colon. -/
def splitColon? (cs : List Char) : Option (List Char × List Char) := splitLast? [':'] cs

/-- The line number that a text gives, if it is one of 32 bits. -/
def lineNumber? (cs : List Char) : Option Nat := (readNatural (Nat.pow 2 32 - 1) cs).toOption

/-- File and line of a position `file:line:column` or `file:line`.  If the part that has to be
the line is no number, the whole text is the file. -/
def splitLocation (location : List Char) : List Char × Option Nat :=
  match splitColon? location with
  | none => (location, none)
  | some (before, last) =>
    let (file, line) := (splitColon? before).getD (before, last)
    match lineNumber? line with
    | some n => (file, some n)
    | none => (location, none)

/-- One line of a backtrace. -/
inductive Line where
  /-- A new frame. -/
  | symbol (path : List Char)
  /-- The position of the frame above. -/
  | position (location : List Char)
  | other
deriving DecidableEq, Repr

/-- The sort of a line. -/
def Line.read (line : List Char) : Line :=
  let text := trimStart line
  match stripPrefix? ['a', 't', ' '] text with
  | some location => .position location
  | none =>
    match splitFirst? [':', ' '] text with
    | some (index, path) =>
      if !index.isEmpty && index.all Char.isDigit then .symbol (trim path) else .other
    | none => .other

/-- The frame with a position, unless it has one. -/
def locate (location : List Char) (f : Frame) : Frame :=
  if f.file.isNone then
    let (file, line) := splitLocation location
    { f with file := some (String.ofList file), line := line }
  else f

/-- The frames of the lines below some frames, the latest of which comes first. -/
def collect (frames : List Frame) : List Line → List Frame
  | [] => frames.reverse
  | .symbol path :: rest =>
    collect (Frame.make (String.ofList path) none none :: frames) rest
  | .position location :: rest =>
    match frames with
    | [] => collect [] rest
    | f :: earlier => collect (locate location f :: earlier) rest
  | .other :: rest => collect frames rest

/-- The frames of the text form of a call stack. -/
def parse (text : String) : List Frame :=
  collect [] ((lines text.toList).map Line.read)

/-! ## The frames of the machinery -/

/-- The number of frames up to the end of the first run inside the namespace.  If nothing
follows such a run, or there is none, the last frame is left. -/
def overhead (frames : List Frame) (ns : String) : Nat :=
  let before := frames.takeWhile fun f => !f.isIn ns
  let run := (frames.drop before.length).takeWhile fun f => f.isIn ns
  if before.length + run.length < frames.length then before.length + run.length
  else frames.length - 1

/-- A stack without the machinery's frames, and the number of these for the stacks to come.  The
number is found on the first stack; later ones lose as many frames, but keep at least one. -/
def trimmed (known : Option Nat) (frames : List Frame) (ns : String) : List Frame × Nat :=
  let count := known.getD (overhead frames ns)
  (frames.drop (min count (frames.length - 1)), count)

end Backtrace

end NamespaceLogging
