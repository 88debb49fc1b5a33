import NamespaceLogging.Sink.FileTree

/-!
# Files and standard streams

What sinks write to: the files and devices of a tree, and the two standard streams, whose texts are
kept in full.

## Main definitions

* `Media`: the tree and the texts of the standard streams.
* `Outlet`: a place that was opened for writing at its end.
* `Media.openEnd`, `Media.append`, `Media.read`, `Media.write`: the operations.
-/

set_option autoImplicit false

namespace NamespaceLogging

/-- The files, and what was written to the standard streams. -/
structure Media where
  tree : FileTree
  stdout : String
  stderr : String
deriving DecidableEq, Repr

/-- A place that was opened for writing at its end. -/
inductive Outlet where
  | stdout
  | stderr
  | file (place : Location)
  | device (device : Device)
deriving DecidableEq, Repr

namespace Media

/-- No files of its own, and nothing written yet. -/
def empty : Media := ⟨.initial, "", ""⟩

/-- The text of a file. -/
def text? (m : Media) (place : Location) : Option String := m.tree.text? place

/-- The media with a file that has the given text. -/
def setText (place : Location) (text : String) (m : Media) : Media :=
  { m with tree := m.tree.setText place text }

/-- The path that a text means, if a text so long and without a zero in it can be handed to the
system at all. -/
def pathOf (path : String) : Except IoError FilePath :=
  if path.toList.contains '\x00' then
    .error (.custom .other "file name contained an unexpected NUL byte")
  else if path.isEmpty then .error (.system .noEntry)
  else if FilePath.longestPath < path.utf8ByteSize then .error (.system .nameTooLong)
  else .ok (.parse path)

/-- The outlet that a path leads to, and the media with a file there if nothing stood there. -/
def outletOf (path : String) (m : Media) : Except IoError (Outlet × Media) := do
  let place ← (m.tree.findForWriting (← pathOf path)).mapError .system
  match m.tree.node? place with
  | some (.device device) => return (.device device, m)
  | some _ => return (.file place, m)
  | none => return (.file place, m.setText place "")

/-! ## Operations -/

/-- Opens a path for writing at its end.  A missing file is made. -/
def openEnd (path : String) (m : Media) : Except IoError Outlet × Media :=
  match m.outletOf path with
  | .error e => (.error e, m)
  | .ok (outlet, m) => (.ok outlet, m)

/-- Writes a text at the end of an outlet. -/
def append (outlet : Outlet) (text : String) (m : Media) : Except IoError Unit × Media :=
  match outlet with
  | .stdout | .device .stdout => (.ok (), { m with stdout := m.stdout ++ text })
  | .stderr | .device .stderr => (.ok (), { m with stderr := m.stderr ++ text })
  | .file place => (.ok (), m.setText place ((m.text? place).getD "" ++ text))
  | .device .full => (if text.isEmpty then .ok () else .error (.system .noSpace), m)
  | .device .null => (.ok (), m)

/-- The text behind a path.  Nothing is read from a device. -/
def read (path : String) (m : Media) : Except IoError String := do
  match ← (m.tree.find (← pathOf path)).mapError .system with
  | (_, .directory) => throw (.system .isDirectory)
  | (_, .device _) => return ""
  | (_, .binary) => throw (.custom .other "stream did not contain valid UTF-8")
  | (_, .file text) => return text

/-- Puts a text in the place of all that a file holds. -/
def write (path text : String) (m : Media) : Except IoError Unit × Media :=
  match m.outletOf path with
  | .error e => (.error e, m)
  | .ok (.file place, m) => (.ok (), m.setText place text)
  | .ok (outlet, m) => m.append outlet text

end Media

end NamespaceLogging
