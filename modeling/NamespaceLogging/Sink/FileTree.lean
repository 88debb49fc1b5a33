import NamespaceLogging.Error
import NamespaceLogging.Text.Split

/-!
# The file tree

The files that sinks write to stand in a tree of directories.  A path is walked name by name, from
the root if it begins with a slash and else from the working directory.  At each name the place
reached so far has to be a directory, so the first place that is none decides the failure.

## Main definitions

* `Location`, `Node`, `FileTree`: the places of the tree, and what stands there.
* `FilePath`, `FilePath.parse`: a path, taken apart.
* `FileTree.enter`, `FileTree.walk`: one name of a path, and several.
* `FileTree.find`: the place that a path leads to.
* `FileTree.findForWriting`: the place of a file that is there or can be made.

## Implementation notes

Directories are neither made nor removed, so the tree begins with those that every system has and
with a working directory that is empty.
-/

set_option autoImplicit false

namespace NamespaceLogging

open Text

/-- A place of the tree: the names on the way from there up to the root. -/
abbrev Location := List String

/-- Something that takes and gives bytes without keeping them. -/
inductive Device where
  /-- Swallows everything. -/
  | null
  /-- Never has any space. -/
  | full
  /-- The standard output stream. -/
  | stdout
  /-- The standard error stream. -/
  | stderr
deriving DecidableEq, Repr

/-- What stands at a place. -/
inductive Node where
  | directory
  | file (text : String)
  /-- A file whose bytes are no text. -/
  | binary
  | device (device : Device)
deriving DecidableEq, Repr

/-- A tree of files. -/
structure FileTree where
  /-- What stands at each place but the root; no place is listed twice. -/
  nodes : List (Location × Node)
  /-- The places that stand for other places. -/
  links : List (Location × Location)
  /-- The working directory. -/
  here : Location
deriving DecidableEq, Repr

/-! ## Paths -/

/-- A path, taken apart. -/
structure FilePath where
  /-- Whether the path begins at the root. -/
  absolute : Bool
  /-- The names between slashes; a run of slashes counts as one. -/
  names : List String
  /-- Whether a slash stands at the end. -/
  slashed : Bool
deriving DecidableEq, Repr

namespace FilePath

/-- The path that a text means. -/
def parse (path : String) : FilePath where
  absolute := path.toList.head? == some '/'
  names := ((splitOnChar '/' path.toList).map String.ofList).filter (· != "")
  slashed := path.toList.getLast? == some '/'

/-- The greatest number of bytes of a name. -/
def longestName : Nat := 255

/-- The greatest number of bytes of a path. -/
def longestPath : Nat := 4095

end FilePath

namespace FileTree

/-! ## Places -/

/-- What stands at a place.  The root is a directory. -/
def node? (t : FileTree) : Location → Option Node
  | [] => some .directory
  | place => t.nodes.lookup place

/-- The text of a file. -/
def text? (t : FileTree) (place : Location) : Option String :=
  match t.node? place with
  | some (.file text) => some text
  | _ => none

/-- The tree with a file that has the given text. -/
def setText (place : Location) (text : String) (t : FileTree) : FileTree :=
  { t with nodes := (place, .file text) :: t.nodes.filter fun entry => entry.1 != place }

/-- Succeeds at a directory. -/
def requireDirectory (t : FileTree) (place : Location) : Except SystemFault Unit :=
  match t.node? place with
  | some .directory => .ok ()
  | some _ => .error .notDirectory
  | none => .error .noEntry

/-! ## Walking -/

/-- The place that a name means in a directory, whether something stands there or not.  A dot means
the directory itself and two dots the one above; the root is above itself.  A link is followed. -/
def enter (t : FileTree) (place : Location) (name : String) : Except SystemFault Location := do
  t.requireDirectory place
  if name = "." then return place
  else if name = ".." then return place.tail
  else if FilePath.longestName < name.utf8ByteSize then throw .nameTooLong
  else return (t.links.lookup (name :: place)).getD (name :: place)

/-- The place that is reached by one name after the other. -/
def walk (t : FileTree) (place : Location) (names : List String) : Except SystemFault Location :=
  names.foldlM t.enter place

/-- Where the walk along a path begins. -/
def start (t : FileTree) (path : FilePath) : Location := if path.absolute then [] else t.here

/-- The place that a path leads to, and what stands there.  A slash at the end asks for a
directory. -/
def find (t : FileTree) (path : FilePath) : Except SystemFault (Location × Node) := do
  let place ← t.walk (t.start path) path.names
  if path.slashed then t.requireDirectory place
  match t.node? place with
  | some node => return (place, node)
  | none => throw .noEntry

/-- Whether a place stands among those that describe the running processes, where no file can be
made. -/
def describesProcesses (place : Location) : Bool := place.getLast? == some "proc"

/-- The place of a file or device that a path leads to; if nothing stands there, a file can be made.
A slash at the end asks for a directory, whatever stands there. -/
def findForWriting (t : FileTree) (path : FilePath) : Except SystemFault Location := do
  let above ← t.walk (t.start path) path.names.dropLast
  t.requireDirectory above
  match path.slashed, path.names.getLast? with
  | false, some name =>
    let place ← t.enter above name
    match t.node? place with
    | some .directory => throw .isDirectory
    | some _ => return place
    | none => if describesProcesses place then throw .noEntry else return place
  | _, _ => throw .isDirectory

/-! ## The beginning -/

/-- The directories right below the root. -/
def topDirectories : List String :=
  ["boot", "dev", "etc", "home", "media", "mnt", "opt", "proc", "root", "run", "srv", "sys", "tmp",
   "usr", "var"]

/-- Some directories below those; of the names, the innermost comes first. -/
def innerDirectories : List Location :=
  [["pts", "dev"], ["shm", "dev"], ["self", "proc"], ["fd", "self", "proc"], ["bin", "usr"],
   ["include", "usr"], ["lib", "usr"], ["lib64", "usr"], ["local", "usr"], ["sbin", "usr"],
   ["share", "usr"], ["src", "usr"], ["cache", "var"], ["lib", "var"], ["log", "var"],
   ["tmp", "var"]]

/-- The devices. -/
def devices : List (Location × Device) :=
  [(["null", "dev"], .null), (["zero", "dev"], .null), (["random", "dev"], .null),
   (["urandom", "dev"], .null), (["full", "dev"], .full), (["1", "fd", "self", "proc"], .stdout),
   (["2", "fd", "self", "proc"], .stderr)]

/-- Files of the system that hold a text. -/
def systemTexts : List Location :=
  [["passwd", "etc"], ["group", "etc"], ["hosts", "etc"], ["hostname", "etc"],
   ["resolv.conf", "etc"], ["profile", "etc"]]

/-- A text such as those files hold. -/
def systemText : String := "root:x:0:0:root:/root:/bin/sh\n"

/-- Programs of the system. -/
def programs : List Location :=
  [["sh", "bin", "usr"], ["ls", "bin", "usr"], ["cat", "bin", "usr"], ["env", "bin", "usr"]]

/-- The working directory of a session. -/
def session : Location := ["session", "tmp"]

/-- The links of the system. -/
def systemLinks : List (Location × Location) :=
  [(["bin"], ["bin", "usr"]), (["sbin"], ["sbin", "usr"]), (["lib"], ["lib", "usr"]),
   (["lib64"], ["lib64", "usr"]), (["run", "var"], ["run"]),
   (["fd", "dev"], ["fd", "self", "proc"]), (["stdout", "dev"], ["1", "fd", "self", "proc"]),
   (["stderr", "dev"], ["2", "fd", "self", "proc"]), (["cwd", "self", "proc"], session),
   (["root", "self", "proc"], [])]

/-- The tree with an empty working directory. -/
def initial : FileTree where
  nodes :=
    (session, .directory) :: topDirectories.map (fun name => ([name], Node.directory)) ++
      innerDirectories.map (fun place => (place, Node.directory)) ++
      devices.map (fun entry => (entry.1, Node.device entry.2)) ++
      systemTexts.map (fun place => (place, Node.file systemText)) ++
      programs.map (fun place => (place, Node.binary))
  links := systemLinks
  here := session

end FileTree

end NamespaceLogging
