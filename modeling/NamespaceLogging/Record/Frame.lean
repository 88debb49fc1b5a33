import NamespaceLogging.Text.Split

/-!
# Frames of a call stack

A frame names a function by its symbol and may know the source position of the call.  The symbol
is a path of segments joined by `::`, from which the namespace and the function are read.

## Main definitions

* `Frame` and `Frame.make`: a frame; a hash at the end of the symbol is dropped.
* `Frame.namespaceName`, `Frame.function`, `Frame.className`, `Frame.package`: parts of the path.
* `Frame.isIn`: whether the code of a frame belongs to a namespace.
* `Frame.display`: the frame as it is written in a log line.
-/

set_option autoImplicit false

namespace NamespaceLogging

open Text

/-! ## Paths -/

namespace Path

/-- A path split before its last segment; a path of one segment has nothing before it. -/
def splitLast (path : List Char) : List Char × List Char :=
  (splitLast? [':', ':'] path).getD ([], path)

/-- The marker of a closure, as a segment at the end of a path. -/
def closureSuffix : List Char := "::\x7b\x7bclosure\x7d\x7d".toList

/-- A text without its prefix is shorter by just the length of the prefix. -/
theorem length_stripPrefix? {p cs rest : List Char} (h : stripPrefix? p cs = some rest) :
    rest.length + p.length = cs.length := by
  induction p generalizing cs with
  | nil =>
    simp only [stripPrefix?, Option.some.injEq] at h
    simp [h]
  | cons x p ih =>
    cases cs with
    | nil => simp [stripPrefix?] at h
    | cons c cs =>
      simp only [stripPrefix?] at h
      split at h
      · have := ih h
        simp only [List.length_cons]
        omega
      · simp at h

/-- A text without its suffix is shorter by just the length of the suffix. -/
theorem length_stripSuffix? {s cs rest : List Char} (h : stripSuffix? s cs = some rest) :
    rest.length + s.length = cs.length := by
  simp only [stripSuffix?, Option.map_eq_some_iff] at h
  obtain ⟨r, hr, rfl⟩ := h
  simpa using length_stripPrefix? hr

/-- The path without the closure markers at its end. -/
def dropClosures (path : List Char) : List Char :=
  match h : stripSuffix? closureSuffix path with
  | some rest =>
    have : rest.length < path.length := by
      have := length_stripSuffix? h
      have : closureSuffix.length = 13 := by decide
      omega
    dropClosures rest
  | none => path
  termination_by path.length

/-- Namespace and function of a symbol.  A method of a trait belongs to the type that implements
the trait: `<T as Trait>::m` and `<T>::m` are the function `m` of the namespace `T`. -/
def split (symbol : List Char) : List Char × List Char :=
  let plain := splitLast (dropClosures symbol)
  match symbol with
  | '<' :: rest =>
    match splitLast? ['>', ':', ':'] rest with
    | some (inner, method) =>
      let type := ((splitFirst? [' ', 'a', 's', ' '] inner).map Prod.fst).getD inner
      (type, (splitLast (dropClosures method)).2)
    | none => plain
  | _ => plain

/-- Whether the character is a hexadecimal digit. -/
def isHexDigit (c : Char) : Bool :=
  c.isDigit || ('a' ≤ c && c ≤ 'f') || ('A' ≤ c && c ≤ 'F')

/-- The symbol without the hash at its end: `::h` and sixteen hexadecimal digits. -/
def dropHash (symbol : List Char) : List Char :=
  match splitLast? [':', ':', 'h'] symbol with
  | some (path, hash) => if hash.length = 16 && hash.all isHexDigit then path else symbol
  | none => symbol

/-- The last component of a file path; both slashes separate components. -/
def fileName (path : List Char) : List Char :=
  (path.reverse.takeWhile fun c => c != '/' && c != '\\').reverse

end Path

/-! ## Frames -/

/-- One frame of a call stack. -/
structure Frame where
  /-- The function, as a path. -/
  symbol : String
  file : Option String
  line : Option Nat
deriving DecidableEq, Repr

namespace Frame

/-- The frame of a function; a hash at the end of the symbol is dropped. -/
def make (symbol : String) (file : Option String) (line : Option Nat) : Frame where
  symbol := String.ofList (Path.dropHash symbol.toList)
  file := file
  line := line

/-- The path before the function. -/
def namespaceName (f : Frame) : String := String.ofList (Path.split f.symbol.toList).1

/-- The last segment of the path. -/
def function (f : Frame) : String := String.ofList (Path.split f.symbol.toList).2

/-- The last segment of the namespace. -/
def className (f : Frame) : String :=
  String.ofList (Path.splitLast (Path.split f.symbol.toList).1).2

/-- The namespace without its last segment. -/
def package (f : Frame) : String :=
  String.ofList (Path.splitLast (Path.split f.symbol.toList).1).1

/-- The last component of the file. -/
def fileName (f : Frame) : Option String :=
  f.file.map fun file => String.ofList (Path.fileName file.toList)

/-- Whether the frame's namespace is the given one or lies below it. -/
def isIn (f : Frame) (ns : String) : Bool :=
  match stripPrefix? ns.toList f.namespaceName.toList with
  | some [] => true
  | some (':' :: ':' :: _) => true
  | _ => false

/-- The symbol, and in parentheses the position if the file is known. -/
def display (f : Frame) : String :=
  match f.file, f.line with
  | some file, some line => f.symbol ++ " (" ++ file ++ ":" ++ toString line ++ ")"
  | some file, none => f.symbol ++ " (" ++ file ++ ")"
  | none, _ => f.symbol

end Frame

end NamespaceLogging
