import Mathlib.Logic.Relation
import NamespaceLogging.Proofs.SourcePositions
import NamespaceLogging.Text.Pad

/-!
# Backtraces are read back

A backtrace is printed with a line for each frame and a line for its position.  Whatever colons there
are in symbols and files, and whatever words, the frames are found again in the text: the index ends with
the first `: ` because it has no colon, and behind the last two colons stand line and column because
these have none.  The same frames are found when lines are added that say nothing about a frame, or more
positions for a frame that has one, or hashes at the end of symbols.

## Main definitions

* `Path.Hash`, `Path.Hashed`: the hash at the end of a symbol.
* `Backtrace.Locating`, `Backtrace.Naming`, `Backtrace.Foreign`: the sorts of lines, by what stands in them.
* `Frame.Printable`: a frame that can be printed.
* `Backtrace.Style`: the ways to print a backtrace.
* `Backtrace.Adds`: a line is added to a backtrace, or a hash to one of its symbols.

## Main results

* `Backtrace.read_position_iff`, `Backtrace.read_symbol_iff`, `Backtrace.read_other_iff`: how lines are
  read.
* `Backtrace.collect_of_adds`: what is added does not matter.
* `Backtrace.parse_printed`: the frames of a printed backtrace are read back.
-/

set_option autoImplicit false

namespace NamespaceLogging

open Text

/-! ## Hashes -/

namespace Path

/-- A hash as it stands at the end of a symbol: `::h` and sixteen hexadecimal digits. -/
def Hash (cs : List Char) : Prop :=
  ∃ digits : List Char, digits.length = 16 ∧ (∀ c ∈ digits, isHexDigit c = true) ∧
    cs = ':' :: ':' :: 'h' :: digits

/-- The symbol has a hash at its end. -/
def Hashed (symbol : List Char) : Prop := ∃ path hash, Hash hash ∧ symbol = path ++ hash

variable {path hash symbol : List Char}

/-- A hexadecimal digit is no white space. -/
lemma isBlank_of_isHexDigit {c : Char} (h : isHexDigit c = true) : isBlank c = false := by
  simp only [isHexDigit, Char.isDigit, Bool.or_eq_true, Bool.and_eq_true, decide_eq_true_eq] at h
  have hrange : '0'.toNat ≤ c.toNat ∧ c.toNat ≤ 'f'.toNat := by
    rcases h with (⟨hlow, hhigh⟩ | ⟨hlow, hhigh⟩) | ⟨hlow, hhigh⟩
    · exact ⟨hlow, Nat.le_trans hhigh (by decide)⟩
    · exact ⟨Nat.le_trans (by decide) hlow, hhigh⟩
    · exact ⟨Nat.le_trans (by decide) hlow, Nat.le_trans hhigh (by decide)⟩
  exact isBlank_of_visible (Nat.le_trans (by decide) hrange.1) (Nat.le_trans hrange.2 (by decide))

/-- A hash behind a path is dropped, and nothing else. -/
lemma dropHash_append (h : Hash hash) : dropHash (path ++ hash) = path := by
  obtain ⟨digits, hlength, hhex, rfl⟩ := h
  have hcolon : ':' ∉ digits := fun hmem => absurd (hhex _ hmem) (by decide)
  have hbehind : splitLast? [':', ':', 'h'] ([':', 'h'] ++ digits) = none := by
    simp [splitLast?, splitLast?_of_notMem hcolon, stripPrefix?]
  have hsplit : splitLast? [':', ':', 'h'] (path ++ ':' :: ':' :: 'h' :: digits) =
      some (path, digits) := splitLast?_append hbehind
  have hall : digits.all isHexDigit = true := List.all_eq_true.mpr hhex
  simp [dropHash, hsplit, hlength, hall]

/-- A symbol without a hash stays as it is. -/
lemma dropHash_eq_self (h : ¬ Hashed symbol) : dropHash symbol = symbol := by
  rw [dropHash]
  split
  · rename_i path digits hsplit
    refine if_neg fun hhash => h ?_
    simp only [Bool.and_eq_true, decide_eq_true_eq, List.all_eq_true] at hhash
    exact ⟨path, _, ⟨digits, hhash.1, hhash.2, rfl⟩, eq_append_of_splitLast? hsplit⟩
  · rfl

/-- A symbol has a hash if one is dropped. -/
lemma hashed_iff : Hashed symbol ↔ dropHash symbol ≠ symbol := by
  refine ⟨?_, fun hne => by_contra fun h => hne (dropHash_eq_self h)⟩
  rintro ⟨path, hash, hhash, rfl⟩ hsame
  rw [dropHash_append hhash] at hsame
  obtain ⟨digits, -, -, rfl⟩ := hhash
  simp at hsame

instance : DecidablePred Hashed := fun _ => decidable_of_iff _ hashed_iff.symm

/-- A symbol with a hash is trimmed if it is without. -/
lemma Hash.trim_append (h : Hash hash) (hpath : trim path = path) :
    trim (path ++ hash) = path ++ hash := by
  obtain ⟨digits, hlength, hhex, rfl⟩ := h
  have hne : digits ≠ [] := by
    rintro rfl
    simp at hlength
  obtain ⟨init, d, rfl⟩ := (List.eq_nil_or_concat digits).resolve_left hne
  have hd : isBlank d = false := isBlank_of_isHexDigit (hhex d (by simp))
  have hlast : ':' :: ':' :: 'h' :: init.concat d = (':' :: ':' :: 'h' :: init) ++ [d] := by simp
  exact Text.trim_append hpath rfl (by decide) hlast hd

end Path

namespace Backtrace

/-! ## The sorts of lines -/

/-- The line gives a position. -/
def Locating (line location : List Char) : Prop :=
  ∃ blanks, Blank blanks ∧ line = blanks ++ 'a' :: 't' :: ' ' :: location

/-- The line gives an index and a path, with whatever white space there is at its ends. -/
def Naming (line path : List Char) : Prop :=
  ∃ blanks digit index, Blank blanks ∧ (∀ c ∈ digit :: index, c.isDigit = true) ∧
    line = blanks ++ (digit :: index ++ ':' :: ' ' :: path)

/-- The line says nothing about a frame. -/
def Foreign (line : List Char) : Prop :=
  (∀ location, ¬ Locating line location) ∧ ∀ path, ¬ Naming line path

variable {line location path hash : List Char} {c : Char}

/-- A decimal digit is no white space. -/
lemma isBlank_of_isDigit (h : c.isDigit = true) : isBlank c = false :=
  Path.isBlank_of_isHexDigit (by simp [Path.isHexDigit, h])

/-- A line with a position is read as that position. -/
lemma read_of_locating (h : Locating line location) : Line.read line = .position location := by
  obtain ⟨blanks, hblanks, rfl⟩ := h
  have hstrip : stripPrefix? ['a', 't', ' '] ('a' :: 't' :: ' ' :: location) = some location :=
    stripPrefix?_eq_some_iff.mpr rfl
  rw [Line.read, trimStart_of_blank hblanks (by decide), hstrip]

/-- An index has no colon, so that it ends with the first `: `. -/
lemma read_of_naming (h : Naming line path) : Line.read line = .symbol (trim path) := by
  obtain ⟨blanks, digit, index, hblanks, hindex, rfl⟩ := h
  have hdigit : digit.isDigit = true := hindex digit List.mem_cons_self
  have hcolon : ':' ∉ digit :: index := fun hmem => absurd (hindex _ hmem) (by decide)
  have hstrip : stripPrefix? ['a', 't', ' '] (digit :: (index ++ ':' :: ' ' :: path)) = none := by
    have hne : ('a' == digit) = false := by
      rw [beq_eq_false_iff_ne]
      rintro rfl
      exact absurd hdigit (by decide)
    simp [stripPrefix?, hne]
  have hsplit : splitFirst? [':', ' '] (digit :: (index ++ ':' :: ' ' :: path)) =
      some (digit :: index, path) := splitFirst?_append hcolon
  have hall : (digit :: index).all Char.isDigit = true := List.all_eq_true.mpr hindex
  rw [Line.read, List.cons_append, trimStart_of_blank hblanks (isBlank_of_isDigit hdigit), hstrip]
  simp only [hsplit, hall, List.isEmpty_cons, Bool.not_false, Bool.and_self, if_true]

/-- Every line is of one of the sorts, and is read as what it is. -/
lemma read_cases (line : List Char) :
    (∃ location, Line.read line = .position location ∧ Locating line location) ∨
      (∃ path, Line.read line = .symbol (trim path) ∧ Naming line path) ∨
      Line.read line = .other := by
  obtain ⟨blanks, hblanks, hsplit⟩ := exists_trimStart line
  rw [Line.read]
  split
  · rename_i location hstrip
    rw [stripPrefix?_eq_some_iff] at hstrip
    exact .inl ⟨location, rfl, blanks, hblanks, by rw [hsplit, hstrip]; rfl⟩
  · split
    · rename_i index path hindex
      split
      · rename_i hdigits
        simp only [Bool.and_eq_true, Bool.not_eq_true', List.isEmpty_eq_false_iff,
          List.all_eq_true] at hdigits
        obtain ⟨digit, more, rfl⟩ := List.exists_cons_of_ne_nil hdigits.1
        refine .inr (.inl ⟨path, rfl, blanks, digit, more, hblanks, hdigits.2, ?_⟩)
        rw [hsplit, eq_append_of_splitFirst? hindex]
        rfl
      · exact .inr (.inr rfl)
    · exact .inr (.inr rfl)

/-- **A line is read as a position if it gives one.** -/
lemma read_position_iff : Line.read line = .position location ↔ Locating line location := by
  refine ⟨fun h => ?_, read_of_locating⟩
  rcases read_cases line with ⟨location', hread, hlocating⟩ | ⟨path, hread, -⟩ | hread <;>
    rw [hread] at h
  · obtain rfl := Line.position.inj h
    exact hlocating
  · cases h
  · cases h

/-- **A line is read as a symbol if it gives one**, without the white space at its ends. -/
lemma read_symbol_iff : Line.read line = .symbol path ↔
    ∃ written, Naming line written ∧ path = trim written := by
  constructor
  · intro h
    rcases read_cases line with ⟨location, hread, -⟩ | ⟨written, hread, hnaming⟩ | hread <;>
      rw [hread] at h
    · cases h
    · exact ⟨written, hnaming, (Line.symbol.inj h).symm⟩
    · cases h
  · rintro ⟨written, hnaming, rfl⟩
    exact read_of_naming hnaming

/-- **All other lines are foreign.** -/
lemma read_other_iff : Line.read line = .other ↔ Foreign line := by
  constructor
  · intro h
    refine ⟨fun location hlocating => ?_, fun path hnaming => ?_⟩
    · cases h.symm.trans (read_of_locating hlocating)
    · cases h.symm.trans (read_of_naming hnaming)
  · rintro ⟨hlocating, hnaming⟩
    rcases read_cases line with ⟨location, -, h⟩ | ⟨path, -, h⟩ | hread
    · exact absurd h (hlocating location)
    · exact absurd h (hnaming path)
    · exact hread

/-! ## What is added -/

/-- One backtrace is another one to which a foreign line was added, or a position behind one that is
there, or a hash to a symbol that has none. -/
inductive Adds : List (List Char) → List (List Char) → Prop
  | foreign {before after : List (List Char)} {line : List Char} (h : Foreign line) :
      Adds (before ++ after) (before ++ line :: after)
  | position {before after : List (List Char)} {line more location location' : List Char}
      (h : Locating line location) (hmore : Locating more location') :
      Adds (before ++ line :: after) (before ++ line :: more :: after)
  | hash {before after : List (List Char)} {line path hash : List Char} (h : Naming line path)
      (htrimmed : trim path = path) (hunhashed : ¬ Path.Hashed path) (hhash : Path.Hash hash) :
      Adds (before ++ line :: after) (before ++ (line ++ hash) :: after)

variable {frames : List Frame} {ls ls' : List (List Char)} {f : Frame}

/-- Lines can be collected in two parts: the frames of the first part go on growing in the second
one. -/
lemma collect_append (frames : List Frame) (read more : List Line) :
    collect frames (read ++ more) = collect (collect frames read).reverse more := by
  induction read generalizing frames with
  | nil => simp [collect]
  | cons line read ih =>
    cases line with
    | symbol path => simp only [List.cons_append, collect, ih]
    | position location => cases frames <;> simp only [List.cons_append, collect, ih]
    | other => simp only [List.cons_append, collect, ih]

/-- A frame that has a position keeps it. -/
lemma locate_locate (location location' : List Char) (f : Frame) :
    locate location' (locate location f) = locate location f := by
  by_cases hnone : f.file.isNone = true
  · simp [locate, hnone]
  · simp [locate, hnone]

/-- **What is added does not matter.** -/
lemma collect_of_adds (h : Adds ls ls') :
    collect frames (ls'.map Line.read) = collect frames (ls.map Line.read) := by
  cases h with
  | foreign hforeign =>
    simp only [List.map_append, List.map_cons, collect_append, read_other_iff.mpr hforeign, collect]
  | @position before after _ _ _ _ hlocating hmore =>
    simp only [List.map_append, List.map_cons, collect_append, read_of_locating hlocating,
      read_of_locating hmore]
    cases (collect frames (before.map Line.read)).reverse with
    | nil => rfl
    | cons f earlier => simp only [collect, locate_locate]
  | @hash before after line path hash hnaming htrimmed hunhashed hhash =>
    obtain ⟨blanks, digit, index, hblanks, hindex, rfl⟩ := hnaming
    have hnaming : Naming (blanks ++ (digit :: index ++ ':' :: ' ' :: path)) path :=
      ⟨blanks, digit, index, hblanks, hindex, rfl⟩
    have hlonger : Naming (blanks ++ (digit :: index ++ ':' :: ' ' :: path) ++ hash) (path ++ hash) :=
      ⟨blanks, digit, index, hblanks, hindex, by simp⟩
    have hframe : Frame.make (String.ofList (path ++ hash)) none none =
        Frame.make (String.ofList path) none none := by
      simp [Frame.make, Path.dropHash_append hhash, Path.dropHash_eq_self hunhashed]
    simp only [List.map_append, List.map_cons, collect_append, read_of_naming hnaming,
      read_of_naming hlonger, hhash.trim_append htrimmed, htrimmed, collect, hframe]

/-- However much is added, the same frames are found. -/
lemma collect_of_added (h : Relation.ReflTransGen Adds ls ls') :
    collect [] (ls'.map Line.read) = collect [] (ls.map Line.read) := by
  induction h with
  | refl => rfl
  | tail _ hadds ih => exact (collect_of_adds hadds).trans ih

end Backtrace

/-! ## Printed backtraces -/

/-- The frame can be printed so that it is read back: the symbol is trimmed, has no line feed in it and
no hash at its end, and there is either no position, or a file without a line feed and a line number of
32 bits. -/
structure Frame.Printable (f : Frame) : Prop where
  trimmed : trim f.symbol.toList = f.symbol.toList
  unbroken : '\n' ∉ f.symbol.toList
  unhashed : ¬ Path.Hashed f.symbol.toList
  position : (f.file = none ∧ f.line = none) ∨ ∃ file line, f.file = some file ∧
    f.line = some line ∧ '\n' ∉ file.toList ∧ line < Nat.pow 2 32

namespace Backtrace

/-- A way to print a backtrace: the width to which indices are filled up, the number of spaces in front
of a position, and the column of each position. -/
structure Style where
  width : Nat
  indent : Nat
  column : Nat → Nat

namespace Style

/-- The index of a frame, on the right, and its symbol. -/
def symbolLine (style : Style) (i : Nat) (symbol : String) : List Char :=
  pad ' ' .right style.width (Nat.toDigits 10 i) ++ ':' :: ' ' :: symbol.toList

/-- The position of a frame. -/
def positionLine (style : Style) (i : Nat) (file : String) (line : Nat) : List Char :=
  List.replicate style.indent ' ' ++ 'a' :: 't' :: ' ' ::
    (file.toList ++ ':' :: (Nat.toDigits 10 line ++ ':' :: Nat.toDigits 10 (style.column i)))

/-- The lines of a frame. -/
def frameLines (style : Style) (f : Frame) (i : Nat) : List (List Char) :=
  style.symbolLine i f.symbol ::
    match f.file, f.line with
    | some file, some line => [style.positionLine i file line]
    | _, _ => []

/-- The lines of frames, of which the first has the index `i`. -/
def lines (style : Style) (frames : List Frame) (i : Nat) : List (List Char) :=
  (frames.zipIdx i).flatMap fun entry => style.frameLines entry.1 entry.2

end Style

variable {style : Style} {frames : List Frame} {f : Frame} {i : Nat} {ls : List (List Char)}

/-- In every style, the line that is printed for a symbol names that symbol. -/
lemma naming_symbolLine (style : Style) (i : Nat) (symbol : String) :
    Naming (style.symbolLine i symbol) symbol.toList := by
  obtain ⟨digit, index, hdigits⟩ :=
    List.exists_cons_of_ne_nil (Nat.toDigits_ne_nil (n := i) (b := 10))
  refine ⟨List.replicate (style.width - (Nat.toDigits 10 i).length) ' ', digit, index, ?_, ?_, ?_⟩
  · intro c hc
    rw [List.eq_of_mem_replicate hc]
    decide
  · intro c hc
    exact isDigit_of_mem_toDigits (hdigits ▸ hc)
  · rw [Style.symbolLine, pad, ← hdigits, List.append_assoc]

/-- In every style, the line that is printed for a position has the file, the line number and a
column in it. -/
lemma locating_positionLine (style : Style) (i : Nat) (file : String) (line : Nat) :
    Locating (style.positionLine i file line)
      (file.toList ++ ':' :: (Nat.toDigits 10 line ++ ':' :: Nat.toDigits 10 (style.column i))) := by
  refine ⟨List.replicate style.indent ' ', fun c hc => ?_, rfl⟩
  rw [List.eq_of_mem_replicate hc]
  decide

/-- **The lines of a frame are read as that frame.** -/
lemma collect_frameLines (h : f.Printable) (style : Style) (i : Nat) (frames : List Frame)
    (more : List Line) :
    collect frames ((style.frameLines f i).map Line.read ++ more) = collect (f :: frames) more := by
  obtain ⟨symbol, file, line⟩ := f
  have hread := read_of_naming (naming_symbolLine style i symbol)
  rw [h.trimmed] at hread
  have hframe : Frame.make (String.ofList symbol.toList) none none = ⟨symbol, none, none⟩ := by
    simp [Frame.make, Path.dropHash_eq_self h.unhashed]
  rcases h.position with ⟨hfile, hline⟩ | ⟨file', n, hfile, hline, -, hn⟩
  · obtain rfl : file = none := hfile
    obtain rfl : line = none := hline
    simp only [Style.frameLines, List.map_cons, List.map_nil, List.cons_append, List.nil_append, hread,
      collect, hframe]
  · obtain rfl : file = some file' := hfile
    obtain rfl : line = some n := hline
    have hlocate : locate (file'.toList ++ ':' :: (Nat.toDigits 10 n ++ ':' ::
        Nat.toDigits 10 (style.column i))) ⟨symbol, none, none⟩ = ⟨symbol, some file', some n⟩ := by
      simp [locate, splitLocation_printed hn]
    simp only [Style.frameLines, List.map_cons, List.map_nil, List.cons_append, List.nil_append, hread,
      read_of_locating (locating_positionLine style i file' n), collect, hframe, hlocate]

/-- The frames of printed lines are read back behind those that were read before. -/
lemma collect_lines (h : ∀ f ∈ frames, f.Printable) (style : Style) (i : Nat)
    (earlier : List Frame) :
    collect earlier ((style.lines frames i).map Line.read) = earlier.reverse ++ frames := by
  induction frames generalizing i earlier with
  | nil => simp [Style.lines, collect]
  | cons f frames ih =>
    have hlines : style.lines (f :: frames) i = style.frameLines f i ++ style.lines frames (i + 1) := by
      rw [Style.lines, List.zipIdx_cons, List.flatMap_cons]
      rfl
    rw [hlines, List.map_append, collect_frameLines (h f List.mem_cons_self),
      ih (fun f hf => h f (List.mem_cons_of_mem _ hf))]
    simp

/-- There is no line break in a number. -/
lemma newline_notMem_toDigits (n : Nat) : '\n' ∉ Nat.toDigits 10 n := notMem_toDigits (by decide) n

/-- There is no line break in the line that is printed for a symbol. -/
lemma unbroken_symbolLine (h : f.Printable) (style : Style) (i : Nat) :
    Unbroken (style.symbolLine i f.symbol) := by
  constructor
  · simp [Style.symbolLine, pad, newline_notMem_toDigits, h.unbroken]
  · by_cases hnil : f.symbol.toList = []
    · simp [Style.symbolLine, hnil]
    · obtain ⟨init, d, hsymbol, hd⟩ := trim_last (h.trimmed.symm ▸ hnil)
      rw [h.trimmed] at hsymbol
      have hlast : (style.symbolLine i f.symbol).getLast? = some d := by
        simp [Style.symbolLine, hsymbol, List.getLast?_cons]
      rw [hlast]
      rintro ⟨rfl⟩
      exact absurd hd (by decide)

/-- There is no line break in the line that is printed for a position, if there is none in the name
of the file. -/
lemma unbroken_positionLine {file : String} (hfile : '\n' ∉ file.toList) (style : Style)
    (i line : Nat) : Unbroken (style.positionLine i file line) := by
  constructor
  · simp [Style.positionLine, newline_notMem_toDigits, hfile]
  · obtain ⟨init, d, hcolumn⟩ :=
      (List.eq_nil_or_concat (Nat.toDigits 10 (style.column i))).resolve_left Nat.toDigits_ne_nil
    have hlast : (style.positionLine i file line).getLast? = some d := by
      simp [Style.positionLine, hcolumn, List.getLast?_cons]
    have hd : d.isDigit = true := isDigit_of_mem_toDigits (n := style.column i) (by simp [hcolumn])
    rw [hlast]
    rintro ⟨rfl⟩
    exact absurd hd (by decide)

/-- No printed line has a line break in it, and each has something in it. -/
lemma unbroken_of_mem_lines (h : ∀ f ∈ frames, f.Printable) {l : List Char}
    (hl : l ∈ style.lines frames i) : Unbroken l ∧ l ≠ [] := by
  obtain ⟨⟨f, k⟩, hentry, hl⟩ := List.mem_flatMap.mp hl
  have hf : f.Printable := h f (List.fst_mem_of_mem_zipIdx hentry)
  rcases List.mem_cons.mp hl with rfl | hl
  · exact ⟨unbroken_symbolLine hf style k, by simp [Style.symbolLine]⟩
  · split at hl
    · rename_i file line hfile hline
      rw [List.mem_singleton.mp hl]
      rcases hf.position with ⟨hnone, -⟩ | ⟨file', line', hfile', -, hbreak, -⟩
      · simp [hnone] at hfile
      · obtain rfl : file' = file := by simpa [hfile'] using hfile
        exact ⟨unbroken_positionLine hbreak style k line, by simp [Style.positionLine]⟩
    · simp at hl

/-- **Backtraces are read back.**  Frames that are printed in any way are read back from the text,
whether there is a line feed behind the last line or not, and also from every text in which foreign
lines, more positions behind the first one of a frame, and hashes at the end of symbols were added.

**Proof sketch.**  A printed line is read as what was printed: the index has no colon, nor have line and
column, and a symbol begins behind the first `: ` and a file behind `at `.  Added foreign lines are not
read, a frame that has a position keeps it, and a hash is dropped where a frame is made. -/
theorem parse_printed (style : Style) (frames : List Frame) (h : ∀ f ∈ frames, f.Printable) :
    let printed := style.lines frames 0
    parse (String.ofList (unlines printed)) = frames ∧
    parse (String.ofList (['\n'].intercalate printed)) = frames ∧
    ∀ ls, Relation.ReflTransGen Adds printed ls →
      (∀ text : String, lines text.toList = ls → parse text = frames) ∧
      ((∀ l ∈ ls, Unbroken l) → parse (String.ofList (unlines ls)) = frames) := by
  intro printed
  have hall : ∀ ls, Relation.ReflTransGen Adds printed ls →
      ∀ text : String, lines text.toList = ls → parse text = frames := by
    intro ls hadded text hlines
    rw [parse, hlines, collect_of_added hadded]
    exact collect_lines h style 0 []
  have hunlines : ∀ ls, Relation.ReflTransGen Adds printed ls → (∀ l ∈ ls, Unbroken l) →
      parse (String.ofList (unlines ls)) = frames := by
    intro ls hadded hunbroken
    refine hall ls hadded _ ?_
    rw [String.toList_ofList, lines_unlines hunbroken]
  have hprinted : ∀ l ∈ printed, Unbroken l := fun l hl => (unbroken_of_mem_lines h hl).1
  refine ⟨hunlines printed .refl hprinted, hall printed .refl _ ?_, fun ls hadded =>
    ⟨hall ls hadded, hunlines ls hadded⟩⟩
  rw [String.toList_ofList, lines_joined hprinted]
  intro hlast
  exact (unbroken_of_mem_lines h (List.mem_of_getLast? hlast)).2 rfl

/-- A frame with as many colons as can be, and one with nothing at all. -/
def colonFrames : List Frame :=
  [⟨"<a: at b:1:2 as c>::h01", some " at d: e:7:8", some 4294967295⟩, ⟨"", none, none⟩]

/-- A usual way to print a backtrace. -/
def usualStyle : Style := ⟨4, 13, fun i => 5 + i⟩

/-- The printed lines of the two frames, a remark in front of them, a second position behind the first
one, and a hash behind the symbol that is empty. -/
def colonLines : List (List Char) :=
  ["stack backtrace: 0:x".toList, usualStyle.symbolLine 0 "<a: at b:1:2 as c>::h01",
    usualStyle.positionLine 0 " at d: e:7:8" 4294967295, "  at inlined.rs:9:1".toList,
    usualStyle.symbolLine 1 "" ++ "::h0123456789abcDEF".toList]

/-- The colons in the frames do not mislead, nor does what is added to their lines. -/
theorem parse_printed_of_colons :
    (∀ f ∈ colonFrames, f.Printable) ∧
    Relation.ReflTransGen Adds (usualStyle.lines colonFrames 0) colonLines ∧
    parse (String.ofList (unlines (usualStyle.lines colonFrames 0))) = colonFrames ∧
    parse (String.ofList (unlines colonLines)) = colonFrames := by
  have hprintable : ∀ f ∈ colonFrames, f.Printable := by
    intro f hf
    simp only [colonFrames, List.mem_cons, List.not_mem_nil, or_false] at hf
    rcases hf with rfl | rfl
    · exact ⟨by decide +kernel, by decide, by decide +kernel,
        .inr ⟨_, _, rfl, rfl, by decide, by decide⟩⟩
    · exact ⟨by decide, by decide, by decide, .inl ⟨rfl, rfl⟩⟩
  have hremark : Foreign "stack backtrace: 0:x".toList := read_other_iff.mp (by decide +kernel)
  have hmore : Locating "  at inlined.rs:9:1".toList "inlined.rs:9:1".toList :=
    read_position_iff.mp (by decide +kernel)
  have hhash : Path.Hash "::h0123456789abcDEF".toList :=
    ⟨"0123456789abcDEF".toList, by decide, List.all_eq_true.mp (by decide), rfl⟩
  have hadded : Relation.ReflTransGen Adds (usualStyle.lines colonFrames 0) colonLines := by
    set first := usualStyle.symbolLine 0 "<a: at b:1:2 as c>::h01"
    set position := usualStyle.positionLine 0 " at d: e:7:8" 4294967295
    set second := usualStyle.symbolLine 1 ""
    set remark := "stack backtrace: 0:x".toList
    set more := "  at inlined.rs:9:1".toList
    have hfirst : Adds ([] ++ [first, position, second]) ([] ++ remark :: [first, position, second]) :=
      .foreign hremark
    have hsecond : Adds ([remark, first] ++ position :: [second])
        ([remark, first] ++ position :: more :: [second]) :=
      .position (locating_positionLine usualStyle 0 _ _) hmore
    have hthird : Adds ([remark, first, position, more] ++ second :: [])
        ([remark, first, position, more] ++ (second ++ "::h0123456789abcDEF".toList) :: []) :=
      .hash (naming_symbolLine usualStyle 1 "") (by decide) (by decide) hhash
    exact .tail (.tail (.single hfirst) hsecond) hthird
  obtain ⟨hprinted, -, hadds⟩ := parse_printed usualStyle colonFrames hprintable
  exact ⟨hprintable, hadded, hprinted, (hadds _ hadded).2 (by decide +kernel)⟩

end Backtrace

end NamespaceLogging
