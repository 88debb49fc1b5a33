import NamespaceLogging.Proofs.LayoutPrinting
import NamespaceLogging.Proofs.LocatedFrames

/-!
# Positions of records

A record shows the file and the line of the frame of its call, and for what the frame does not know, that
of the call site.  The file and the line fall back one by one.  A frame that was read from a backtrace
knows no line without a file, but it knows a file without a line if no line was found in its position.
Then the record shows the file of one source with the line of the other.

## Main definitions

* `SourcePosition`: a source file and a line of it.
* `Record.Reported`: the positions that the sources of a record report.
* `Record.Mixes`: the frame of the call knows a file, and not the line.

## Main results

* `SourcePosition.text_inj`: a position is known from its text.
* `Record.reported_position_iff`: the position of a record is one that is reported, unless the record mixes
  its sources.
* `Record.mixes_iff`: when a record does so, as seen in the backtrace.
* `Record.position_from_one_source_iff`: all of it, and what a layout shows then.
-/

set_option autoImplicit false

namespace NamespaceLogging

open Text Backtrace

/-- A position as it is shown: the name of a source file, and a line of it. -/
@[ext]
structure SourcePosition where
  file : String
  line : Nat
deriving DecidableEq, Repr

/-- The position as a layout with file and line shows it. -/
def SourcePosition.text (p : SourcePosition) : String := p.file ++ ":" ++ toString p.line

/-- The position that the frame reports, if it knows both file and line. -/
def Frame.position? (f : Frame) : Option SourcePosition :=
  match f.fileName, f.line with
  | some file, some line => some ⟨file, line⟩
  | _, _ => none

/-- The position that the call site reports. -/
def CallSite.position (site : CallSite) : SourcePosition :=
  ⟨String.ofList (Path.fileName site.file.toList), site.line⟩

namespace Record

/-- The position that the record shows. -/
def position (r : Record) : SourcePosition := ⟨r.fileName, r.line⟩

/-- The call site reports the position, or the frame of the call does. -/
def Reported (r : Record) (p : SourcePosition) : Prop :=
  p = r.site.position ∨ ∃ f ∈ r.location, f.position? = some p

/-- The frame of the call knows a file and no line, and the file is another one than that of the call
site. -/
def Mixes (r : Record) : Prop :=
  ∃ f ∈ r.location, ∃ file, f.fileName = some file ∧ f.line = none ∧ file ≠ r.site.position.file

end Record

/-! ## Texts of positions -/

namespace SourcePosition

variable {p q : SourcePosition}

/-- The text of a position is the file, a colon and the line number. -/
lemma toList_text (p : SourcePosition) :
    p.text.toList = p.file.toList ++ ':' :: Nat.toDigits 10 p.line := by
  simp [text]

/-- **A position is known from its text**, whatever colons there are in the name of the file. -/
lemma text_inj : p.text = q.text ↔ p = q := by
  refine ⟨fun h => ?_, congrArg text⟩
  have htexts := congrArg String.toList h
  rw [toList_text, toList_text] at htexts
  obtain ⟨hfile, hdigits⟩ := eq_of_last_colon htexts (notMem_toDigits (by decide) p.line)
    (notMem_toDigits (by decide) q.line)
  have hline : p.line = q.line := by
    rw [← decimalValue_toDigits p.line, hdigits, decimalValue_toDigits]
  exact SourcePosition.ext (String.toList_inj.mp hfile) hline

end SourcePosition

namespace Record

variable {r : Record} {text : String} {f : Frame} {file : String} {n : Nat}

/-! ## Two sources -/

/-- Without a file or a line in its first frame, a record is where it was called from. -/
lemma position_of_no_file (hfile : r.location.bind Frame.fileName = none)
    (hline : r.location.bind Frame.line = none) : r.position = r.site.position := by
  rw [position, fileName, line, hfile, hline]
  rfl

/-- With a file and a line in its first frame, a record is there. -/
lemma position_of_line (hlocation : r.location = some f) (hfile : f.fileName = some file)
    (hline : f.line = some n) : r.position = ⟨file, n⟩ := by
  rw [position, fileName, line, hlocation, Option.bind_some, Option.bind_some, hfile, hline]
  rfl

/-- With a file but no line in its first frame, a record has that file and the line of the call
site. -/
lemma position_of_no_line (hlocation : r.location = some f) (hfile : f.fileName = some file)
    (hline : f.line = none) : r.position = ⟨file, r.site.line⟩ := by
  rw [position, fileName, line, hlocation, Option.bind_some, Option.bind_some, hfile, hline]
  rfl

/-- **The position of a record is one that is reported**, unless the record mixes its sources. -/
lemma reported_position_iff (h : ∀ f ∈ r.location, f.file = none → f.line = none) :
    r.Reported r.position ↔ ¬ r.Mixes := by
  cases hlocation : r.location with
  | none =>
    have hsite := position_of_no_file (r := r) (by rw [hlocation]; rfl) (by rw [hlocation]; rfl)
    exact iff_of_true (.inl hsite) (by simp [Mixes, hlocation])
  | some f =>
    cases hfile : f.fileName with
    | none =>
      have hline : f.line = none := h f hlocation (Option.map_eq_none_iff.mp hfile)
      have hsite := position_of_no_file (r := r) (by rw [hlocation]; exact hfile)
        (by rw [hlocation]; exact hline)
      exact iff_of_true (.inl hsite) (by simp [Mixes, hlocation, hfile])
    | some file =>
      cases hline : f.line with
      | some n =>
        rw [position_of_line hlocation hfile hline]
        have hframe : f.position? = some ⟨file, n⟩ := by rw [Frame.position?, hfile, hline]
        exact iff_of_true (.inr ⟨f, hlocation, hframe⟩) (by simp [Mixes, hlocation, hline])
      | none =>
        rw [position_of_no_line hlocation hfile hline]
        have hframe : f.position? = none := by rw [Frame.position?, hfile, hline]
        simp [Reported, Mixes, hlocation, hfile, hline, hframe, SourcePosition.ext_iff,
          CallSite.position]

/-- A frame that was read from a backtrace knows no line without a file. -/
lemma line_of_mem_parse (h : f ∈ parse text) (hfile : f.file = none) : f.line = none := by
  rcases placed_of_mem h with ⟨-, hline⟩ | ⟨_, _, _, -, rfl⟩
  · exact hline
  · cases hfile

/-- **When a record mixes its sources**, as seen in the backtrace. -/
lemma mixes_iff (h : ∀ f ∈ r.location, f ∈ parse text) : r.Mixes ↔ ∃ before symbol location,
    FirstPosition (lines text.toList) before symbol location ∧
      r.location = some (located symbol location) ∧ (∀ file n, ¬ Reports location file n) ∧
      r.position = ⟨String.ofList (Path.fileName location), r.site.line⟩ ∧
      r.position.file ≠ r.site.position.file := by
  have hname : ∀ symbol location, (∀ file n, ¬ Reports location file n) →
      (located symbol location).fileName = some (String.ofList (Path.fileName location)) := by
    intro symbol location hnone
    rw [located_of_unreported symbol hnone]
    simp [Frame.fileName, Frame.make]
  constructor
  · rintro ⟨f, hlocation, file, hfile, hline, hne⟩
    have hposition := position_of_no_line hlocation hfile hline
    rcases placed_of_mem (h f hlocation) with ⟨hnone, -⟩ | ⟨before, symbol, location, hfirst, rfl⟩
    · rw [Frame.fileName, hnone] at hfile
      cases hfile
    · have hnone := unreported_of_line hline
      obtain rfl := Option.some.inj (hfile.symm.trans (hname symbol location hnone))
      exact ⟨before, symbol, location, hfirst, hlocation, hnone, hposition, hposition ▸ hne⟩
  · rintro ⟨before, symbol, location, hfirst, hlocation, hnone, hposition, hne⟩
    rw [hposition] at hne
    refine ⟨_, hlocation, _, hname symbol location hnone, ?_, hne⟩
    rw [located_of_unreported symbol hnone]
    rfl

/-! ## What a layout shows -/

/-- The layout that shows file and line. -/
def positionLayout : Layout :=
  ⟨[.token .file, .text [':'], .token .line], Layout.defaultTimeFormat, Cause.defaultFrameCap⟩

/-- The pattern with a file and a line is accepted. -/
lemma parse_positionLayout : Layout.parse "\x7bfile\x7d:\x7bline\x7d" = .ok positionLayout := by
  have hnormal : Layout.NormalForm positionLayout.pieces :=
    ⟨by decide, by simp [positionLayout, LayoutPiece.isText]⟩
  have hprint : Layout.print positionLayout.pieces = "\x7bfile\x7d:\x7bline\x7d" := by decide +kernel
  exact hprint ▸ Layout.parse_print hnormal

/-- Laid out by that pattern, a record shows its position, and is not rendered. -/
lemma render_positionLayout (r : Record) :
    positionLayout.render r = .ok (r.position.text, r) := by
  have hline : positionLayout.line r = r.position.text := by
    simp [Layout.line, positionLayout, Layout.pieceText, Layout.tokenText, String.join,
      SourcePosition.text, position]
  rw [← hline]
  rfl

/-- **The position of a record comes from one source, unless the frame of the call has a position without a
line.**  The file and the line that a record shows are both those of the call site or both those of the
frame of its call, unless this frame knows a file other than that of the call site, and no line.  A frame
of a backtrace is like this if and only if no line is found in the first position below its symbol.  Then
the record shows the last segment of that whole position for its file, with the line of the call site, and
the text that a layout shows of file and line is that of no position that is reported.

**Proof sketch.** File and line of a frame fall back one by one; a frame of a backtrace that has no file has
no line either, so that it is only the line that can be missing.  A position is known from its text, since
a line number has no colon. -/
theorem position_from_one_source_iff (r : Record) (text : String)
    (h : ∀ f ∈ r.location, f ∈ parse text) :
    (r.Reported r.position ↔ ¬ r.Mixes) ∧
    (r.Mixes ↔ ∃ before symbol location,
      FirstPosition (lines text.toList) before symbol location ∧
        r.location = some (located symbol location) ∧ (∀ file n, ¬ Reports location file n) ∧
        r.position = ⟨String.ofList (Path.fileName location), r.site.line⟩ ∧
        r.position.file ≠ r.site.position.file) ∧
    ∃ layout, Layout.parse "\x7bfile\x7d:\x7bline\x7d" = .ok layout ∧
      layout.render r = .ok (r.position.text, r) ∧
      ((∃ p, r.Reported p ∧ r.position.text = p.text) ↔ ¬ r.Mixes) := by
  have hreported : r.Reported r.position ↔ ¬ r.Mixes :=
    reported_position_iff fun f hf => line_of_mem_parse (h f hf)
  refine ⟨hreported, mixes_iff h, positionLayout, parse_positionLayout, render_positionLayout r, ?_⟩
  rw [← hreported]
  constructor
  · rintro ⟨p, hp, htext⟩
    rwa [SourcePosition.text_inj.mp htext]
  · exact fun hposition => ⟨r.position, hposition, rfl⟩

/-- A record of a call in a pool, with a backtrace. -/
def ofPool (text : String) : Record :=
  ((make .info "x" ⟨2024, 1, 2, 3, 4, 5, 0⟩ "main").withSite ⟨"app::db", "src/db.rs", 12⟩).withStack
    (parse text)

/-- Without a column the position with the drive letter is mixed with that of the call site, and with one it
is not. -/
theorem position_from_one_source_of_drive :
    let bare := "   0: app::db::Pool::get\nat C:\\app\\pool.rs:30\n"
    let full := "   0: app::db::Pool::get\nat C:\\app\\pool.rs:30:5\n"
    ((∀ f ∈ (ofPool bare).location, f ∈ parse bare) ∧ (ofPool bare).position = ⟨"pool.rs:30", 12⟩ ∧
      ¬ (ofPool bare).Reported (ofPool bare).position) ∧
    (∀ f ∈ (ofPool full).location, f ∈ parse full) ∧ (ofPool full).position = ⟨"pool.rs", 30⟩ ∧
      (ofPool full).Reported (ofPool full).position := by
  intro bare full
  have hmem : ∀ text, ∀ f ∈ (ofPool text).location, f ∈ parse text := fun text f =>
    List.mem_of_mem_head?
  have hbare : (ofPool bare).location =
      some ⟨"app::db::Pool::get", some "C:\\app\\pool.rs:30", none⟩ := by decide +kernel
  have hfull : (ofPool full).location =
      some ⟨"app::db::Pool::get", some "C:\\app\\pool.rs", some 30⟩ := by decide +kernel
  have hmixes : (ofPool bare).Mixes :=
    ⟨_, hbare, "pool.rs:30", by decide +kernel, rfl, by decide +kernel⟩
  have hkeeps : ¬ (ofPool full).Mixes := by
    rintro ⟨f, hf, -, -, hline, -⟩
    obtain rfl := Option.some.inj (hfull.symm.trans hf)
    cases hline
  refine ⟨⟨hmem bare, by decide +kernel, fun hreported => ?_⟩, hmem full, by decide +kernel, ?_⟩
  · exact (position_from_one_source_iff _ bare (hmem bare)).1.mp hreported hmixes
  · exact (position_from_one_source_iff _ full (hmem full)).1.mpr hkeeps

end Record

end NamespaceLogging
