import NamespaceLogging.Proofs.BacktraceText

/-!
# Frames and their positions

A backtrace is read line by line: a symbol begins a new frame, and the first position below it is the
frame's own, which later lines do not change.  So a frame has the file and the line of its first position,
or neither.  Without a column, file and line are found in the position if and only if there is no colon
in the path of the file.

## Main definitions

* `Backtrace.framesOf`: the frames of some lines.
* `Backtrace.FirstPosition`: the first position below the symbol of a frame.
* `Backtrace.Placed`: a frame has its first position, or none.

## Main results

* `Backtrace.framesOf_concat_naming`, `Backtrace.framesOf_concat_locating`,
  `Backtrace.framesOf_concat_foreign`: what one more line does to the frames.
* `Backtrace.exists_of_firstPosition`, `Backtrace.placed_of_mem`: the frames with a position are those
  that have a first one, and have its file and line.
* `Backtrace.columnless_found_iff`: when a position without a column is found.
-/

set_option autoImplicit false

namespace NamespaceLogging

open Text

namespace Backtrace

/-- The frames of some lines. -/
def framesOf (ls : List (List Char)) : List Frame := collect [] (ls.map Line.read)

/-- A new frame. -/
def named (symbol : List Char) : Frame := Frame.make (String.ofList (trim symbol)) none none

/-- A frame with the file and the line that a position gives. -/
def located (symbol location : List Char) : Frame :=
  Frame.make (String.ofList (trim symbol)) (some (String.ofList (splitLocation location).1))
    (splitLocation location).2

/-- Behind the lines `before` a frame is named, and the first position below its symbol is `location`. -/
def FirstPosition (ls before : List (List Char)) (symbol location : List Char) : Prop :=
  ∃ naming between locating after, ls = before ++ naming :: (between ++ locating :: after) ∧
    Naming naming symbol ∧ (∀ l ∈ between, Foreign l) ∧ Locating locating location

/-- The last lines name a frame and give no position for it. -/
def Unlocated (ls : List (List Char)) (symbol : List Char) : Prop :=
  ∃ before naming between, ls = before ++ naming :: between ∧ Naming naming symbol ∧
    ∀ l ∈ between, Foreign l

variable {ls more before : List (List Char)} {l symbol location path : List Char}
  {frames : List Frame} {f : Frame}

/-! ## One more line -/

/-- The frames of some lines and one more are those of the lines, with the last line collected. -/
lemma framesOf_concat (ls : List (List Char)) (l : List Char) :
    framesOf (ls ++ [l]) = collect (framesOf ls).reverse [Line.read l] := by
  rw [framesOf, List.map_append, collect_append]
  rfl

/-- A line with a symbol begins a new frame. -/
lemma framesOf_concat_naming (h : Naming l symbol) :
    framesOf (ls ++ [l]) = framesOf ls ++ [named symbol] := by
  rw [framesOf_concat, read_of_naming h]
  simp [collect, named]

/-- A line of another kind makes no difference. -/
lemma framesOf_concat_foreign (h : Foreign l) : framesOf (ls ++ [l]) = framesOf ls := by
  rw [framesOf_concat, read_other_iff.mpr h]
  simp [collect]

/-- A position without a frame is passed over. -/
lemma framesOf_concat_of_nil (h : Locating l location) (hnil : framesOf ls = []) :
    framesOf (ls ++ [l]) = [] := by
  rw [framesOf_concat, read_of_locating h, hnil]
  rfl

/-- A position is that of the latest frame, unless this has one. -/
lemma framesOf_concat_locating (h : Locating l location) (hframes : framesOf ls = frames ++ [f]) :
    framesOf (ls ++ [l]) = frames ++ [locate location f] := by
  rw [framesOf_concat, read_of_locating h, hframes]
  simp [collect]

/-- Every line names a symbol, has a position, or is of another kind. -/
lemma line_cases (l : List Char) :
    (∃ symbol, Naming l symbol) ∨ (∃ location, Locating l location) ∨ Foreign l := by
  rcases read_cases l with ⟨location, -, h⟩ | ⟨symbol, -, h⟩ | h
  · exact .inr (.inl ⟨location, h⟩)
  · exact .inl ⟨symbol, h⟩
  · exact .inr (.inr (read_other_iff.mp h))

/-! ## A frame with a position -/

/-- A frame that was just begun is located by the next position. -/
lemma locate_named (symbol location : List Char) :
    locate location (named symbol) = located symbol location := rfl

/-- A frame that has a file stays as it is, whatever position follows. -/
lemma locate_of_some (location : List Char) (h : f.file ≠ none) : locate location f = f := by
  simp [locate, h]

/-- A frame that was located has a file. -/
lemma file_locate_ne (location : List Char) (f : Frame) : (locate location f).file ≠ none := by
  by_cases h : f.file = none
  · simp [locate, h]
  · rwa [locate_of_some location h]

/-- Lines of other kinds make no difference. -/
lemma framesOf_append_foreign (h : ∀ l ∈ more, Foreign l) : framesOf (ls ++ more) = framesOf ls := by
  induction more using List.reverseRecOn with
  | nil => rw [List.append_nil]
  | append_singleton more l ih =>
    rw [← List.append_assoc, framesOf_concat_foreign (h l (by simp)),
      ih fun l hl => h l (List.mem_append_left _ hl)]

/-- One more line does not change a frame that has a position, nor those before it. -/
lemma prefix_framesOf_concat (h : frames ++ [f] <+: framesOf ls) (hf : f.file ≠ none) (l : List Char) :
    frames ++ [f] <+: framesOf (ls ++ [l]) := by
  rcases line_cases l with ⟨symbol, hl⟩ | ⟨location, hl⟩ | hl
  · rw [framesOf_concat_naming hl]
    exact h.trans (List.prefix_append _ _)
  · obtain ⟨later, hlater⟩ := h
    rcases List.eq_nil_or_concat later with rfl | ⟨later, g, rfl⟩
    · rw [List.append_nil] at hlater
      rw [framesOf_concat_locating hl hlater.symm, locate_of_some location hf]
    · rw [List.concat_eq_append, ← List.append_assoc] at hlater
      rw [framesOf_concat_locating hl hlater.symm, List.append_assoc (frames ++ [f])]
      exact List.prefix_append _ _
  · rwa [framesOf_concat_foreign hl]

/-- Frames up to a located one are final: they do not change whatever lines follow. -/
lemma prefix_framesOf_append (h : frames ++ [f] <+: framesOf ls) (hf : f.file ≠ none)
    (more : List (List Char)) : frames ++ [f] <+: framesOf (ls ++ more) := by
  induction more using List.reverseRecOn with
  | nil => rwa [List.append_nil]
  | append_singleton more l ih =>
    rw [← List.append_assoc]
    exact prefix_framesOf_concat ih hf l

/-- **A frame has the file and the line of its first position.** -/
lemma exists_of_firstPosition (h : FirstPosition ls before symbol location) :
    ∃ later, framesOf ls = framesOf before ++ located symbol location :: later := by
  obtain ⟨naming, between, locating, after, rfl, hnaming, hbetween, hlocating⟩ := h
  have hnamed : framesOf (before ++ [naming] ++ between) = framesOf before ++ [named symbol] := by
    rw [framesOf_append_foreign hbetween, framesOf_concat_naming hnaming]
  have hlocated : framesOf before ++ [located symbol location] <+:
      framesOf (before ++ [naming] ++ between ++ [locating]) := by
    rw [framesOf_concat_locating hlocating hnamed, locate_named]
  obtain ⟨later, hlater⟩ := prefix_framesOf_append hlocated
    (file_locate_ne location (named symbol)) after
  exact ⟨later, by simpa using hlater.symm⟩

/-- If no line is found in the position of a frame, the frame has all of it for its file. -/
lemma located_of_unreported (symbol : List Char) (h : ∀ file n, ¬ Reports location file n) :
    located symbol location =
      Frame.make (String.ofList (trim symbol)) (some (String.ofList location)) none := by
  rcases splitLocation_cases location with ⟨file, n, hreports, -⟩ | ⟨-, hsplit⟩
  · exact absurd hreports (h file n)
  · rw [located, hsplit]

/-- A location from which no line number was read reports none. -/
lemma unreported_of_line (h : (located symbol location).line = none) (file : List Char) (n : Nat) :
    ¬ Reports location file n := by
  intro hreports
  have hline : (located symbol location).line = some n := by
    rw [located, splitLocation_of_reports hreports]
    rfl
  cases h.symm.trans hline

/-! ## All frames -/

/-- The frame has no position, or the file and the line of its first one. -/
def Placed (ls : List (List Char)) (f : Frame) : Prop :=
  (f.file = none ∧ f.line = none) ∨ ∃ before symbol location,
    FirstPosition ls before symbol location ∧ f = located symbol location

/-- The first position behind a symbol stays the first one when another line follows. -/
lemma FirstPosition.concat (h : FirstPosition ls before symbol location) (l : List Char) :
    FirstPosition (ls ++ [l]) before symbol location := by
  obtain ⟨naming, between, locating, after, rfl, hnaming, hbetween, hlocating⟩ := h
  exact ⟨naming, between, locating, after ++ [l], by simp, hnaming, hbetween, hlocating⟩

/-- A frame that was placed stays so when another line follows. -/
lemma Placed.concat (h : Placed ls f) (l : List Char) : Placed (ls ++ [l]) f :=
  h.imp_right fun ⟨before, symbol, location, hfirst, hf⟩ =>
    ⟨before, symbol, location, hfirst.concat l, hf⟩

/-- The latest frame, if it has no position yet, was named by the last lines. -/
lemma unlocated_of_last (h : framesOf ls = frames ++ [f]) (hf : f.file = none) :
    ∃ symbol, Unlocated ls symbol ∧ f = named symbol := by
  induction ls using List.reverseRecOn generalizing frames f with
  | nil => simp [framesOf, collect] at h
  | append_singleton ls l ih =>
    rcases line_cases l with ⟨symbol, hl⟩ | ⟨location, hl⟩ | hl
    · rw [framesOf_concat_naming hl] at h
      obtain ⟨-, rfl⟩ : framesOf ls = frames ∧ named symbol = f := by simpa using h
      exact ⟨symbol, ⟨ls, l, [], rfl, hl, by simp⟩, rfl⟩
    · rcases List.eq_nil_or_concat (framesOf ls) with hnil | ⟨earlier, g, hlast⟩
      · simp [framesOf_concat_of_nil hl hnil] at h
      · rw [List.concat_eq_append] at hlast
        rw [framesOf_concat_locating hl hlast] at h
        obtain ⟨-, rfl⟩ : earlier = frames ∧ locate location g = f := by simpa using h
        exact absurd hf (file_locate_ne location g)
    · rw [framesOf_concat_foreign hl] at h
      obtain ⟨symbol, ⟨before, naming, between, rfl, hnaming, hbetween⟩, rfl⟩ := ih h hf
      refine ⟨symbol, ⟨before, naming, between ++ [l], by simp, hnaming, ?_⟩, rfl⟩
      simpa [or_imp, forall_and] using ⟨hbetween, hl⟩

/-- The latest frame with one more position. -/
lemma placed_locate (hl : Locating l location) (hlast : framesOf ls = frames ++ [f])
    (hplaced : Placed ls f) : Placed (ls ++ [l]) (locate location f) := by
  by_cases hf : f.file = none
  · obtain ⟨symbol, ⟨before, naming, between, rfl, hnaming, hbetween⟩, rfl⟩ := unlocated_of_last hlast hf
    exact .inr ⟨before, symbol, location, ⟨naming, between, l, [], by simp, hnaming, hbetween, hl⟩, rfl⟩
  · rw [locate_of_some location hf]
    exact hplaced.concat l

/-- **Every frame has no position, or its first one.** -/
lemma placed_of_mem (h : f ∈ framesOf ls) : Placed ls f := by
  induction ls using List.reverseRecOn generalizing f with
  | nil => simp [framesOf, collect] at h
  | append_singleton ls l ih =>
    rcases line_cases l with ⟨symbol, hl⟩ | ⟨location, hl⟩ | hl
    · rw [framesOf_concat_naming hl, List.mem_append, List.mem_singleton] at h
      rcases h with hmem | rfl
      · exact (ih hmem).concat l
      · exact .inl ⟨rfl, rfl⟩
    · rcases List.eq_nil_or_concat (framesOf ls) with hnil | ⟨earlier, g, hlast⟩
      · simp [framesOf_concat_of_nil hl hnil] at h
      · rw [List.concat_eq_append] at hlast
        rw [framesOf_concat_locating hl hlast, List.mem_append, List.mem_singleton] at h
        rcases h with hmem | rfl
        · exact (ih (hlast ▸ List.mem_append_left _ hmem)).concat l
        · exact placed_locate hl hlast (ih (hlast ▸ List.mem_append_right _ List.mem_cons_self))
    · rw [framesOf_concat_foreign hl] at h
      exact (ih h).concat l

/-! ## Positions without a column -/

/-- **When a position without a column is found.**  A frame whose first position is a path and a line number
gets just this file and this line if and only if there is no colon in the path.  If there is one, what
stands behind the last of them is taken for the line if it is a number, and what stands in front of it for
the file; a path that does not end with a colon and digits can only have a `+` there.  If it is no number,
the frame gets the whole position for its file, and no line.

**Proof sketch.** The first position below a symbol is that of the frame, and no later line changes it.  A
number has no colon, so that the last colon of the position stands in front of the line number, and the one
before it is the last one of the path. -/
theorem columnless_found_iff (text : String) (before : List (List Char)) (symbol path : List Char)
    (n : Nat) (hn : n < Nat.pow 2 32)
    (h : FirstPosition (lines text.toList) before symbol (path ++ ':' :: Nat.toDigits 10 n)) :
    ∃ file line later, parse text = framesOf before ++
        Frame.make (String.ofList (trim symbol)) (some (String.ofList file)) line :: later ∧
      (file = path ∧ line = some n ↔ ':' ∉ path) ∧
      (∀ dir number m, path = dir ++ ':' :: number → Numeral number m →
        file = dir ∧ line = some m) ∧
      (':' ∈ path → (∀ dir number m, path = dir ++ ':' :: number → ¬ Numeral number m) →
        file = path ++ ':' :: Nat.toDigits 10 n ∧ line = none) := by
  obtain ⟨later, hparse⟩ := exists_of_firstPosition h
  rcases splitLocation_cases (path ++ ':' :: Nat.toDigits 10 n) with
    ⟨file, m, hreports, hsplit⟩ | ⟨hnone, hsplit⟩
  · rw [located, hsplit] at hparse
    refine ⟨file, some m, later, hparse, ?_⟩
    rcases (reports_columnless_iff hn).mp hreports with ⟨hpath, rfl, rfl⟩ | ⟨number, hnumber, rfl⟩
    · have hno : ∀ dir number, file ≠ dir ++ ':' :: number := fun dir number hfile =>
        hpath (by simp [hfile])
      exact ⟨iff_of_true ⟨rfl, rfl⟩ hpath, fun dir number _ hfile => absurd hfile (hno dir number),
        fun hcolon => absurd hcolon hpath⟩
    · refine ⟨iff_of_false (fun hfound => ?_) (by simp), fun dir number' m' hpath hnumber' => ?_,
        fun _ hno => absurd hnumber (hno file number m rfl)⟩
      · simpa using congrArg List.length hfound.1
      · obtain ⟨rfl, rfl⟩ := eq_of_last_colon hpath hnumber.no_colon hnumber'.no_colon
        exact ⟨rfl, congrArg some (hnumber.unique hnumber')⟩
  · rw [located, hsplit] at hparse
    refine ⟨_, none, later, hparse, iff_of_false (fun hfound => ?_) fun hpath => ?_,
      fun dir number m hpath hnumber => ?_, fun _ _ => ⟨rfl, rfl⟩⟩
    · cases hfound.2
    · exact hnone path n ((reports_columnless_iff hn).mpr (.inl ⟨hpath, rfl, rfl⟩))
    · exact absurd ((reports_columnless_iff hn).mpr (.inr ⟨number, hnumber, hpath⟩)) (hnone dir m)

/-- Two frames, of which the first has a drive letter in its file. -/
def driveLines : List (List Char) :=
  ["   0: app::main".toList, "at C:\\app\\main.rs:12".toList, "   1: app::run".toList,
    "at src/run.rs:7".toList]

/-- The position with the drive letter is not found, the other one is. -/
theorem columnless_found_of_drive :
    let text := "   0: app::main\nat C:\\app\\main.rs:12\n   1: app::run\nat src/run.rs:7\n"
    let drive := "C:\\app\\main.rs".toList
    let plain := "src/run.rs".toList
    FirstPosition (lines text.toList) [] "app::main".toList (drive ++ ':' :: Nat.toDigits 10 12) ∧
    FirstPosition (lines text.toList) (driveLines.take 2) "app::run".toList
      (plain ++ ':' :: Nat.toDigits 10 7) ∧
    (∃ later, parse text = ⟨"app::main", some "C:\\app\\main.rs:12", none⟩ :: later) ∧
    ∃ later, parse text =
      framesOf (driveLines.take 2) ++ ⟨"app::run", some "src/run.rs", some 7⟩ :: later := by
  intro text drive plain
  have hlines : lines text.toList = driveLines := by decide +kernel
  have hnaming : ∀ digit symbol, digit.isDigit = true →
      Naming ("   ".toList ++ digit :: ':' :: ' ' :: symbol) symbol := fun digit symbol hdigit =>
    ⟨"   ".toList, digit, [], by decide, by simpa using hdigit, rfl⟩
  have hfirst : FirstPosition (lines text.toList) [] "app::main".toList
      (drive ++ ':' :: Nat.toDigits 10 12) :=
    hlines ▸ ⟨_, [], _, driveLines.drop 2, by decide +kernel, hnaming '0' _ rfl, by simp,
      ⟨[], by decide, rfl⟩⟩
  have hsecond : FirstPosition (lines text.toList) (driveLines.take 2) "app::run".toList
      (plain ++ ':' :: Nat.toDigits 10 7) :=
    hlines ▸ ⟨_, [], _, [], by decide +kernel, hnaming '1' _ rfl, by simp, ⟨[], by decide, rfl⟩⟩
  refine ⟨hfirst, hsecond, ?_, ?_⟩
  · obtain ⟨file, line, later, hparse, -, -, hwhole⟩ :=
      columnless_found_iff text [] "app::main".toList drive 12 (by decide) hfirst
    have hnone : ∀ dir number m, drive = dir ++ ':' :: number → ¬ Numeral number m := by
      intro dir number m hdrive hnumber
      have hletter : drive = ['C'] ++ ':' :: "\\app\\main.rs".toList := by decide
      obtain ⟨-, rfl⟩ :=
        eq_of_last_colon (hletter.symm.trans hdrive) (by decide) hnumber.no_colon
      cases (by decide : lineNumber? "\\app\\main.rs".toList = none).symm.trans
        (lineNumber?_eq_some_iff.mpr hnumber)
    obtain ⟨rfl, rfl⟩ := hwhole (by decide) hnone
    exact ⟨later, hparse.trans (congrArg (· :: later) (by decide +kernel))⟩
  · obtain ⟨file, line, later, hparse, hfound, -⟩ :=
      columnless_found_iff text (driveLines.take 2) "app::run".toList plain 7 (by decide) hsecond
    obtain ⟨rfl, rfl⟩ := hfound.mpr (by decide)
    exact ⟨later, hparse.trans (congrArg (_ ++ · :: later) (by decide +kernel))⟩

end Backtrace

end NamespaceLogging
