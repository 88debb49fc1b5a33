import NamespaceLogging.Proofs.TextParts
import NamespaceLogging.Record.Backtrace

/-!
# Positions in the source

The position of a frame is written `file:line:column` or `file:line`.  It is read from its end, and the
part in front of the last colon is taken for one with a line as soon as there is a colon in it.  So colons
in the file do no harm if there is a column.  Without a column the line is found only if there is no
colon in the file; else the last part of the file is taken for the line, and the line for a column.

## Main definitions

* `Backtrace.Numeral`: the texts of line numbers.
* `Backtrace.Reports`: the positions in which a line is found.

## Main results

* `Backtrace.lineNumber?_eq_some_iff`: line numbers are read from their texts, and from no others.
* `Backtrace.splitLocation_cases`: file and line are found in a position, or all of it is the file.
* `Backtrace.splitLocation_printed`: with a column, file and line are found whatever the file is.
* `Backtrace.reports_columnless_iff`: what is found without a column.
-/

set_option autoImplicit false

namespace NamespaceLogging

open Text

/-! ## Decimal numbers -/

section Numbers

variable {limit n m : Nat} {beyond : IntegerError} {cs digits : List Char}

/-- The value of some decimal digits that stand behind digits with the value `n`. -/
def decimalValue (n : Nat) (cs : List Char) : Nat :=
  cs.foldl (fun n c => 10 * n + (c.toNat - '0'.toNat)) n

/-- Reading digits never makes a number smaller. -/
lemma le_decimalValue (n : Nat) (cs : List Char) : n ≤ decimalValue n cs := by
  induction cs generalizing n with
  | nil => exact Nat.le_refl n
  | cons c cs ih =>
    have hnext := ih (10 * n + (c.toNat - '0'.toNat))
    rw [decimalValue, List.foldl_cons, ← decimalValue]
    omega

/-- Digits are read as their value, if that is not too large. -/
lemma readDigits_eq (hdigits : ∀ c ∈ cs, c.isDigit = true) (hle : decimalValue n cs ≤ limit) :
    readDigits limit beyond n cs = .ok (decimalValue n cs) := by
  induction cs generalizing n with
  | nil => rfl
  | cons c cs ih =>
    rw [decimalValue, List.foldl_cons, ← decimalValue] at hle
    have hnext : ¬ limit < 10 * n + (c.toNat - '0'.toNat) :=
      Nat.not_lt.mpr ((le_decimalValue _ cs).trans hle)
    rw [readDigits, if_pos (hdigits c List.mem_cons_self), if_neg hnext,
      ih (fun d hd => hdigits d (List.mem_cons_of_mem _ hd)) hle]
    rfl

/-- Only digits are read, and none beyond the limit. -/
lemma digits_of_readDigits (h : readDigits limit beyond n cs = .ok m) (hn : n ≤ limit) :
    (∀ c ∈ cs, c.isDigit = true) ∧ decimalValue n cs = m ∧ m ≤ limit := by
  induction cs generalizing n with
  | nil =>
    obtain rfl := Except.ok.inj h
    exact ⟨by simp, rfl, hn⟩
  | cons c cs ih =>
    rw [readDigits] at h
    split at h
    · rename_i hc
      dsimp only at h
      split at h
      · cases h
      · rename_i hle
        obtain ⟨hdigits, hvalue, hm⟩ := ih h (Nat.not_lt.mp hle)
        exact ⟨List.forall_mem_cons.mpr ⟨hc, hdigits⟩, hvalue, hm⟩
    · cases h

/-- Digits are read as their value, if that is not too large. -/
lemma readNatural_of_digits (hne : digits ≠ []) (hdigits : ∀ c ∈ digits, c.isDigit = true)
    (hle : decimalValue 0 digits ≤ limit) : readNatural limit digits = .ok (decimalValue 0 digits) := by
  have hread : readDigits limit .tooLarge 0 digits = .ok (decimalValue 0 digits) :=
    readDigits_eq hdigits hle
  obtain ⟨c, cs, rfl⟩ := List.exists_cons_of_ne_nil hne
  have hplus : c ≠ '+' := by
    rintro rfl
    exact absurd (hdigits _ List.mem_cons_self) (by decide)
  rw [readNatural]
  · exact hread
  · simp
  · simp [hplus]
  · simp [hplus]

/-- A plus sign in front of digits is passed over. -/
lemma readNatural_plus (hne : digits ≠ []) :
    readNatural limit ('+' :: digits) = readDigits limit .tooLarge 0 digits := by
  rw [readNatural]
  exact hne

/-- A number is written with digits only. -/
lemma isDigit_of_mem_toDigits {c : Char} (h : c ∈ Nat.toDigits 10 n) : c.isDigit = true :=
  Nat.isDigit_of_mem_toDigits (by decide) (by decide) h

/-- What is no digit is not in a number. -/
lemma notMem_toDigits {c : Char} (hc : c.isDigit = false) (n : Nat) : c ∉ Nat.toDigits 10 n := fun hmem =>
  Bool.false_ne_true (hc.symm.trans (isDigit_of_mem_toDigits hmem))

/-- A number is the value of its digits. -/
lemma decimalValue_toDigits (n : Nat) : decimalValue 0 (Nat.toDigits 10 n) = n := by
  rw [decimalValue, ← Nat.ofDigitChars_eq_foldl, Nat.ofDigitChars_ten_toDigits]

end Numbers

namespace Backtrace

variable {cs location path file : List Char} {n m : Nat}

/-! ## Line numbers -/

/-- The text is that of a number of 32 bits: decimal digits, which may have a `+` in front of them. -/
def Numeral (cs : List Char) (n : Nat) : Prop :=
  ∃ digits, (cs = digits ∨ cs = '+' :: digits) ∧ digits ≠ [] ∧ (∀ c ∈ digits, c.isDigit = true) ∧
    decimalValue 0 digits = n ∧ n < Nat.pow 2 32

/-- **Line numbers are read from their texts**, and from no others. -/
lemma lineNumber?_eq_some_iff : lineNumber? cs = some n ↔ Numeral cs n := by
  have hlimit : ∀ {k : Nat}, k ≤ Nat.pow 2 32 - 1 ↔ k < Nat.pow 2 32 :=
    Nat.le_sub_one_iff_lt (by decide)
  constructor
  · intro h
    have hread : readNatural (Nat.pow 2 32 - 1) cs = .ok n := by
      rw [lineNumber?] at h
      cases hread : readNatural (Nat.pow 2 32 - 1) cs with
      | error e => simp [hread, Except.toOption] at h
      | ok k => simpa [hread, Except.toOption] using h
    rw [readNatural.eq_def] at hread
    split at hread
    · cases hread
    · cases hread
    · rename_i digits hne
      obtain ⟨hdigits, hvalue, hle⟩ := digits_of_readDigits hread (Nat.zero_le _)
      exact ⟨digits, .inr rfl, hne, hdigits, hvalue, hlimit.mp hle⟩
    · rename_i hne _ _
      obtain ⟨hdigits, hvalue, hle⟩ := digits_of_readDigits hread (Nat.zero_le _)
      exact ⟨cs, .inl rfl, hne, hdigits, hvalue, hlimit.mp hle⟩
  · rintro ⟨digits, hcs, hne, hdigits, rfl, hlt⟩
    have hread : readNatural (Nat.pow 2 32 - 1) cs = .ok (decimalValue 0 digits) := by
      rcases hcs with rfl | rfl
      · exact readNatural_of_digits hne hdigits (hlimit.mpr hlt)
      · rw [readNatural_plus hne, readDigits_eq hdigits (hlimit.mpr hlt)]
    rw [lineNumber?, hread]
    rfl

instance (cs : List Char) (n : Nat) : Decidable (Numeral cs n) :=
  decidable_of_iff _ lineNumber?_eq_some_iff

/-- A number that fits into 32 bits is written as a numeral. -/
lemma numeral_toDigits (hn : n < Nat.pow 2 32) : Numeral (Nat.toDigits 10 n) n :=
  ⟨_, .inl rfl, Nat.toDigits_ne_nil, fun _ => isDigit_of_mem_toDigits, decimalValue_toDigits n, hn⟩

/-- There is no colon in a numeral. -/
lemma Numeral.no_colon (h : Numeral cs n) : ':' ∉ cs := by
  obtain ⟨digits, hcs, -, hdigits, -⟩ := h
  have hcolon : ':' ∉ digits := fun hmem => absurd (hdigits _ hmem) (by decide)
  rcases hcs with rfl | rfl
  · exact hcolon
  · simpa using hcolon

/-- A numeral stands for one number. -/
lemma Numeral.unique (hn : Numeral cs n) (hm : Numeral cs m) : n = m :=
  Option.some.inj ((lineNumber?_eq_some_iff.mpr hn).symm.trans (lineNumber?_eq_some_iff.mpr hm))

/-! ## Positions -/

/-- A line is found in the position: it has a number behind the file and in front of the last colon, or
behind a file without colons.  What stands in the place of the column does not matter. -/
def Reports (location file : List Char) (n : Nat) : Prop :=
  ∃ number, Numeral number n ∧
    ((∃ column, ':' ∉ column ∧ location = file ++ ':' :: (number ++ ':' :: column)) ∨
      (':' ∉ file ∧ location = file ++ ':' :: number))

/-- A text is split at its last colon. -/
lemma splitColon?_append {last : List Char} (h : ':' ∉ last) (before : List Char) :
    splitColon? (before ++ ':' :: last) = some (before, last) :=
  splitLast?_singleton_eq_some_iff.mpr ⟨rfl, h⟩

/-- A text has one last colon. -/
lemma eq_of_last_colon {before before' last last' : List Char}
    (h : before ++ ':' :: last = before' ++ ':' :: last') (hlast : ':' ∉ last) (hlast' : ':' ∉ last') :
    before = before' ∧ last = last' := by
  have hsides := (splitColon?_append hlast before).symm.trans (h ▸ splitColon?_append hlast' before')
  simpa using hsides

/-- A location that reports a file and a line is split into them. -/
lemma splitLocation_of_reports (h : Reports location file n) : splitLocation location = (file, some n) := by
  obtain ⟨number, hnumber, hlocation⟩ := h
  have hread := lineNumber?_eq_some_iff.mpr hnumber
  have hbehind : splitColon? (file ++ ':' :: number) = some (file, number) :=
    splitColon?_append hnumber.no_colon file
  rcases hlocation with ⟨column, hcolumn, rfl⟩ | ⟨hfile, rfl⟩
  · have hlast : splitColon? (file ++ ':' :: (number ++ ':' :: column)) =
        some (file ++ ':' :: number, column) := by
      simpa using splitColon?_append hcolumn (file ++ ':' :: number)
    simp only [splitLocation, hlast, hbehind, Option.getD_some, hread]
  · have hnone : splitColon? file = none := splitLast?_of_notMem hfile
    simp only [splitLocation, hbehind, hnone, Option.getD_none, hread]

/-- If no line is found, all of the position is the file. -/
lemma exists_reports_or_whole (location : List Char) :
    (∃ file n, Reports location file n) ∨ splitLocation location = (location, none) := by
  rw [splitLocation]
  cases hlast : splitColon? location with
  | none => exact .inr rfl
  | some sides =>
    obtain ⟨before, last⟩ := sides
    obtain ⟨rfl, hcolon⟩ := splitLast?_singleton_eq_some_iff.mp hlast
    cases hbefore : splitColon? before with
    | none =>
      have hfile : ':' ∉ before := fun hmem =>
        splitLast?_eq_none_iff.mp hbefore ((List.singleton_infix_iff _ _).mpr hmem)
      cases hread : lineNumber? last with
      | none => exact .inr (by simp only [hbefore, Option.getD_none, hread])
      | some n =>
        exact .inl ⟨before, n, last, lineNumber?_eq_some_iff.mp hread, .inr ⟨hfile, rfl⟩⟩
    | some sides =>
      obtain ⟨file, number⟩ := sides
      obtain ⟨rfl, -⟩ := splitLast?_singleton_eq_some_iff.mp hbefore
      cases hread : lineNumber? number with
      | none => exact .inr (by simp only [hbefore, Option.getD_some, hread])
      | some n =>
        exact .inl ⟨file, n, number, lineNumber?_eq_some_iff.mp hread, .inl ⟨last, hcolon, by simp⟩⟩

/-- **File and line are found in a position**, or all of it is the file. -/
lemma splitLocation_cases (location : List Char) :
    (∃ file n, Reports location file n ∧ splitLocation location = (file, some n)) ∨
      (∀ file n, ¬ Reports location file n) ∧ splitLocation location = (location, none) := by
  rcases exists_reports_or_whole location with ⟨file, n, hreports⟩ | hwhole
  · exact .inl ⟨file, n, hreports, splitLocation_of_reports hreports⟩
  · refine .inr ⟨fun file n hreports => ?_, hwhole⟩
    cases hwhole.symm.trans (splitLocation_of_reports hreports)

/-- With a column, file and line are found, whatever colons there are in the file. -/
lemma splitLocation_printed {column : Nat} (hn : n < Nat.pow 2 32) :
    splitLocation (file ++ ':' :: (Nat.toDigits 10 n ++ ':' :: Nat.toDigits 10 column)) =
      (file, some n) :=
  splitLocation_of_reports
    ⟨_, numeral_toDigits hn, .inl ⟨_, notMem_toDigits (by decide) column, rfl⟩⟩

/-- **What is found without a column**: the file and the line, if there is no colon in the path, and else
what stands behind its last colon for the line, if that is a number. -/
lemma reports_columnless_iff (hn : n < Nat.pow 2 32) :
    Reports (path ++ ':' :: Nat.toDigits 10 n) file m ↔
      (':' ∉ path ∧ file = path ∧ m = n) ∨ ∃ number, Numeral number m ∧ path = file ++ ':' :: number := by
  have hdigits : ':' ∉ Nat.toDigits 10 n := notMem_toDigits (by decide) n
  constructor
  · rintro ⟨number, hnumber, ⟨column, hcolumn, hpath⟩ | ⟨hfile, hpath⟩⟩
    · rw [← List.cons_append, ← List.append_assoc] at hpath
      exact .inr ⟨number, hnumber, (eq_of_last_colon hpath hdigits hcolumn).1⟩
    · obtain ⟨rfl, rfl⟩ := eq_of_last_colon hpath hdigits hnumber.no_colon
      exact .inl ⟨hfile, rfl, hnumber.unique (numeral_toDigits hn)⟩
  · rintro (⟨hpath, rfl, rfl⟩ | ⟨number, hnumber, rfl⟩)
    · exact ⟨_, numeral_toDigits hn, .inr ⟨hpath, rfl⟩⟩
    · exact ⟨number, hnumber, .inl ⟨_, hdigits, by simp⟩⟩

end Backtrace

end NamespaceLogging
