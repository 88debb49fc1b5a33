import Mathlib.Data.List.TakeWhile
import Mathlib.Tactic.Common
import NamespaceLogging.Record.Template

/-!
# What templates mean

A template is a sequence of characters and directives, at the end of which a directive may lack its
conversion.  In a directive the flags, the width and the precision are each as long as they can be, so
that there is one way only to take a template apart.  Each directive with a conversion of arguments has
an argument of its own, namely the one at the place that it has among these directives.

## Main definitions

* `Directive.Greedy`, `TemplatePiece.Formed`: how a directive and a piece are written.
* `Template.Decomposes`: a template is the pieces, one after the other.
* `TemplatePiece.text`: what a piece writes for the argument at its place.
* `Template.argumentsOf`: how many arguments pieces take.

## Main results

* `Template.decomposes_iff`: the pieces of a template are the only ones it is made of.
* `Template.renderPieces_eq`: each piece writes its text, and the arguments that are left follow.
* `Template.fault?_of_moderate`: moderate widths and precisions can always be written.
* `Template.render_of_pieces`: the message of a template.
-/

set_option autoImplicit false

namespace NamespaceLogging

/-! ## How pieces are written -/

/-- All of the front has a property that the character behind it, if there is one, does not have. -/
def Template.Longest (p : Char → Bool) (front behind : List Char) : Prop :=
  (∀ c ∈ front, p c = true) ∧ ∀ c, behind.head? = some c → p c = false

namespace Directive

/-- A precision as it is written: a point and its digits. -/
def point : Option (List Char) → List Char
  | none => []
  | some digits => '.' :: digits

/-- Flags, a width and a precision, each as long as it can be in front of what is behind them. -/
structure Greedy (flags width : List Char) (precision : Option (List Char)) (behind : List Char) :
    Prop where
  flags : Template.Longest Template.isFlag flags (width ++ (point precision ++ behind))
  width : Template.Longest Char.isDigit width (point precision ++ behind)
  pointless : precision = none → behind.head? ≠ some '.'
  places : ∀ digits, precision = some digits → Template.Longest Char.isDigit digits behind

end Directive

namespace TemplatePiece

/-- Whether the piece is written by the rules: a character that begins no directive, a directive up to
its conversion, or one that ends before it. -/
def Formed : TemplatePiece → Prop
  | literal c => c ≠ '%'
  | directive d => Directive.Greedy d.flags d.width d.precision [d.conversion]
  | unfinished text => ∃ flags width precision,
      text = '%' :: (flags ++ (width ++ Directive.point precision)) ∧
        Directive.Greedy flags width precision []

/-- Whether the piece takes an argument. -/
def takes : TemplatePiece → Bool
  | directive d => d.takesArgument
  | _ => false

/-- What the piece writes, with the argument that is at its place. -/
def text (arg : Option Argument) : TemplatePiece → List Char
  | literal c => [c]
  | unfinished text => text
  | directive d =>
    if d.conversion = '%' then ['%']
    else if d.conversion = 'n' then ['\n']
    else if d.takesArgument then
      match arg with
      | some arg => d.padded (d.convert arg)
      | none => d.source
    else d.source

/-- Whether no width and no precision of the piece is too great to be written. -/
def Moderate : TemplatePiece → Prop
  | directive d =>
    (Directive.number? d.width).getD 0 ≤ Directive.greatestWidth ∧
      (d.precision.bind Directive.number?).getD 0 ≤ Directive.mostPlaces
  | _ => True

instance : DecidablePred Moderate
  | literal _ => inferInstanceAs (Decidable True)
  | directive d =>
    inferInstanceAs (Decidable ((Directive.number? d.width).getD 0 ≤ Directive.greatestWidth ∧
      (d.precision.bind Directive.number?).getD 0 ≤ Directive.mostPlaces))
  | unfinished _ => inferInstanceAs (Decidable True)

end TemplatePiece

namespace Template

open Directive

/-- The template is the pieces, one after the other; only the last one may be unfinished. -/
inductive Decomposes : List TemplatePiece → List Char → Prop
  | nil : Decomposes [] []
  | cons {piece : TemplatePiece} {pieces : List TemplatePiece} {cs : List Char} (formed : piece.Formed)
      (finished : (∃ text, piece = .unfinished text) → pieces = [])
      (more : Decomposes pieces cs) : Decomposes (piece :: pieces) (piece.source ++ cs)

/-- The number of arguments that pieces take. -/
def argumentsOf (pieces : List TemplatePiece) : Nat := pieces.countP TemplatePiece.takes

variable {p : Char → Bool} {front behind flags width cs : List Char} {precision : Option (List Char)}
  {piece : TemplatePiece} {ps : List TemplatePiece}

/-! ## Reading a directive -/

/-- The longest front is what is taken while the property holds. -/
lemma Longest.takeWhile_eq (h : Longest p front behind) : (front ++ behind).takeWhile p = front := by
  have hbehind : behind.takeWhile p = [] := by
    cases behind with
    | nil => rfl
    | cons c behind => simp [h.2 c rfl]
  rw [List.takeWhile_append_of_pos h.1, hbehind, List.append_nil]

/-- What is behind the longest front is what is left when that is dropped. -/
lemma Longest.dropWhile_eq (h : Longest p front behind) : (front ++ behind).dropWhile p = behind := by
  have hbehind : behind.dropWhile p = behind := by
    cases behind with
    | nil => rfl
    | cons c behind => simp [h.2 c rfl]
  rw [List.dropWhile_append_of_pos h.1, hbehind]

/-- What is taken while a property holds is the longest front that has it. -/
lemma longest_takeWhile (p : Char → Bool) (cs : List Char) :
    Longest p (cs.takeWhile p) (cs.dropWhile p) := by
  refine ⟨fun c => List.mem_takeWhile_imp, fun c hc => ?_⟩
  have hhead := List.head?_dropWhile_not p cs
  rw [hc] at hhead
  simpa using hhead

/-- Only the first of the characters behind a directive matters. -/
lemma greedy_cons (c : Char) (cs : List Char) :
    Greedy flags width precision (c :: cs) ↔ Greedy flags width precision [c] := by
  have hlongest : ∀ (p : Char → Bool) (front middle : List Char),
      Longest p front (middle ++ c :: cs) ↔ Longest p front (middle ++ [c]) := by
    intro p front middle
    simp [Longest, List.head?_append]
  constructor
  · rintro ⟨hflags, hwidth, hpointless, hplaces⟩
    refine ⟨?_, (hlongest _ _ _).mp hwidth, hpointless, fun digits hd =>
      (hlongest _ _ []).mp (hplaces digits hd)⟩
    rw [← List.append_assoc] at hflags ⊢
    exact (hlongest _ _ _).mp hflags
  · rintro ⟨hflags, hwidth, hpointless, hplaces⟩
    refine ⟨?_, (hlongest _ _ _).mpr hwidth, hpointless, fun digits hd =>
      (hlongest _ _ []).mpr (hplaces digits hd)⟩
    rw [← List.append_assoc] at hflags ⊢
    exact (hlongest _ _ _).mpr hflags

/-- A precision that is written as long as possible is read as it is. -/
lemma readPrecision_of_greedy (h : Greedy flags width precision behind) :
    readPrecision (point precision ++ behind) = (precision, behind) := by
  cases precision with
  | none =>
    rw [point, List.nil_append]
    unfold readPrecision
    split
    · exact absurd rfl (h.pointless rfl)
    · rfl
  | some digits =>
    have hplaces := h.places digits rfl
    rw [point, List.cons_append, readPrecision, hplaces.takeWhile_eq, hplaces.dropWhile_eq]

/-- **A directive is read back**, if there is a conversion behind it. -/
lemma readDirective?_of_greedy (h : Greedy flags width precision behind) :
    readDirective? (flags ++ (width ++ (point precision ++ behind))) =
      match behind with
      | [] => none
      | conversion :: rest => some (⟨flags, width, precision, conversion⟩, rest) := by
  simp only [readDirective?, h.flags.dropWhile_eq, h.flags.takeWhile_eq, h.width.dropWhile_eq,
    h.width.takeWhile_eq, readPrecision_of_greedy h]
  cases behind <;> rfl

/-- Every text begins with flags, a width and a precision, if they are empty ones. -/
lemma exists_greedy (cs : List Char) : ∃ flags width precision behind,
    cs = flags ++ (width ++ (point precision ++ behind)) ∧ Greedy flags width precision behind := by
  obtain ⟨precision, behind, hbehind, hpointless, hplaces⟩ : ∃ precision behind,
      (cs.dropWhile isFlag).dropWhile Char.isDigit = point precision ++ behind ∧
        (precision = none → behind.head? ≠ some '.') ∧
        ∀ digits, precision = some digits → Longest Char.isDigit digits behind := by
    by_cases hpoint : ((cs.dropWhile isFlag).dropWhile Char.isDigit).head? = some '.'
    · obtain ⟨rest, hrest⟩ := List.head?_eq_some_iff.mp hpoint
      refine ⟨some (rest.takeWhile Char.isDigit), rest.dropWhile Char.isDigit, ?_, by simp, ?_⟩
      · rw [hrest, point, List.cons_append, List.takeWhile_append_dropWhile]
      · rintro digits ⟨⟩
        exact longest_takeWhile _ rest
    · exact ⟨none, _, rfl, fun _ => hpoint, by simp⟩
  have hflags := longest_takeWhile isFlag cs
  have hwidth := longest_takeWhile Char.isDigit (cs.dropWhile isFlag)
  rw [hbehind] at hwidth
  have hsplit : cs.dropWhile isFlag =
      (cs.dropWhile isFlag).takeWhile Char.isDigit ++ (point precision ++ behind) := by
    rw [← hbehind, List.takeWhile_append_dropWhile]
  rw [hsplit] at hflags
  refine ⟨_, _, precision, behind, ?_, hflags, hwidth, hpointless, hplaces⟩
  rw [← hsplit, List.takeWhile_append_dropWhile]

/-! ## Taking a template apart -/

/-- The source of a directive: a percent sign, flags, width, precision and the conversion. -/
lemma source_directive (d : Directive) (cs : List Char) :
    (TemplatePiece.directive d).source ++ cs =
      '%' :: (d.flags ++ (d.width ++ (point d.precision ++ d.conversion :: cs))) := by
  obtain ⟨flags, width, precision, conversion⟩ := d
  cases precision <;> simp [TemplatePiece.source, Directive.source, point]

/-- A character that is no percent sign is a piece of its own. -/
lemma pieces_literal {c : Char} (hc : c ≠ '%') (cs : List Char) :
    pieces (c :: cs) = .literal c :: pieces cs := by
  rw [pieces, if_neg hc]

/-- A well-formed directive is read as it is, whatever follows on it. -/
lemma pieces_directive {d : Directive} (h : (TemplatePiece.directive d).Formed) (cs : List Char) :
    pieces ((TemplatePiece.directive d).source ++ cs) = .directive d :: pieces cs := by
  have hread := readDirective?_of_greedy ((greedy_cons d.conversion cs).mpr h)
  rw [source_directive, pieces, if_pos rfl]
  split
  · rename_i d' rest hsome
    obtain ⟨rfl, rfl⟩ : d = d' ∧ cs = rest := by simpa [hread] using hsome
    rfl
  · rename_i hnone
    simp [hread] at hnone

/-- An unfinished directive at the end of a template is one piece. -/
lemma pieces_unfinished {text : List Char} (h : (TemplatePiece.unfinished text).Formed) :
    pieces text = [.unfinished text] := by
  obtain ⟨flags, width, precision, rfl, hgreedy⟩ := h
  have hread := readDirective?_of_greedy hgreedy
  rw [List.append_nil] at hread
  rw [pieces, if_pos rfl]
  split
  · rename_i d rest hsome
    simp [hread] at hsome
  · rfl

/-- What a template is made of is what it is read into. -/
lemma Decomposes.eq_pieces (h : Decomposes ps cs) : ps = pieces cs := by
  induction h with
  | nil => simp [pieces]
  | @cons piece ps cs hformed hfinished hmore ih =>
    cases piece with
    | literal c => rw [TemplatePiece.source, List.singleton_append, pieces_literal hformed, ← ih]
    | directive d => rw [pieces_directive hformed, ← ih]
    | unfinished text =>
      obtain rfl := hfinished ⟨text, rfl⟩
      cases hmore
      rw [List.append_nil, TemplatePiece.source, pieces_unfinished hformed]

/-- **Every template is made of pieces.**

**Proof sketch.**  By induction on the length: behind a `%` there are flags, a width and a precision, of
which the last may be followed by a conversion, and behind that conversion there is less of the
template. -/
lemma exists_decomposes (cs : List Char) : ∃ ps, Decomposes ps cs := by
  induction hlength : cs.length using Nat.strong_induction_on generalizing cs with
  | _ n ih =>
    cases cs with
    | nil => exact ⟨[], .nil⟩
    | cons c cs =>
      by_cases hc : c = '%'
      · subst hc
        obtain ⟨flags, width, precision, behind, rfl, hgreedy⟩ := exists_greedy cs
        cases behind with
        | nil =>
          have hunfinished : Decomposes [.unfinished ('%' :: (flags ++ (width ++ point precision)))]
              ('%' :: (flags ++ (width ++ point precision)) ++ []) :=
            .cons ⟨flags, width, precision, rfl, hgreedy⟩ (fun _ => rfl) .nil
          exact ⟨_, by simpa using hunfinished⟩
        | cons conversion rest =>
          obtain ⟨ps, hps⟩ := ih rest.length (by simp at hlength; omega) rest rfl
          have hdirective : Decomposes (.directive ⟨flags, width, precision, conversion⟩ :: ps) _ :=
            .cons ((greedy_cons conversion rest).mp hgreedy) (by simp) hps
          exact ⟨_, source_directive ⟨flags, width, precision, conversion⟩ rest ▸ hdirective⟩
      · obtain ⟨ps, hps⟩ := ih cs.length (by simp at hlength; omega) cs rfl
        exact ⟨.literal c :: ps, .cons hc (by simp) hps⟩

/-- **The pieces of a template are the only ones it is made of.** -/
lemma decomposes_iff : Decomposes ps cs ↔ ps = pieces cs := by
  refine ⟨Decomposes.eq_pieces, ?_⟩
  rintro rfl
  obtain ⟨ps, hps⟩ := exists_decomposes cs
  exact hps.eq_pieces ▸ hps

/-- A template is the source of the pieces into which it decomposes. -/
lemma Decomposes.flatMap_source (h : Decomposes ps cs) : ps.flatMap TemplatePiece.source = cs := by
  induction h with
  | nil => rfl
  | cons formed finished more ih => rw [List.flatMap_cons, ih]

/-! ## Rendering -/

/-- A directive that writes a sign or a line break takes no argument. -/
lemma takesArgument_eq_false {d : Directive} (h : d.conversion = '%' ∨ d.conversion = 'n') :
    d.takesArgument = false := by
  rcases h with h | h <;> simp [takesArgument, h]

/-- A piece writes its text for the first of the arguments that are left, and leaves all but those it
takes. -/
lemma renderPiece_eq (args : List Argument) (n : Nat) (piece : TemplatePiece) :
    renderPiece (args.drop n) piece =
      (piece.text args[n]?, args.drop (n + [piece].countP TemplatePiece.takes)) := by
  cases piece with
  | literal c => rfl
  | unfinished text => rfl
  | directive d =>
    simp only [renderPiece, TemplatePiece.text, List.countP_singleton, TemplatePiece.takes]
    by_cases hpercent : d.conversion = '%'
    · simp [hpercent, takesArgument_eq_false (.inl hpercent)]
    by_cases hline : d.conversion = 'n'
    · simp [hline, takesArgument_eq_false (.inr hline)]
    simp only [if_neg hpercent, if_neg hline]
    by_cases htakes : d.takesArgument = true
    · by_cases hn : n < args.length
      · simp only [htakes, if_true, List.drop_eq_getElem_cons hn, List.getElem?_eq_getElem hn]
      · have hdrop : args.drop n = [] := List.drop_eq_nil_of_le (Nat.le_of_not_lt hn)
        have hnext : args.drop (n + 1) = [] := List.drop_eq_nil_of_le (by omega)
        simp [htakes, hdrop, hnext, List.getElem?_eq_none (Nat.le_of_not_lt hn)]
    · simp [htakes]

/-- **Each piece writes its text** for the argument at its place, and the arguments that are left
follow. -/
lemma renderPieces_eq (args : List Argument) (n : Nat) (ps : List TemplatePiece) :
    renderPieces ps (args.drop n) =
      (ps.mapIdx fun k piece => piece.text args[n + argumentsOf (ps.take k)]?).flatten ++
        surplus (args.drop (n + argumentsOf ps)) := by
  induction ps generalizing n with
  | nil => simp [renderPieces, argumentsOf]
  | cons piece ps ih =>
    have hcount : ∀ qs, argumentsOf (piece :: qs) =
        [piece].countP TemplatePiece.takes + argumentsOf qs := by
      intro qs
      rw [argumentsOf, ← List.singleton_append, List.countP_append]
      rfl
    simp only [renderPieces, renderPiece_eq, ih, List.mapIdx_cons, List.flatten_cons,
      List.take_succ_cons, List.take_zero, hcount, Nat.add_assoc, List.append_assoc]
    rfl

/-- The surplus behind some arguments: a bracket with all others, or nothing if there are none. -/
lemma surplus_drop (args : List Argument) (n : Nat) :
    surplus (args.drop n) =
      if n < args.length then
        " [".toList ++ List.intercalate ", ".toList ((args.drop n).map Argument.display) ++ "]".toList
      else [] := by
  by_cases hn : n < args.length
  · have hsome : args.drop n ≠ [] := by simpa using hn
    simp [surplus, hn, List.isEmpty_iff, hsome]
  · simp [surplus, hn, List.drop_eq_nil_of_le (Nat.le_of_not_lt hn)]

/-- Moderate widths and precisions can always be written. -/
lemma fault?_of_moderate (h : ∀ piece ∈ ps, piece.Moderate) (args : List Argument) :
    fault? ps args = none := by
  induction ps generalizing args with
  | nil => cases args <;> rfl
  | cons piece ps ih =>
    have hrest := ih fun piece hpiece => h piece (List.mem_cons_of_mem _ hpiece)
    cases piece with
    | literal c => exact hrest args
    | unfinished text => exact hrest args
    | directive d =>
      cases args with
      | nil => exact hrest []
      | cons arg args =>
        obtain ⟨hwidth, hplaces⟩ := h (.directive d) List.mem_cons_self
        have hnone : d.fault? arg = none := by
          simp [Directive.fault?, Nat.not_lt.mpr hwidth, Nat.not_lt.mpr hplaces]
        rw [fault?, hnone, hrest, hrest]
        simp

/-- **The message of a template.**  A template is made of pieces in one way only, and they concatenate
to it.  The message is what they write, each for the argument at the place that it has among the pieces
that take one, and behind it stand the arguments that no piece takes.  With moderate widths and
precisions the message can be written. -/
theorem render_of_pieces (template : String) (args : List Argument) : ∃ ps : List TemplatePiece,
    (∀ qs, Decomposes qs template.toList ↔ qs = ps) ∧
    ps.flatMap TemplatePiece.source = template.toList ∧
    render template args = String.ofList
      ((ps.mapIdx fun k piece => piece.text args[argumentsOf (ps.take k)]?).flatten ++
        if argumentsOf ps < args.length then
          " [".toList ++ List.intercalate ", ".toList ((args.drop (argumentsOf ps)).map
            Argument.display) ++ "]".toList
        else []) ∧
    ((∀ piece ∈ ps, piece.Moderate) → checked template args = .ok (render template args)) := by
  refine ⟨pieces template.toList, fun qs => decomposes_iff,
    (decomposes_iff.mpr rfl).flatMap_source, ?_, fun hmoderate => ?_⟩
  · have hpieces := renderPieces_eq args 0 (pieces template.toList)
    simp only [List.drop_zero, Nat.zero_add, surplus_drop] at hpieces
    rw [render, hpieces]
  · simp only [checked, fault?_of_moderate hmoderate, render]

/-- An unknown directive takes no argument, and the directive that lacks its conversion is given back
before the argument that is left. -/
theorem render_of_pieces_unfinished :
    checked "%03d%y%-2s|%.5" [.int 7, .bool true, .char 'z'] = .ok "007%ytrue|%.5 [z]" := by
  have hpieces : pieces "%03d%y%-2s|%.5".toList =
      [.directive ⟨['0'], ['3'], none, 'd'⟩, .directive ⟨[], [], none, 'y'⟩,
        .directive ⟨['-'], ['2'], none, 's'⟩, .literal '|', .unfinished ['%', '.', '5']] := by
    decide +kernel
  obtain ⟨ps, hunique, -, hrender, hchecked⟩ :=
    render_of_pieces "%03d%y%-2s|%.5" [.int 7, .bool true, .char 'z']
  obtain rfl : pieces "%03d%y%-2s|%.5".toList = ps := (hunique _).mp (decomposes_iff.mpr rfl)
  have hmoderate : ∀ piece ∈ pieces "%03d%y%-2s|%.5".toList, piece.Moderate := by
    rw [hpieces]
    decide
  rw [hchecked hmoderate, hrender, hpieces]
  exact congrArg Except.ok (by decide +kernel)

end Template

end NamespaceLogging
