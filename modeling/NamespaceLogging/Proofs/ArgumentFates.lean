import NamespaceLogging.Proofs.IntegerDirectives

/-!
# What becomes of arguments

Each argument of a message either has a directive that takes it, or stands in brackets behind the
message.  A directive that takes an argument shows it in one way or another, for want of a better one by
its plain text.  The exceptions are the bases sixteen and eight: where such a directive meets a
floating-point number or a text, it writes itself, and the argument is gone without a trace.

## Main definitions

* `Argument.Wordless`: floating-point numbers and texts.
* `Directive.Shows`: the texts in which a directive shows an argument.
* `Template.WrittenBy`: what the message has at the place of the directive that takes an argument.
* `Template.Shown`, `Template.Listed`, `Template.Unconverted`: what becomes of an argument.

## Main results

* `Directive.shows_convert`: what a directive writes shows its argument, unless the argument is not to
  be converted.
* `Template.renderPieces_append`: the beginning of a template is written for the arguments that it takes,
  and the rest for those behind them.
* `Template.shown_or_listed_iff`: which arguments can be seen in the message.
-/

set_option autoImplicit false

namespace NamespaceLogging

/-- The argument is a floating-point number or a text, which stand for no integer. -/
def Argument.Wordless : Argument → Prop
  | float _ | text _ => True
  | int _ | uint _ | bool _ | char _ => False

/-- An argument is wordless just if it cannot be read as an integer. -/
lemma Argument.wordless_iff {arg : Argument} : arg.Wordless ↔ arg.integer? = none := by
  cases arg <;> simp [Wordless, integer?]

namespace Directive

/-- The directive writes a word in base sixteen or eight. -/
def ForWords (d : Directive) : Prop := d.conversion ∈ ['x', 'X', 'o']

/-- The texts in which a directive shows an argument. -/
inductive Shows (d : Directive) (arg : Argument) : List Char → Prop
  /-- The plain text. -/
  | plain (hwords : ¬ d.ForWords) : Shows d arg arg.display
  /-- The beginning of the plain text, when there is to be no more of it. -/
  | beginning {most : Nat} (hconversion : d.conversion = 's')
      (hmost : d.precision.bind number? = some most) : Shows d arg (arg.display.take most)
  /-- A numeral that is read back as the integer. -/
  | decimal {n : Int} {numeral : List Char} (hbase : base? d.conversion = some 10)
      (hn : arg.integer? = some n) (hread : readInt? numeral = some n) : Shows d arg numeral
  /-- A numeral that is read back as the word of the integer. -/
  | word {base : Nat} {n : Int} {numeral : List Char} (hbase : base? d.conversion = some base)
      (hten : base ≠ 10) (hn : arg.integer? = some n)
      (hread : readNat? base numeral = some (wordOf n)) : Shows d arg numeral
  /-- A number without its fraction. -/
  | whole {value : Binary64} (hbase : base? d.conversion = some 10) (harg : arg = .float value) :
      Shows d arg value.trunc.positional
  /-- A number with so many places. -/
  | places {value : Binary64} (hconversion : d.conversion = 'f') (hvalue : arg.number? = some value) :
      Shows d arg (value.fixed ((d.precision.bind number?).getD 6))
  /-- A number with an exponent. -/
  | exponent {value : Binary64} (hconversion : d.conversion = 'e') (hvalue : arg.number? = some value)
      (hprecision : d.precision.bind number? = none) : Shows d arg value.scientific
  /-- A number with an exponent and so many places. -/
  | exponentPlaces {value : Binary64} {most : Nat} (hconversion : d.conversion = 'e')
      (hvalue : arg.number? = some value) (hprecision : d.precision.bind number? = some most) :
      Shows d arg (value.scientificFixed most)
  /-- A truth value. -/
  | truth (hconversion : d.conversion = 'b') :
      Shows d arg (if arg.truthy then "true" else "false").toList
  /-- The character with this number. -/
  | character {c : Char} (hconversion : d.conversion = 'c') (hc : arg.integer? = some (c.toNat : Int)) :
      Shows d arg [c]

variable {d : Directive} {arg : Argument} {text : List Char}

/-- A number that stands for a character is the number of that character. -/
lemma scalar?_eq_some {n : Int} {c : Char} (h : scalar? n = some c) : n = c.toNat := by
  by_cases hn : 0 ≤ n ∧ n.toNat.isValidChar
  · rw [scalar?, dif_pos hn] at h
    obtain rfl := Option.some.inj h
    exact (Int.toNat_of_nonneg hn.1).symm
  · rw [scalar?, dif_neg hn] at h
    cases h

/-- A text that shows an argument in base sixteen or eight shows an integer. -/
lemma Shows.not_wordless (h : d.Shows arg text) (hwords : d.ForWords) : ¬ arg.Wordless := by
  rw [Argument.wordless_iff]
  have hmem : d.conversion = 'x' ∨ d.conversion = 'X' ∨ d.conversion = 'o' := by
    simpa [ForWords] using hwords
  have hword : base? d.conversion ≠ some 10 := by
    rcases hmem with h | h | h <;> rw [h] <;> decide
  cases h with
  | plain hplain => exact absurd hwords hplain
  | decimal hbase => exact absurd hbase hword
  | word _ _ hn => simp [hn]
  | whole hbase => exact absurd hbase hword
  | character _ hc => simp [hc]
  | _ => simp_all

/-- A word cannot be written for what is no integer: the directive writes itself. -/
lemma convert_of_wordless (hwords : d.ForWords) (hwordless : arg.Wordless) :
    d.convert arg = d.source := by
  rw [Argument.wordless_iff] at hwordless
  have hmem : d.conversion = 'x' ∨ d.conversion = 'X' ∨ d.conversion = 'o' := by
    simpa [ForWords] using hwords
  rcases hmem with h | h | h <;> simp [convert, h, hwordless]

/-- The plain text or its beginning. -/
lemma shows_text (hconversion : d.conversion = 's') : d.Shows arg (d.convert arg) := by
  cases hprecision : d.precision.bind number? with
  | none =>
    have hconvert : d.convert arg = arg.display := by simp [convert, hconversion, hprecision]
    rw [hconvert]
    exact .plain (by simp [ForWords, hconversion])
  | some most =>
    have hconvert : d.convert arg = arg.display.take most := by
      simp [convert, hconversion, hprecision]
    rw [hconvert]
    exact .beginning hconversion hprecision

/-- An integer is shown in every base. -/
lemma shows_integer {base : Nat} {n : Int} (hbase : base? d.conversion = some base)
    (hn : arg.integer? = some n) : d.Shows arg (d.convert arg) := by
  rw [convert_eq hbase hn]
  by_cases hten : base = 10
  · subst hten
    exact .decimal hbase hn (readInt?_numeral hbase n 0)
  · exact .word hbase hten hn (readNat?_numeral hbase hten n 0)

/-- What is no integer is shown in base ten. -/
lemma shows_wordless (hdecimal : d.conversion = 'd' ∨ d.conversion = 'i' ∨ d.conversion = 'u')
    (hwordless : arg.Wordless) : d.Shows arg (d.convert arg) := by
  cases arg with
  | float value =>
    have hten : base? d.conversion = some 10 := by rcases hdecimal with h | h | h <;> rw [h] <;> rfl
    have hconvert : d.convert (.float value) = value.trunc.positional := by
      rcases hdecimal with h | h | h <;> simp [convert, h]
    rw [hconvert]
    exact .whole hten rfl
  | text value =>
    have hconvert : d.convert (.text value) = (Argument.text value).display := by
      rcases hdecimal with h | h | h <;> simp [convert, h, Argument.integer?]
    rw [hconvert]
    refine .plain ?_
    rcases hdecimal with h | h | h <;> simp [ForWords, h]
  | _ => simp [Argument.Wordless] at hwordless

/-- A number is shown with its places, and anything else by its plain text. -/
lemma shows_places (hconversion : d.conversion = 'f') : d.Shows arg (d.convert arg) := by
  cases hvalue : arg.number? with
  | none =>
    have hconvert : d.convert arg = arg.display := by simp [convert, hconversion, hvalue]
    rw [hconvert]
    exact .plain (by simp [ForWords, hconversion])
  | some value =>
    have hconvert : d.convert arg = value.fixed ((d.precision.bind number?).getD 6) := by
      simp [convert, hconversion, hvalue]
    rw [hconvert]
    exact .places hconversion hvalue

/-- A number is shown with an exponent, and anything else by its plain text. -/
lemma shows_exponent (hconversion : d.conversion = 'e') : d.Shows arg (d.convert arg) := by
  cases hvalue : arg.number? with
  | none =>
    have hconvert : d.convert arg = arg.display := by simp [convert, hconversion, hvalue]
    rw [hconvert]
    exact .plain (by simp [ForWords, hconversion])
  | some value =>
    cases hprecision : d.precision.bind number? with
    | none =>
      have hconvert : d.convert arg = value.scientific := by
        simp [convert, hconversion, hvalue, hprecision]
      rw [hconvert]
      exact .exponent hconversion hvalue hprecision
    | some most =>
      have hconvert : d.convert arg = value.scientificFixed most := by
        simp [convert, hconversion, hvalue, hprecision]
      rw [hconvert]
      exact .exponentPlaces hconversion hvalue hprecision

/-- A number is shown by the character that it stands for, and by its plain text if there is none. -/
lemma shows_character (hconversion : d.conversion = 'c') : d.Shows arg (d.convert arg) := by
  by_cases hchar : ∃ c, arg = .char c
  · obtain ⟨c, rfl⟩ := hchar
    have hconvert : d.convert (.char c) = [c] := by simp [convert, hconversion]
    rw [hconvert]
    exact .character hconversion rfl
  · have hconvert : d.convert arg =
        ((arg.integer?.bind scalar?).map fun c => [c]).getD arg.display := by
      cases arg with
      | char c => exact absurd ⟨c, rfl⟩ hchar
      | _ => simp [convert, hconversion]
    rw [hconvert]
    cases hscalar : arg.integer?.bind scalar? with
    | none => exact .plain (by simp [ForWords, hconversion])
    | some c =>
      obtain ⟨n, hn, hc⟩ := Option.bind_eq_some_iff.mp hscalar
      exact .character hconversion (scalar?_eq_some hc ▸ hn)

/-- **What a directive writes shows its argument**, unless that is to be written as a word and is none.

**Proof sketch.**  An integer is read back from its numeral in any base.  What is no integer has no
numeral in base sixteen and eight, and the plain text stands in for it elsewhere. -/
lemma shows_convert (htakes : d.takesArgument = true) (hable : d.ForWords → ¬ arg.Wordless) :
    d.Shows arg (d.convert arg) := by
  have hconversion : d.conversion = 's' ∨ (∃ base, base? d.conversion = some base) ∨
      d.conversion = 'f' ∨ d.conversion = 'e' ∨ d.conversion = 'b' ∨ d.conversion = 'c' := by
    have hmem : d.conversion ∈ "sdiuxXofebc".toList := by simpa [takesArgument] using htakes
    simp only [String.reduceToList, List.mem_cons, List.not_mem_nil, or_false] at hmem
    rcases hmem with h | h | h | h | h | h | h | h | h | h | h <;> simp [h, base?]
  rcases hconversion with h | ⟨base, hbase⟩ | h | h | h | h
  · exact shows_text h
  · cases hn : arg.integer? with
    | some n => exact shows_integer hbase hn
    | none =>
      have hwordless := Argument.wordless_iff.mpr hn
      refine shows_wordless ?_ hwordless
      have hwords : ¬ d.ForWords := fun hwords => hable hwords hwordless
      rcases conversion_cases hbase with h | h | h | h | h | h <;> simp_all [ForWords]
  · exact shows_places h
  · exact shows_exponent h
  · have hconvert : d.convert arg = (if arg.truthy then "true" else "false").toList := by
      simp [convert, h]
    rw [hconvert]
    exact .truth h
  · exact shows_character h

end Directive

/-! ## The pieces before an argument and behind it -/

/-- A piece that takes no argument does not look at one. -/
lemma TemplatePiece.text_eq_of_not_takes {piece : TemplatePiece} (h : piece.takes = false)
    (arg arg' : Option Argument) : piece.text arg = piece.text arg' := by
  cases piece with
  | literal c => rfl
  | unfinished text => rfl
  | directive d =>
    have htakes : d.takesArgument = false := h
    simp [text, htakes]

namespace Template

open Directive

/-- The directive is the one of the pieces that takes the argument at the place `i`: so many arguments
are taken before it. -/
def TakenBy (ps : List TemplatePiece) (i : Nat) (d : Directive) : Prop :=
  ∃ before after, ps = before ++ .directive d :: after ∧ d.takesArgument = true ∧
    argumentsOf before = i

/-- The message has the text at the place of the directive that takes the argument. -/
def WrittenBy (template : String) (args : List Argument) (i : Nat) (d : Directive)
    (text : List Char) : Prop :=
  ∃ before after, pieces template.toList = before ++ .directive d :: after ∧
    d.takesArgument = true ∧ argumentsOf before = i ∧
    render template args = String.ofList
      (renderPieces before (args.take i) ++ text ++ renderPieces after (args.drop (i + 1)))

/-- A directive takes the argument and shows it. -/
def Shown (template : String) (args : List Argument) (i : Nat) : Prop :=
  ∃ arg d text, args[i]? = some arg ∧ d.Shows arg text ∧
    WrittenBy template args i d (d.padded text)

/-- The plain text of the argument stands in brackets at the end of the message, among those of all
arguments that no directive takes. -/
def Listed (template : String) (args : List Argument) (i : Nat) : Prop :=
  let taken := argumentsOf (pieces template.toList)
  taken ≤ i ∧ render template args = String.ofList
    (renderPieces (pieces template.toList) (args.take taken) ++ " [".toList ++
      List.intercalate ", ".toList ((args.drop taken).map Argument.display) ++ "]".toList)

/-- The argument is neither an integer nor anything that stands for one, and a directive takes it that
is to write a word. -/
def Unconverted (template : String) (args : List Argument) (i : Nat) : Prop :=
  ∃ arg d, args[i]? = some arg ∧ arg.Wordless ∧ d.ForWords ∧ TakenBy (pieces template.toList) i d

variable {ps before after : List TemplatePiece} {d d' : Directive} {args : List Argument} {i : Nat}
  {template : String} {arg : Argument} {text : List Char}

/-- The arguments that pieces take add up. -/
lemma argumentsOf_append : argumentsOf (before ++ after) = argumentsOf before + argumentsOf after :=
  List.countP_append

/-- A directive that takes an argument takes one more than the pieces around it. -/
lemma argumentsOf_taking (htakes : d.takesArgument = true) :
    argumentsOf (before ++ .directive d :: after) = argumentsOf before + (argumentsOf after + 1) := by
  rw [argumentsOf_append]
  congr 1
  exact List.countP_cons_of_pos htakes

/-- An argument that is taken is one of those that the pieces take. -/
lemma TakenBy.lt (h : TakenBy ps i d) : i < argumentsOf ps := by
  obtain ⟨before, after, rfl, htakes, rfl⟩ := h
  rw [argumentsOf_taking htakes]
  omega

/-- One directive only takes the argument. -/
lemma TakenBy.unique (h : TakenBy ps i d) (h' : TakenBy ps i d') : d = d' := by
  obtain ⟨before, after, rfl, htakes, rfl⟩ := h
  obtain ⟨before', after', heq, htakes', hi⟩ := h'
  rcases List.append_eq_append_iff.mp heq with ⟨between, rfl, hsplit⟩ | ⟨between, rfl, hsplit⟩
  · cases between with
    | nil => simpa using (List.cons.inj hsplit).1
    | cons piece between =>
      obtain ⟨rfl, -⟩ := List.cons.inj hsplit
      rw [argumentsOf_taking htakes] at hi
      omega
  · cases between with
    | nil => simpa using (List.cons.inj hsplit).1.symm
    | cons piece between =>
      obtain ⟨rfl, -⟩ := List.cons.inj hsplit
      rw [argumentsOf_taking htakes'] at hi
      omega

/-- If more arguments are taken, some directive takes this one. -/
lemma exists_takenBy (h : i < argumentsOf ps) : ∃ d, TakenBy ps i d := by
  induction ps generalizing i with
  | nil => simp [argumentsOf] at h
  | cons piece ps ih =>
    by_cases htakes : piece.takes = true
    · have hcount : ∀ qs, argumentsOf (piece :: qs) = argumentsOf qs + 1 := fun qs =>
        List.countP_cons_of_pos htakes
      cases i with
      | zero =>
        cases piece with
        | directive d => exact ⟨d, [], ps, rfl, htakes, rfl⟩
        | _ => simp [TemplatePiece.takes] at htakes
      | succ i =>
        rw [hcount] at h
        obtain ⟨d, before, after, rfl, hd, rfl⟩ := ih (Nat.lt_of_succ_lt_succ h)
        exact ⟨d, piece :: before, after, rfl, hd, hcount before⟩
    · have hcount : ∀ qs, argumentsOf (piece :: qs) = argumentsOf qs := fun qs =>
        List.countP_cons_of_neg htakes
      rw [hcount] at h
      obtain ⟨d, before, after, rfl, hd, rfl⟩ := ih h
      exact ⟨d, piece :: before, after, rfl, hd, hcount before⟩

/-- **The beginning of a template is written for the arguments that it takes**, and the rest for those
behind them. -/
lemma renderPieces_append (h : argumentsOf before ≤ args.length) :
    renderPieces (before ++ after) args =
      renderPieces before (args.take (argumentsOf before)) ++
        renderPieces after (args.drop (argumentsOf before)) := by
  induction before generalizing args with
  | nil => simp [argumentsOf, renderPieces, surplus]
  | cons piece before ih =>
    have hfirst := renderPiece_eq args 0 piece
    rw [List.drop_zero, Nat.zero_add] at hfirst
    by_cases htakes : piece.takes = true
    · have hcount : argumentsOf (piece :: before) = argumentsOf before + 1 :=
        List.countP_cons_of_pos htakes
      rw [hcount] at h ⊢
      cases args with
      | nil => simp at h
      | cons arg args =>
        have hsecond := renderPiece_eq (arg :: args.take (argumentsOf before)) 0 piece
        rw [List.drop_zero, Nat.zero_add] at hsecond
        simp only [List.countP_singleton, htakes, if_true, List.drop_succ_cons, List.drop_zero,
          List.getElem?_cons_zero] at hfirst hsecond
        rw [List.cons_append, renderPieces, List.take_succ_cons, renderPieces, hfirst, hsecond,
          List.drop_succ_cons]
        simp only [ih (Nat.le_of_succ_le_succ h), List.append_assoc]
    · have hcount : argumentsOf (piece :: before) = argumentsOf before :=
        List.countP_cons_of_neg htakes
      rw [hcount] at h ⊢
      have hsecond := renderPiece_eq (args.take (argumentsOf before)) 0 piece
      rw [List.drop_zero, Nat.zero_add] at hsecond
      simp only [List.countP_singleton, htakes, if_false, List.drop_zero,
        Bool.false_eq_true] at hfirst hsecond
      rw [List.cons_append, renderPieces, renderPieces, hfirst, hsecond]
      simp only [ih h, List.append_assoc]
      rw [TemplatePiece.text_eq_of_not_takes (by simpa using htakes)]

/-- A directive that takes an argument writes what it makes of it. -/
lemma renderPieces_taking (htakes : d.takesArgument = true) :
    renderPieces (.directive d :: after) (arg :: args) =
      d.padded (d.convert arg) ++ renderPieces after args := by
  have hpercent : d.conversion ≠ '%' := fun h => by
    simp [takesArgument_eq_false (.inl h)] at htakes
  have hline : d.conversion ≠ 'n' := fun h => by
    simp [takesArgument_eq_false (.inr h)] at htakes
  simp [renderPieces, renderPiece, hpercent, hline, htakes]

/-! ## What the message has for an argument -/

/-- Around the place of the directive that takes it an argument does not matter. -/
lemma render_taking (hpieces : pieces template.toList = before ++ .directive d :: after)
    (htakes : d.takesArgument = true) (harg : args[argumentsOf before]? = some arg) :
    render template args = String.ofList
      (renderPieces before (args.take (argumentsOf before)) ++ d.padded (d.convert arg) ++
        renderPieces after (args.drop (argumentsOf before + 1))) := by
  obtain ⟨hlt, rfl⟩ := List.getElem?_eq_some_iff.mp harg
  rw [render, hpieces, renderPieces_append hlt.le, List.drop_eq_getElem_cons hlt,
    renderPieces_taking htakes, List.append_assoc]

/-- An argument that is there and is taken by a directive is written by that directive. -/
lemma TakenBy.writtenBy (h : TakenBy (pieces template.toList) i d) (harg : args[i]? = some arg) :
    WrittenBy template args i d (d.padded (d.convert arg)) := by
  obtain ⟨before, after, hpieces, htakes, rfl⟩ := h
  exact ⟨before, after, hpieces, htakes, rfl, render_taking hpieces htakes harg⟩

/-- An argument that is written by a directive was taken by it. -/
lemma WrittenBy.takenBy (h : WrittenBy template args i d text) :
    TakenBy (pieces template.toList) i d := by
  obtain ⟨before, after, hpieces, htakes, hi, -⟩ := h
  exact ⟨before, after, hpieces, htakes, hi⟩

/-- The arguments that no directive takes stand behind the message. -/
lemma listed_of_le (hi : i < args.length) (hle : argumentsOf (pieces template.toList) ≤ i) :
    Listed template args i := by
  refine ⟨hle, ?_⟩
  have hall := @renderPieces_append (pieces template.toList) [] args (hle.trans hi.le)
  rw [List.append_nil, renderPieces, surplus_drop, if_pos (Nat.lt_of_le_of_lt hle hi)] at hall
  rw [render, hall]
  simp only [List.append_assoc]

/-- What a directive takes and cannot write leaves no trace: any other argument of the kind has the
same message. -/
lemma Unconverted.render_set (h : Unconverted template args i) {other : Argument}
    (hother : other.Wordless) : render template (args.set i other) = render template args := by
  obtain ⟨arg, d, harg, hwordless, hwords, before, after, hpieces, htakes, rfl⟩ := h
  obtain ⟨hlt, -⟩ := List.getElem?_eq_some_iff.mp harg
  rw [render_taking hpieces htakes harg, render_taking hpieces htakes (List.getElem?_set_self hlt),
    List.take_set_of_le (Nat.le_refl _), List.drop_set_of_lt (Nat.lt_succ_self _),
    convert_of_wordless hwords hother, convert_of_wordless hwords hwordless]

/-- **Which arguments can be seen in a message.**  An argument is shown by the directive that takes it,
or is listed behind the message, unless a directive takes it that is to write a word in base sixteen or
eight and the argument is a floating-point number or a text.  Then the message has the directive itself,
filled up to its width, and would be the same with any other such argument.  With moderate widths and
precisions the message can be written.

**Proof sketch.**  As many arguments are taken as there are directives that take one, so that an argument
either has one such directive, which is the one with so many of them before it, or stands behind all
that are taken.  Which arguments stand before it and behind it does not depend on what it is. -/
theorem shown_or_listed_iff (template : String) (args : List Argument) (i : Nat)
    (hi : i < args.length) :
    (Shown template args i ∨ Listed template args i ↔ ¬ Unconverted template args i) ∧
    (Unconverted template args i →
      (∃ d, WrittenBy template args i d (d.padded d.source)) ∧
      ∀ other : Argument, other.Wordless →
        render template (args.set i other) = render template args) ∧
    ((∀ piece ∈ pieces template.toList, piece.Moderate) →
      checked template args = .ok (render template args)) := by
  have harg : args[i]? = some args[i] := List.getElem?_eq_getElem hi
  refine ⟨⟨?seen, ?able⟩, fun hunconverted => ⟨?itself, fun _ => hunconverted.render_set⟩,
    fun hmoderate => ?written⟩
  case seen =>
    rintro hseen ⟨arg, d, harg, hwordless, hwords, htaken⟩
    rcases hseen with ⟨arg', d', text, harg', hshows, hwritten⟩ | ⟨hle, -⟩
    · obtain rfl := htaken.unique hwritten.takenBy
      obtain rfl : arg = arg' := Option.some.inj (harg.symm.trans harg')
      exact hshows.not_wordless hwords hwordless
    · exact Nat.not_lt.mpr hle htaken.lt
  case able =>
    intro hconverted
    rcases Nat.lt_or_ge i (argumentsOf (pieces template.toList)) with hlt | hle
    · obtain ⟨d, htaken⟩ := exists_takenBy hlt
      obtain ⟨before, after, -, htakes, -⟩ := id htaken
      have hable : d.ForWords → ¬ args[i].Wordless := fun hwords hwordless =>
        hconverted ⟨args[i], d, harg, hwordless, hwords, htaken⟩
      exact .inl ⟨args[i], d, _, harg, shows_convert htakes hable, htaken.writtenBy harg⟩
    · exact .inr (listed_of_le hi hle)
  case itself =>
    obtain ⟨arg, d, harg, hwordless, hwords, htaken⟩ := hunconverted
    exact ⟨d, convert_of_wordless hwords hwordless ▸ htaken.writtenBy harg⟩
  case written => simp only [checked, fault?_of_moderate hmoderate, render]

/-- Three arguments, of which the first meets a directive for words. -/
def someArguments : List Argument := [.text "abc", .int 5, .bool true]

/-- The text cannot be told from another one, while the integer and the truth value can be seen. -/
theorem shown_or_listed_iff_of_text :
    Unconverted "%x %d" someArguments 0 ∧
    ¬ (Shown "%x %d" someArguments 0 ∨ Listed "%x %d" someArguments 0) ∧
    render "%x %d" (someArguments.set 0 (.text "xyz")) = render "%x %d" someArguments ∧
    (Shown "%x %d" someArguments 1 ∨ Listed "%x %d" someArguments 1) ∧
    (Shown "%x %d" someArguments 2 ∨ Listed "%x %d" someArguments 2) ∧
    checked "%x %d" someArguments = .ok "%x 5 [true]" := by
  have hpieces : pieces "%x %d".toList =
      [.directive ⟨[], [], none, 'x'⟩, .literal ' ', .directive ⟨[], [], none, 'd'⟩] := by
    decide +kernel
  have hmoderate : ∀ piece ∈ pieces "%x %d".toList, piece.Moderate := by
    rw [hpieces]
    decide
  have hunconverted : Unconverted "%x %d" someArguments 0 :=
    ⟨.text "abc", ⟨[], [], none, 'x'⟩, rfl, trivial, by simp [ForWords], [], _, hpieces, rfl, rfl⟩
  have hint : ¬ Unconverted "%x %d" someArguments 1 := by
    rintro ⟨arg, d, harg, hwordless, -⟩
    obtain rfl := Option.some.inj harg
    exact hwordless
  have hbool : ¬ Unconverted "%x %d" someArguments 2 := by
    rintro ⟨arg, d, harg, hwordless, -⟩
    obtain rfl := Option.some.inj harg
    exact hwordless
  obtain ⟨hseen, hlost, hchecked⟩ := shown_or_listed_iff "%x %d" someArguments 0 (by decide)
  refine ⟨hunconverted, fun h => hseen.mp h hunconverted, (hlost hunconverted).2 (.text "xyz") trivial,
    (shown_or_listed_iff "%x %d" someArguments 1 (by decide)).1.mpr hint,
    (shown_or_listed_iff "%x %d" someArguments 2 (by decide)).1.mpr hbool, ?_⟩
  rw [hchecked hmoderate]
  exact congrArg Except.ok (by decide +kernel)

end Template

end NamespaceLogging
