import Mathlib.Data.List.Chain
import Mathlib.Tactic.Common
import NamespaceLogging.Proofs.TextParts
import NamespaceLogging.Record.Layout

/-!
# Layouts in print

The pieces of a layout can be printed as a pattern: every brace of a text is doubled, and a token
stands in braces under its name.  Reading a pattern and printing pieces undo each other.

## Main definitions

* `Layout.doubled`: a text with its braces doubled.
* `LayoutPiece.print`, `Layout.print`: pieces as a pattern.
* `Layout.NormalForm`: no text is empty, and no two texts are neighbours.

## Main results

* `Layout.read_print`: what is printed is read back, piece by piece.
* `Layout.NormalForm.of_join`, `Layout.NormalForm.join_items`: joining characters gives pieces in
  normal form, and takes pieces in normal form apart only to put them together again.
* `Layout.parse_print_inverse`: parsing and printing are inverse.
-/

set_option autoImplicit false

namespace NamespaceLogging

open Text

/-! ## Printing -/

namespace Layout

/-- A character as it is written in a text: a brace is doubled. -/
def escaped (c : Char) : List Char := if c = '{' ∨ c = '}' then [c, c] else [c]

/-- The text with every brace doubled. -/
def doubled (cs : List Char) : List Char := cs.flatMap escaped

end Layout

namespace LayoutPiece

/-- The piece as a part of a pattern. -/
def print : LayoutPiece → List Char
  | text cs => Layout.doubled cs
  | token t => '{' :: (t.name.toList ++ ['}'])

/-- What the printed piece is read into. -/
def items : LayoutPiece → List Layout.Item
  | text cs => cs.map Layout.Item.char
  | token t => [Layout.Item.token t]

/-- Whether the piece is a text. -/
def isText : LayoutPiece → Bool
  | text _ => true
  | token _ => false

end LayoutPiece

namespace Layout

/-- The pieces as a pattern. -/
def print (pieces : List LayoutPiece) : String := String.ofList (pieces.flatMap LayoutPiece.print)

/-- Pieces in normal form: every text is as long as it can be, and there are no empty ones. -/
structure NormalForm (pieces : List LayoutPiece) : Prop where
  nonempty : LayoutPiece.text [] ∉ pieces
  apart : pieces.IsChain fun piece next => ¬(piece.isText = true ∧ next.isText = true)

variable {pieces : List LayoutPiece} {cs before after : List Char}

/-! ## Reading what was printed -/

/-- A character that is printed in a pattern is read back, whether it was doubled or not. -/
lemma read_escaped (offset : Nat) (c : Char) (rest : List Char) :
    ∃ offset', read offset (escaped c ++ rest) = (do return .char c :: (← read offset' rest)) := by
  by_cases hbrace : c = '{' ∨ c = '}'
  · refine ⟨offset + 2, ?_⟩
    rcases hbrace with rfl | rfl <;> simp [escaped, read]
  · refine ⟨offset + c.utf8Size, ?_⟩
    obtain ⟨hopen, hclose⟩ := not_or.mp hbrace
    simp only [escaped, if_neg hbrace, List.cons_append, List.nil_append]
    rw [read.eq_5]
    all_goals grind

/-- A name of a token has no brace in it and no white space around it, and belongs to one token. -/
lemma name_readable (t : Token) :
    '}' ∉ t.name.toList ∧ t.name.toList.head? ≠ some '{' ∧ trim t.name.toList = t.name.toList ∧
      Token.ofName? t.name = some t := by
  cases t <;> decide +kernel

/-- A token that is printed in braces is read back. -/
lemma read_token (offset : Nat) (t : Token) (rest : List Char) :
    ∃ offset', read offset ((LayoutPiece.token t).print ++ rest) =
      (do return .token t :: (← read offset' rest)) := by
  obtain ⟨hclose, hopen, htrim, hname⟩ := name_readable t
  have hsplit : splitFirst? ['}'] (t.name.toList ++ '}' :: rest) = some (t.name.toList, rest) :=
    splitFirst?_of_notMem hclose
  have hfirst : ∀ more, t.name.toList ++ '}' :: rest ≠ '{' :: more := by
    intro more hmore
    cases hcs : t.name.toList with
    | nil => simp [hcs] at hmore
    | cons c cs =>
      rw [hcs, List.cons_append, List.cons.injEq] at hmore
      exact hopen (by rw [hcs, hmore.1]; rfl)
  refine ⟨offset + 2 + (String.ofList t.name.toList).utf8ByteSize, ?_⟩
  simp only [LayoutPiece.print, List.cons_append, List.append_assoc, List.nil_append]
  rw [read.eq_4 offset _ hfirst]
  split
  · rename_i hnone
    simp [hsplit] at hnone
  · rename_i body after hsome
    obtain ⟨rfl, rfl⟩ : t.name.toList = body ∧ rest = after := by simpa [hsplit] using hsome
    simp only [htrim, String.ofList_toList, hname]

/-- A text that is printed with doubled braces is read back, character by character. -/
lemma read_doubled (cs : List Char) (rest : List Char) (offset : Nat) :
    ∃ offset', read offset (doubled cs ++ rest) =
      (do return cs.map Item.char ++ (← read offset' rest)) := by
  induction cs generalizing offset with
  | nil => exact ⟨offset, by simp [doubled]⟩
  | cons c cs ih =>
    obtain ⟨next, hc⟩ := read_escaped offset c (doubled cs ++ rest)
    obtain ⟨offset', hcs⟩ := ih next
    refine ⟨offset', ?_⟩
    have hsplit : doubled (c :: cs) ++ rest = escaped c ++ (doubled cs ++ rest) := by
      simp [doubled]
    rw [hsplit, hc, hcs]
    simp

/-- **What is printed is read back**, piece by piece, wherever the pattern goes on. -/
lemma read_print (pieces : List LayoutPiece) (offset : Nat) :
    read offset (pieces.flatMap LayoutPiece.print) = .ok (pieces.flatMap LayoutPiece.items) := by
  induction pieces generalizing offset with
  | nil => simp [read]
  | cons piece pieces ih =>
    rw [List.flatMap_cons, List.flatMap_cons]
    cases piece with
    | text cs =>
      obtain ⟨next, hread⟩ := read_doubled cs (pieces.flatMap LayoutPiece.print) offset
      rw [show (LayoutPiece.text cs).print = doubled cs from rfl, hread, ih next]
      rfl
    | token t =>
      obtain ⟨next, hread⟩ := read_token offset t (pieces.flatMap LayoutPiece.print)
      rw [hread, ih next]
      rfl

/-! ## Joining characters -/

/-- A character joins the text with which the pieces begin, or becomes a text of its own in front of
them. -/
lemma join_char (c : Char) (items : List Item) :
    (∃ cs pieces, join items = .text cs :: pieces ∧
      join (.char c :: items) = .text (c :: cs) :: pieces) ∨
    ((∀ cs pieces, join items ≠ .text cs :: pieces) ∧
      join (.char c :: items) = .text [c] :: join items) := by
  rw [join]
  split
  · rename_i cs pieces hjoin
    exact .inl ⟨cs, pieces, hjoin, rfl⟩
  · rename_i hjoin
    exact .inr ⟨hjoin, rfl⟩

/-- A token may stand in front of all pieces in normal form. -/
lemma NormalForm.cons_token (h : NormalForm pieces) (t : Token) :
    NormalForm (.token t :: pieces) where
  nonempty := by simpa using h.nonempty
  apart := by
    cases pieces with
    | nil => simp
    | cons piece pieces => exact h.apart.cons_cons (by simp [LayoutPiece.isText])

/-- Joined characters are in normal form: a character goes into the text that follows it, and a new
text begins only before a token and at the end. -/
lemma NormalForm.of_join (items : List Item) : NormalForm (join items) := by
  induction items with
  | nil => exact ⟨by simp [join], by simp [join]⟩
  | cons item items ih =>
    cases item with
    | token t => exact ih.cons_token t
    | char c =>
      obtain ⟨cs, pieces, hjoin, hstep⟩ | ⟨hjoin, hstep⟩ := join_char c items
      · rw [hjoin] at ih
        rw [hstep]
        have hnonempty : LayoutPiece.text [] ∉ pieces :=
          fun hmem => ih.nonempty (List.mem_cons_of_mem _ hmem)
        refine ⟨by simpa using hnonempty, ih.apart.imp_head fun {next} hnext => ?_⟩
        simpa [LayoutPiece.isText] using hnext
      · rw [hstep]
        cases hrest : join items with
        | nil => exact ⟨by simp, by simp⟩
        | cons piece pieces =>
          rw [hrest] at ih
          cases piece with
          | text cs => exact absurd hrest (hjoin cs pieces)
          | token t =>
            exact ⟨by simpa using ih.nonempty, ih.apart.cons_cons (by simp [LayoutPiece.isText])⟩

/-- A text that is put before pieces that do not begin with one is a piece of its own. -/
lemma join_text (hcs : cs ≠ []) (items : List Item)
    (hitems : ∀ text pieces, join items ≠ .text text :: pieces) :
    join (cs.map Item.char ++ items) = .text cs :: join items := by
  induction cs with
  | nil => exact absurd rfl hcs
  | cons c cs ih =>
    rw [List.map_cons, List.cons_append, join]
    cases cs with
    | nil =>
      rw [List.map_nil, List.nil_append]
      split
      · rename_i text pieces hjoin
        exact absurd hjoin (hitems text pieces)
      · rfl
    | cons c' cs => rw [ih (by simp)]

/-- Pieces in normal form are what their items join to. -/
lemma NormalForm.join_items (h : NormalForm pieces) :
    join (pieces.flatMap LayoutPiece.items) = pieces := by
  induction pieces with
  | nil => rfl
  | cons piece pieces ih =>
    have hrest : NormalForm pieces :=
      ⟨fun hmem => h.nonempty (List.mem_cons_of_mem _ hmem), h.apart.of_cons⟩
    rw [List.flatMap_cons]
    cases piece with
    | token t => rw [show (LayoutPiece.token t).items = [.token t] from rfl, List.singleton_append,
        join, ih hrest]
    | text cs =>
      have hcs : cs ≠ [] := by
        rintro rfl
        exact h.nonempty List.mem_cons_self
      have hnext : ∀ text more, pieces ≠ .text text :: more := by
        rintro text more rfl
        simpa [LayoutPiece.isText] using h.apart
      rw [show (LayoutPiece.text cs).items = cs.map Item.char from rfl,
        join_text hcs _ (by rwa [ih hrest]), ih hrest]

/-! ## Parsing and printing -/

/-- **Pieces in normal form that are printed are parsed to themselves.** -/
lemma parse_print (h : NormalForm pieces) :
    parse (print pieces) = .ok ⟨pieces, defaultTimeFormat, Cause.defaultFrameCap⟩ := by
  have hread := read_print pieces 0
  simp only [parse, print, String.toList_ofList, hread, bind, Except.bind, pure, Except.pure,
    h.join_items]

/-- A pattern that is accepted gives a layout of joined items, with the default time format and
number of frames. -/
lemma parse_cases {pattern : String} {layout : Layout} (h : parse pattern = .ok layout) :
    ∃ items, layout = ⟨join items, defaultTimeFormat, Cause.defaultFrameCap⟩ := by
  cases hread : read 0 pattern.toList with
  | error e => simp [parse, hread, bind, Except.bind] at h
  | ok items =>
    simp only [parse, hread, bind, Except.bind, pure, Except.pure, Except.ok.injEq] at h
    exact ⟨items, h.symm⟩

/-- The pieces of a text that stands alone. -/
def textPieces (cs : List Char) : List LayoutPiece := if cs = [] then [] else [.text cs]

/-- A text alone is in normal form; an empty one is no piece at all. -/
lemma NormalForm.of_textPieces (cs : List Char) : NormalForm (textPieces cs) := by
  by_cases hcs : cs = []
  · exact ⟨by simp [textPieces, hcs], by simp [textPieces, hcs]⟩
  · exact ⟨by simp [textPieces, hcs, Ne.symm hcs], by simp [textPieces, hcs]⟩

/-- A text is printed with its braces doubled. -/
lemma print_textPieces (cs : List Char) : print (textPieces cs) = String.ofList (doubled cs) := by
  by_cases hcs : cs = []
  · simp [print, textPieces, hcs, doubled]
  · simp [print, textPieces, hcs, LayoutPiece.print]

/-- A layout of one text at most writes that text for every record, and asks the record for
nothing. -/
lemma render_textPieces (cs : List Char) (timeFormat : String) (frameCap : Nat) (r : Record) :
    render ⟨textPieces cs, timeFormat, frameCap⟩ r = .ok (String.ofList cs, r) := by
  by_cases hcs : cs = []
  · subst hcs
    rfl
  · simp [render, showsMessage, line, pieceText, textPieces, hcs, pure, Except.pure, bind,
      Except.bind, String.join]

/-- **Parsing and printing are inverse.**  A pattern that is accepted gives pieces in normal form
and reads the same again from its printed form; pieces in normal form come back from print as they
are; and a text with its braces doubled is a layout that writes the text, for every record. -/
theorem parse_print_inverse :
    (∀ pattern layout, parse pattern = .ok layout →
      NormalForm layout.pieces ∧ parse (print layout.pieces) = .ok layout) ∧
    (∀ pieces, NormalForm pieces →
      parse (print pieces) = .ok ⟨pieces, defaultTimeFormat, Cause.defaultFrameCap⟩) ∧
    ∀ s : String, ∃ layout, parse (String.ofList (doubled s.toList)) = .ok layout ∧
      ∀ r, layout.render r = .ok (s, r) := by
  refine ⟨fun pattern layout hparse => ?_, fun pieces => parse_print, fun s => ?_⟩
  · obtain ⟨items, rfl⟩ := parse_cases hparse
    exact ⟨.of_join items, parse_print (.of_join items)⟩
  · rw [← print_textPieces]
    exact ⟨_, parse_print (.of_textPieces s.toList), fun r => by simp [render_textPieces]⟩

/-- A token between texts that end and begin with a brace, and a text that looks like a token. -/
theorem parse_print_inverse_braces :
    parse "\x7b\x7b\x7blevel\x7d\x7d\x7d" =
        .ok ⟨[.text ['{'], .token .level, .text ['}']], defaultTimeFormat,
          Cause.defaultFrameCap⟩ ∧
      print [.text ['{'], .token .level, .text ['}']] = "\x7b\x7b\x7blevel\x7d\x7d\x7d" ∧
      parse (print [.text ['{'], .token .level, .text ['}']]) =
        .ok ⟨[.text ['{'], .token .level, .text ['}']], defaultTimeFormat,
          Cause.defaultFrameCap⟩ ∧
      ∃ layout, parse "\x7b\x7blevel\x7d\x7d" = .ok layout ∧
        ∀ r, layout.render r = .ok ("\x7blevel\x7d", r) := by
  have hprint : print [.text ['{'], .token .level, .text ['}']] =
      "\x7b\x7b\x7blevel\x7d\x7d\x7d" := by decide +kernel
  have hnormal : NormalForm [.text ['{'], .token .level, .text ['}']] :=
    ⟨by decide, by simp [LayoutPiece.isText]⟩
  have hparse := parse_print_inverse.2.1 _ hnormal
  rw [hprint] at hparse
  have hdoubled : String.ofList (doubled "\x7blevel\x7d".toList) = "\x7b\x7blevel\x7d\x7d" := by
    decide +kernel
  exact ⟨hparse, hprint, (parse_print_inverse.1 _ _ hparse).2,
    hdoubled ▸ parse_print_inverse.2.2 "\x7blevel\x7d"⟩

end Layout

end NamespaceLogging
