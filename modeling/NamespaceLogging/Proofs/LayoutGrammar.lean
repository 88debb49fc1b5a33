import Mathlib.Tactic.Common
import NamespaceLogging.Proofs.LayoutPrinting

/-!
# The grammar of layouts

A pattern is a sequence of lexemes: characters, doubled braces, single closing braces and tokens.  What
follows a lexeme matters, since a brace before the same brace is doubled.  A pattern is accepted just if
it can be read to its end in this way, and else there is an opening brace behind the part that can be
read.

## Main definitions

* `Lexeme`, `Lexeme.Fits`: the smallest parts of a pattern, and what may follow them.
* `Layout.Reads`: lexemes are the front part of a pattern.
* `Layout.Offends`: the error of an opening brace that begins no lexeme.

## Main results

* `Layout.read_lexeme`, `Layout.read_of_reads`: reading goes on behind a lexeme, and behind several.
* `Layout.exists_reads`: every pattern is read to its end, or up to an opening brace that offends.
* `Layout.line_join`: the line of joined items is what the items write, one after the other.
* `Layout.parse_iff_reads`: what is accepted, what it writes, and where the error is.
-/

set_option autoImplicit false

namespace NamespaceLogging

open Text

/-! ## Lexemes -/

/-- A smallest part of a pattern. -/
inductive Lexeme where
  /-- A character that is not a brace. -/
  | plain (c : Char)
  | doubledOpening
  | doubledClosing
  /-- A closing brace with another character behind it. -/
  | loneClosing
  /-- A token, as it stands between its braces. -/
  | token (body : List Char) (t : Token)
deriving DecidableEq, Repr

namespace Lexeme

/-- How the lexeme is written. -/
def source : Lexeme → List Char
  | plain c => [c]
  | doubledOpening => ['{', '{']
  | doubledClosing => ['}', '}']
  | loneClosing => ['}']
  | token body _ => '{' :: (body ++ ['}'])

/-- What the lexeme is read into. -/
def item : Lexeme → Layout.Item
  | plain c => .char c
  | doubledOpening => .char '{'
  | doubledClosing => .char '}'
  | loneClosing => .char '}'
  | token _ t => .token t

/-- Whether the lexeme is one of the grammar where the rest of the pattern follows it. -/
def Fits (rest : List Char) : Lexeme → Prop
  | plain c => c ≠ '{' ∧ c ≠ '}'
  | doubledOpening | doubledClosing => True
  | loneClosing => rest.head? ≠ some '}'
  | token body t => body.head? ≠ some '{' ∧ '}' ∉ body ∧ trim body = t.name.toList

end Lexeme

namespace Layout

/-- The number of bytes of a text. -/
def width (cs : List Char) : Nat := (String.ofList cs).utf8ByteSize

/-- The pattern begins with the lexemes, each of which fits what follows it, and the rest is behind
them. -/
inductive Reads : List Char → List Lexeme → List Char → Prop
  | done (rest : List Char) : Reads rest [] rest
  | step {lexeme : Lexeme} {lexemes : List Lexeme} {cs rest : List Char} (fits : lexeme.Fits cs)
      (more : Reads cs lexemes rest) : Reads (lexeme.source ++ cs) (lexeme :: lexemes) rest

/-- The error of an opening brace at the offset, with the rest of the pattern behind it: there is no
closing brace any more, or what stands before the next one is not the name of a token. -/
inductive Offends (offset : Nat) (rest : List Char) : ConfigError → Prop
  | unterminated (single : rest.head? ≠ some '{') (unclosed : '}' ∉ rest) :
      Offends offset rest (.unterminatedToken offset)
  | unknown {body after : List Char} (single : rest.head? ≠ some '{')
      (closed : rest = body ++ '}' :: after) (next : '}' ∉ body)
      (nameless : ∀ t : Token, trim body ≠ t.name.toList) :
      Offends offset rest (.unknownToken (String.ofList (trim body)))

/-- The text of an item. -/
def itemText (layout : Layout) (r : Record) : Item → String
  | .char c => String.singleton c
  | .token t => layout.tokenText r t

variable {lexeme : Lexeme} {lexemes : List Lexeme} {cs rest before after : List Char} {offset : Nat}

/-! ## Lengths and bytes -/

@[simp] lemma width_nil : width [] = 0 := rfl

@[simp] lemma width_append (cs cs' : List Char) : width (cs ++ cs') = width cs + width cs' := by
  simp [width, String.ofList_append, String.utf8ByteSize_append]

/-- A character alone is as wide as its encoding. -/
lemma width_singleton (c : Char) : width [c] = c.utf8Size := by
  simp [width]

/-- The bytes of a text are the encodings of its characters, one after the other. -/
lemma bytes_eq (s : String) : s.toUTF8.data.toList = s.toList.flatMap String.utf8EncodeChar := by
  rw [String.toUTF8, ← String.utf8Encode_toList, List.utf8Encode, List.data_toByteArray]

/-- A text has as many bytes as it is wide. -/
lemma length_bytes (cs : List Char) : (cs.flatMap String.utf8EncodeChar).length = width cs := by
  induction cs with
  | nil => rfl
  | cons c cs ih =>
    rw [List.flatMap_cons, List.length_append, ih, String.length_utf8EncodeChar,
      ← List.singleton_append, width_append, width_singleton]

/-- The byte of a closing brace is part of no other character: the characters with more than one byte
have greater ones only. -/
lemma closing_of_mem_utf8EncodeChar {c : Char} (h : 0x7D ∈ String.utf8EncodeChar c) : c = '}' := by
  suffices hvalue : c.val.toNat = 0x7D from Char.ext (UInt32.toNat_inj.mp hvalue)
  have hbyte : ∀ n, (0x7D : UInt8) = UInt8.ofNat n → n % 256 = 0x7D :=
    fun n hn => (congrArg UInt8.toNat hn).symm
  rw [String.utf8EncodeChar] at h
  split at h
  · have := hbyte _ (List.mem_singleton.mp h)
    omega
  · exfalso
    split at h
    · simp only [List.mem_cons, List.not_mem_nil, or_false] at h
      rcases h with h | h <;> have := hbyte _ h <;> omega
    split at h
    · simp only [List.mem_cons, List.not_mem_nil, or_false] at h
      rcases h with h | h | h <;> have := hbyte _ h <;> omega
    · simp only [List.mem_cons, List.not_mem_nil, or_false] at h
      rcases h with h | h | h | h <;> have := hbyte _ h <;> omega

/-- Behind the front part there is the byte of the opening brace, and no byte of a closing one after
it. -/
lemma bytes_of_unclosed {pattern : String} (h : pattern.toList = before ++ '{' :: rest)
    (hunclosed : '}' ∉ rest) :
    pattern.toUTF8.data[width before]? = some 0x7B ∧
      ∀ j, width before < j → pattern.toUTF8.data[j]? ≠ some 0x7D := by
  have hbytes : pattern.toUTF8.data.toList = before.flatMap String.utf8EncodeChar ++
      0x7B :: rest.flatMap String.utf8EncodeChar := by
    rw [bytes_eq, h, List.flatMap_append, List.flatMap_cons]
    rfl
  simp only [← Array.getElem?_toList, hbytes]
  refine ⟨by simp [← length_bytes], fun j hj hclosing => hunclosed ?_⟩
  rw [← length_bytes] at hj
  obtain ⟨k, rfl⟩ := Nat.exists_eq_add_of_lt hj
  rw [Nat.add_assoc, List.getElem?_append_right (Nat.le_add_right _ _), Nat.add_sub_cancel_left,
    List.getElem?_cons_succ] at hclosing
  obtain ⟨c, hc, hmem⟩ := List.mem_flatMap.mp (List.mem_of_getElem? hclosing)
  exact closing_of_mem_utf8EncodeChar hmem ▸ hc

/-! ## Reading one lexeme -/

/-- The first separator stands between what is before and what is behind it, and there is none
before. -/
lemma splitFirst?_spec {sep : Char} (h : splitFirst? [sep] cs = some (before, after)) :
    cs = before ++ sep :: after ∧ sep ∉ before := by
  induction cs generalizing before after with
  | nil => simp [splitFirst?] at h
  | cons c cs ih =>
    by_cases hc : sep = c
    · subst hc
      obtain ⟨rfl, rfl⟩ : [] = before ∧ cs = after := by
        simpa [splitFirst?, stripPrefix?] using h
      exact ⟨rfl, List.not_mem_nil⟩
    · obtain ⟨front, back, hrest, rfl, rfl⟩ : ∃ front back,
          splitFirst? [sep] cs = some (front, back) ∧ c :: front = before ∧ back = after := by
        simpa [splitFirst?, stripPrefix?, hc] using h
      obtain ⟨rfl, hnone⟩ := ih hrest
      exact ⟨rfl, by simp [hc, hnone]⟩

/-- A text that cannot be split has no separator in it. -/
lemma notMem_of_splitFirst? {sep : Char} (h : splitFirst? [sep] cs = none) : sep ∉ cs := by
  intro hmem
  obtain ⟨before, after, rfl, hbefore⟩ := List.eq_append_cons_of_mem hmem
  simp [splitFirst?_of_notMem hbefore] at h

/-- The characters before the next closing brace are read as the body of a token. -/
lemma read_opening (hsingle : rest.head? ≠ some '{') :
    read offset ('{' :: rest) =
      match splitFirst? ['}'] rest with
      | none => .error (.unterminatedToken offset)
      | some (body, after) =>
        match Token.ofName? (String.ofList (trim body)) with
        | none => .error (.unknownToken (String.ofList (trim body)))
        | some t => do return .token t :: (← read (offset + 2 + width body) after) := by
  have hfirst : ∀ more, rest ≠ '{' :: more := by
    rintro more rfl
    exact hsingle rfl
  rw [read.eq_4 offset rest hfirst]
  split
  · rename_i hnone
    rw [hnone]
  · rename_i body after hsome
    simp only [hsome]
    rfl

/-- **Reading goes on behind a lexeme.** -/
lemma read_lexeme (hfits : lexeme.Fits cs) :
    read offset (lexeme.source ++ cs) =
      (do return lexeme.item :: (← read (offset + width lexeme.source) cs)) := by
  cases lexeme with
  | plain c =>
    obtain ⟨hopen, hclose⟩ := hfits
    simp only [Lexeme.source, List.cons_append, List.nil_append, width_singleton]
    rw [read.eq_5]
    · rfl
    all_goals grind
  | doubledOpening => exact read.eq_2 offset cs
  | doubledClosing => exact read.eq_3 offset cs
  | loneClosing =>
    have hsingle : ∀ more, cs ≠ '}' :: more := by
      rintro more rfl
      exact hfits rfl
    simp only [Lexeme.source, List.cons_append, List.nil_append, width_singleton]
    rw [read.eq_5]
    · rfl
    all_goals grind
  | token body t =>
    obtain ⟨hsingle, hnext, hname⟩ := hfits
    have hhead : (body ++ '}' :: cs).head? ≠ some '{' := by
      cases body with
      | nil => simp
      | cons c body => simpa using hsingle
    have hwidth : width (Lexeme.token body t).source = 2 + width body := by
      have hopen : width ['{'] = 1 := rfl
      have hclose : width ['}'] = 1 := rfl
      rw [Lexeme.source, ← List.singleton_append, width_append, width_append, hopen, hclose]
      omega
    have hsource : (Lexeme.token body t).source ++ cs = '{' :: (body ++ '}' :: cs) := by
      simp [Lexeme.source]
    rw [hsource, read_opening hhead, splitFirst?_of_notMem hnext, hwidth, ← Nat.add_assoc]
    simp only [hname, String.ofList_toList, (name_readable t).2.2.2]
    rfl

/-- A pattern that is not empty begins with a lexeme, or with an opening brace that offends. -/
lemma lexeme_or_offends (offset : Nat) (c : Char) (cs : List Char) :
    (∃ (lexeme : Lexeme) (after : List Char), lexeme.Fits after ∧ c :: cs = lexeme.source ++ after) ∨
      (c = '{' ∧ ∃ e, Offends offset cs e) := by
  by_cases hopen : c = '{'
  · subst hopen
    by_cases hdoubled : cs.head? = some '{'
    · obtain ⟨after, rfl⟩ := List.head?_eq_some_iff.mp hdoubled
      exact .inl ⟨.doubledOpening, after, trivial, rfl⟩
    cases hsplit : splitFirst? ['}'] cs with
    | none => exact .inr ⟨rfl, _, .unterminated hdoubled (notMem_of_splitFirst? hsplit)⟩
    | some sides =>
      obtain ⟨body, after⟩ := sides
      obtain ⟨rfl, hnext⟩ := splitFirst?_spec hsplit
      by_cases hname : ∃ t : Token, trim body = t.name.toList
      · obtain ⟨t, ht⟩ := hname
        have hhead : body.head? ≠ some '{' := by
          cases body with
          | nil => simp
          | cons c body => simpa using hdoubled
        exact .inl ⟨.token body t, after, ⟨hhead, hnext, ht⟩, by simp [Lexeme.source]⟩
      · exact .inr ⟨rfl, _, .unknown hdoubled rfl hnext (not_exists.mp hname)⟩
  · by_cases hclose : c = '}'
    · subst hclose
      by_cases hdoubled : cs.head? = some '}'
      · obtain ⟨after, rfl⟩ := List.head?_eq_some_iff.mp hdoubled
        exact .inl ⟨.doubledClosing, after, trivial, rfl⟩
      · exact .inl ⟨.loneClosing, cs, hdoubled, rfl⟩
    · exact .inl ⟨.plain c, cs, ⟨hopen, hclose⟩, rfl⟩

/-- Reading stops at a brace that offends, with the error that the grammar names. -/
lemma read_of_offends {e : ConfigError} (h : Offends offset rest e) :
    read offset ('{' :: rest) = .error e := by
  cases h with
  | unterminated hsingle hunclosed =>
    cases hsplit : splitFirst? ['}'] rest with
    | none => simp only [read_opening hsingle, hsplit]
    | some sides =>
      obtain ⟨before, after⟩ := sides
      obtain ⟨rfl, -⟩ := splitFirst?_spec hsplit
      simp at hunclosed
  | @unknown body after hsingle hclosed hnext hnameless =>
    subst hclosed
    have hnone : Token.ofName? (String.ofList (trim body)) = none := by
      rw [Token.ofName?, List.find?_eq_none]
      intro t _ ht
      have hname : t.name = String.ofList (trim body) := by simpa using ht
      exact hnameless t (by rw [hname, String.toList_ofList])
    simp only [read_opening hsingle, splitFirst?_of_notMem hnext, hnone]

/-! ## Reading a pattern -/

/-- What was read is the source of its lexemes. -/
lemma Reads.eq_append (h : Reads cs lexemes rest) : cs = lexemes.flatMap Lexeme.source ++ rest := by
  induction h with
  | done rest => rfl
  | step fits more ih => rw [List.flatMap_cons, List.append_assoc, ← ih]

/-- **Reading goes on behind the lexemes** that a pattern begins with. -/
lemma read_of_reads (h : Reads cs lexemes rest) (offset : Nat) :
    read offset cs = (do
      return lexemes.map Lexeme.item ++
        (← read (offset + width (lexemes.flatMap Lexeme.source)) rest)) := by
  induction h generalizing offset with
  | done rest => simp
  | step fits more ih =>
    rw [read_lexeme fits, ih, List.flatMap_cons, width_append, Nat.add_assoc]
    simp

/-- **Every pattern is read to its end, or up to an opening brace that offends.**

**Proof sketch.**  By induction on the length: a pattern begins with a lexeme or with an opening brace
that offends, and behind a lexeme there is less of it. -/
lemma exists_reads (cs : List Char) (offset : Nat) : ∃ lexemes,
    Reads cs lexemes [] ∨ ∃ rest e, Reads cs lexemes ('{' :: rest) ∧
      Offends (offset + width (lexemes.flatMap Lexeme.source)) rest e := by
  induction hlength : cs.length using Nat.strong_induction_on generalizing cs offset with
  | _ n ih =>
    cases cs with
    | nil => exact ⟨[], .inl (.done [])⟩
    | cons c cs =>
      obtain ⟨lexeme, after, hfits, hcs⟩ | ⟨rfl, e, hoffends⟩ := lexeme_or_offends offset c cs
      · have hshorter : after.length < n := by
          have hsource : 0 < lexeme.source.length := by cases lexeme <;> simp [Lexeme.source]
          rw [← hlength, hcs, List.length_append]
          omega
        obtain ⟨lexemes, hreads⟩ := ih _ hshorter after (offset + width lexeme.source) rfl
        refine ⟨lexeme :: lexemes, ?_⟩
        rw [hcs, List.flatMap_cons, width_append, ← Nat.add_assoc]
        exact hreads.imp (.step hfits) fun ⟨rest, e, hmore, hoffends⟩ =>
          ⟨rest, e, .step hfits hmore, hoffends⟩
      · exact ⟨[], .inr ⟨cs, e, .done _, hoffends⟩⟩

/-- Reading stops at the first brace that offends, wherever it stands, with its offset in bytes. -/
lemma read_of_reads_offends {e : ConfigError} (h : Reads cs lexemes ('{' :: rest))
    (hoffends : Offends (offset + width (lexemes.flatMap Lexeme.source)) rest e) :
    read offset cs = .error e := by
  rw [read_of_reads h, read_of_offends hoffends]
  rfl

/-- An error of a pattern is that of the opening brace behind the part that can be read. -/
lemma offends_of_read {e : ConfigError} (h : read offset cs = .error e) : ∃ lexemes rest,
    Reads cs lexemes ('{' :: rest) ∧
      Offends (offset + width (lexemes.flatMap Lexeme.source)) rest e := by
  obtain ⟨lexemes, hreads | ⟨rest, e', hreads, hoffends⟩⟩ := exists_reads cs offset
  · simp [read_of_reads hreads, read, bind, Except.bind, pure, Except.pure] at h
  · obtain rfl : e' = e := by simpa [read_of_reads_offends hreads hoffends] using h
    exact ⟨lexemes, rest, hreads, hoffends⟩

/-- A pattern that is accepted is read to its end. -/
lemma reads_of_read {items : List Item} (h : read offset cs = .ok items) :
    ∃ lexemes, Reads cs lexemes [] := by
  obtain ⟨lexemes, hreads | ⟨rest, e, hreads, hoffends⟩⟩ := exists_reads cs offset
  · exact ⟨lexemes, hreads⟩
  · simp [read_of_reads_offends hreads hoffends] at h

/-! ## Writing a line -/

/-- **The line of joined items is what the items write**, one after the other. -/
lemma line_join (layout : Layout) (items : List Item) (r : Record) :
    String.join ((join items).map (layout.pieceText r)) =
      String.join (items.map (layout.itemText r)) := by
  induction items with
  | nil => rfl
  | cons item items ih =>
    rw [List.map_cons, String.join_cons, ← ih]
    cases item with
    | token t => rw [join, List.map_cons, String.join_cons]; rfl
    | char c =>
      obtain ⟨cs, pieces, hjoin, hstep⟩ | ⟨hjoin, hstep⟩ := join_char c items
      · rw [hjoin, hstep, List.map_cons, List.map_cons, String.join_cons, String.join_cons,
          ← String.append_assoc]
        exact congrArg (· ++ _) String.ofList_cons
      · rw [hstep, List.map_cons, String.join_cons]
        rfl

/-- Joining characters to texts loses no token, and makes none. -/
lemma mem_join (t : Token) (items : List Item) :
    LayoutPiece.token t ∈ join items ↔ Item.token t ∈ items := by
  induction items with
  | nil => simp [join]
  | cons item items ih =>
    cases item with
    | token t' => simp [join, ih]
    | char c =>
      obtain ⟨cs, pieces, hjoin, hstep⟩ | ⟨hjoin, hstep⟩ := join_char c items
      · rw [hjoin] at ih
        simp only [hstep, List.mem_cons, reduceCtorEq, false_or] at ih ⊢
        exact ih
      · simp only [hstep, List.mem_cons, reduceCtorEq, false_or]
        exact ih

/-- A layout asks for the message if one of its items is the token of it, and then writes the items in
their order. -/
lemma render_join (items : List Item) (timeFormat : String) (frameCap : Nat) (r : Record) :
    render ⟨join items, timeFormat, frameCap⟩ r = (do
      let r ← if Item.token .message ∈ items then r.render else pure r
      return (String.join (items.map (itemText ⟨join items, timeFormat, frameCap⟩ r)), r)) := by
  have hshows : showsMessage ⟨join items, timeFormat, frameCap⟩ = true ↔
      Item.token .message ∈ items := by
    rw [showsMessage, List.contains_iff_mem, mem_join]
  simp only [render, line, line_join, hshows]

/-! ## What is accepted -/

/-- **A pattern is accepted just if it can be read to its end by the grammar.**  Then the layout writes
what was read, in its order, with any format of the time and any number of frames.  Else the error is
that of the opening brace behind the part that can be read: the number in it is the offset of the byte
of that brace, behind which there is no closing one, or the name is what stands between that brace and
the next closing one. -/
theorem parse_iff_reads (pattern : String) :
    (∀ layout, parse pattern = .ok layout ↔ ∃ lexemes, Reads pattern.toList lexemes [] ∧
      layout = ⟨join (lexemes.map Lexeme.item), defaultTimeFormat, Cause.defaultFrameCap⟩) ∧
    (∀ e, parse pattern = .error e ↔ ∃ lexemes rest, Reads pattern.toList lexemes ('{' :: rest) ∧
      Offends (width (lexemes.flatMap Lexeme.source)) rest e) ∧
    (∀ layout lexemes, parse pattern = .ok layout → Reads pattern.toList lexemes [] →
      ∀ timeFormat frameCap r, render ⟨layout.pieces, timeFormat, frameCap⟩ r = (do
        let r ← if Item.token .message ∈ lexemes.map Lexeme.item then r.render else pure r
        return (String.join (lexemes.map fun lexeme =>
          itemText ⟨layout.pieces, timeFormat, frameCap⟩ r lexeme.item), r))) ∧
    ∀ i, parse pattern = .error (.unterminatedToken i) →
      pattern.toUTF8.data[i]? = some 0x7B ∧ ∀ j, i < j → pattern.toUTF8.data[j]? ≠ some 0x7D := by
  have hparse : ∀ e, parse pattern = .error e ↔ read 0 pattern.toList = .error e := by
    intro e
    cases hread : read 0 pattern.toList <;> simp [parse, hread, bind, Except.bind, pure, Except.pure]
  have haccepts : ∀ lexemes, Reads pattern.toList lexemes [] → parse pattern =
      .ok ⟨join (lexemes.map Lexeme.item), defaultTimeFormat, Cause.defaultFrameCap⟩ := by
    intro lexemes hreads
    simp [parse, read_of_reads hreads, read, bind, Except.bind, pure, Except.pure]
  have hrejects : ∀ e, parse pattern = .error e ↔ ∃ lexemes rest,
      Reads pattern.toList lexemes ('{' :: rest) ∧
        Offends (width (lexemes.flatMap Lexeme.source)) rest e := by
    intro e
    rw [hparse]
    refine ⟨fun herror => by simpa using offends_of_read herror, ?_⟩
    rintro ⟨lexemes, rest, hreads, hoffends⟩
    exact read_of_reads_offends hreads (by simpa using hoffends)
  refine ⟨fun layout => ⟨fun hok => ?_, ?_⟩, hrejects, ?_, fun i hi => ?_⟩
  · cases hread : read 0 pattern.toList with
    | error e => simp [(hparse e).mpr hread] at hok
    | ok items =>
      obtain ⟨lexemes, hreads⟩ := reads_of_read hread
      exact ⟨lexemes, hreads, by simpa [haccepts _ hreads] using hok.symm⟩
  · rintro ⟨lexemes, hreads, rfl⟩
    exact haccepts lexemes hreads
  · intro layout lexemes hok hreads timeFormat frameCap r
    obtain rfl : _ = layout := by simpa [haccepts _ hreads] using hok
    rw [render_join]
    simp only [List.map_map, Function.comp_def]
  · obtain ⟨lexemes, rest, hreads, hoffends⟩ := (hrejects _).mp hi
    cases hoffends with
    | unterminated _ hunclosed => exact bytes_of_unclosed hreads.eq_append hunclosed

/-- A token behind a doubled brace writes the level behind a brace, and an opening brace without its
other half is found behind a character of two bytes, a closing brace and a doubled one. -/
theorem parse_iff_reads_braces :
    (∀ r, render ⟨[.text ['{'], .token .level], defaultTimeFormat, Cause.defaultFrameCap⟩ r =
      .ok ("\x7b" ++ r.level.name, r)) ∧
    parse "é\x7d\x7b\x7b\x7bcause" = .error (.unterminatedToken 5) ∧
    "é\x7d\x7b\x7b\x7bcause".toUTF8.data[5]? = some 0x7B ∧
    ∀ j, 5 < j → "é\x7d\x7b\x7b\x7bcause".toUTF8.data[j]? ≠ some 0x7D := by
  have haccepted : Reads "\x7b\x7b\x7b level\x7d".toList
      [.doubledOpening, .token [' ', 'l', 'e', 'v', 'e', 'l'] .level] [] :=
    @Reads.step .doubledOpening _ _ _ trivial
      (@Reads.step (.token [' ', 'l', 'e', 'v', 'e', 'l'] .level) _ [] _
        ⟨by decide, by decide, by decide⟩ (.done []))
  have hparse := ((parse_iff_reads "\x7b\x7b\x7b level\x7d").1 _).mpr ⟨_, haccepted, rfl⟩
  have hrejected : Reads "é\x7d\x7b\x7b\x7bcause".toList [.plain 'é', .loneClosing, .doubledOpening]
      ['{', 'c', 'a', 'u', 's', 'e'] :=
    @Reads.step (.plain 'é') _ _ _ ⟨by decide, by decide⟩
      (@Reads.step .loneClosing _ ['{', '{', '{', 'c', 'a', 'u', 's', 'e'] _ (by simp [Lexeme.Fits])
        (@Reads.step .doubledOpening _ _ _ trivial (.done _)))
  have herror := ((parse_iff_reads "é\x7d\x7b\x7b\x7bcause").2.1 _).mpr
    ⟨_, _, hrejected, .unterminated (by decide) (by decide)⟩
  refine ⟨fun r => ?_, herror, (parse_iff_reads _).2.2.2 5 herror⟩
  have hrender := (parse_iff_reads _).2.2.1 _ _ hparse haccepted defaultTimeFormat
    Cause.defaultFrameCap r
  simpa [Lexeme.item, join, itemText, tokenText, String.join_cons, pure, Except.pure, bind,
    Except.bind] using hrender

end Layout

end NamespaceLogging
