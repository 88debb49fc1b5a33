import Mathlib.Data.List.DropRight
import Mathlib.Data.List.Induction
import Mathlib.Data.List.Infix
import Mathlib.Data.List.TakeWhile
import NamespaceLogging.Text.CharClass
import NamespaceLogging.Text.Split

/-!
# Parts of texts

What trimming and splitting do to a text of which the parts are known, and what the parts are of a text
that was split.

## Main definitions

* `Text.Blank`: a text of white space only.
* `Text.unlines`: lines with a line feed behind each of them.
* `Text.Unbroken`: a line that holds no line break.

## Main results

* `Text.trim_of_blanks`: trimming takes the white space at both ends away, and nothing else.
* `Text.splitFirst?_append`, `Text.splitLast?_append`: a text is split at a separator that is known to
  be the first or the last one.
* `Text.splitLast?_eq_none_iff`, `Text.not_infix_of_splitLast?`: no separator stands behind the last one.
* `Text.lines_unlines`, `Text.lines_joined`: lines are found again in the text that is made of them.
-/

set_option autoImplicit false

namespace NamespaceLogging.Text

/-- A text of white space only. -/
def Blank (cs : List Char) : Prop := ∀ c ∈ cs, isBlank c = true

instance (cs : List Char) : Decidable (Blank cs) := List.decidableBAll _ cs

variable {cs before after rest : List Char}

/-! ## White space -/

/-- The ranges of white space lie apart from the visible characters of ASCII. -/
lemma isBlank_of_visible {c : Char} (hlow : '!'.toNat ≤ c.toNat) (hhigh : c.toNat ≤ '~'.toNat) :
    isBlank c = false := by
  have hranges : ∀ r ∈ CharClass.whiteSpace.ranges, r.2 < '!'.toNat ∨ '~'.toNat < r.1 := by decide
  rw [Bool.eq_false_iff]
  intro hblank
  obtain ⟨r, hr, hmem⟩ := List.any_eq_true.mp hblank
  simp only [Bool.and_eq_true, decide_eq_true_eq] at hmem
  rcases hranges r hr with hbelow | habove
  · exact absurd (Nat.le_trans hlow hmem.2) (Nat.not_le.mpr hbelow)
  · exact absurd (Nat.le_trans hmem.1 hhigh) (Nat.not_le.mpr habove)

/-- What is dropped while a property holds ends before the first character without it. -/
lemma dropWhile_append_of_forall {p : Char → Bool} {c : Char}
    (hbefore : ∀ c ∈ before, p c = true) (hc : p c = false) :
    (before ++ c :: rest).dropWhile p = c :: rest := by
  rw [List.dropWhile_append_of_pos hbefore, List.dropWhile_cons_of_neg (by simp [hc])]

/-- Trimming the start drops the white space before the first visible character. -/
lemma trimStart_of_blank {c : Char} (hbefore : Blank before) (hc : isBlank c = false) :
    trimStart (before ++ c :: rest) = c :: rest :=
  dropWhile_append_of_forall hbefore hc

/-- Trimming takes the white space away, and nothing else. -/
lemma trim_of_blanks {body : List Char} {c d : Char} {init : List Char}
    (hbefore : ∀ c ∈ before, isBlank c = true) (hafter : ∀ c ∈ after, isBlank c = true)
    (hfirst : body = c :: rest) (hc : isBlank c = false) (hlast : body = init ++ [d])
    (hd : isBlank d = false) : trim (before ++ body ++ after) = body := by
  have hstart : trimStart (before ++ body ++ after) = body ++ after := by
    rw [List.append_assoc, hfirst]
    exact trimStart_of_blank hbefore hc
  rw [trim, hstart, trimEnd, hlast]
  have hreverse : (init ++ [d] ++ after).reverse = after.reverse ++ d :: init.reverse := by simp
  rw [hreverse, dropWhile_append_of_forall (by simpa using hafter) hd]
  simp

/-- What is trimmed off the start is white space. -/
lemma exists_trimStart (cs : List Char) : ∃ blanks, Blank blanks ∧ cs = blanks ++ trimStart cs :=
  ⟨cs.takeWhile isBlank, fun _ => List.mem_takeWhile_imp, List.takeWhile_append_dropWhile.symm⟩

/-- A text is blank just if nothing is left of it when it is trimmed. -/
lemma blank_iff_trim_eq_nil : Blank cs ↔ trim cs = [] := by
  have hsplit : cs.takeWhile isBlank ++ trimStart cs = cs := List.takeWhile_append_dropWhile
  rw [trim, trimEnd, List.reverse_eq_nil_iff, List.dropWhile_eq_nil_iff]
  constructor
  · intro h c hc
    exact h c (hsplit ▸ List.mem_append_right _ (List.mem_reverse.mp hc))
  · intro h c hc
    rw [← hsplit] at hc
    rcases List.mem_append.mp hc with hc | hc
    · exact List.mem_takeWhile_imp hc
    · exact h c (List.mem_reverse.mpr hc)

/-- A text that was trimmed is empty, or begins with something that is not blank. -/
lemma trim_first (cs : List Char) :
    trim cs = [] ∨ ∃ c rest, trim cs = c :: rest ∧ isBlank c = false := by
  cases htrim : trim cs with
  | nil => exact .inl rfl
  | cons c rest =>
    refine .inr ⟨c, rest, rfl, ?_⟩
    -- what is trimmed at the end leaves the first character where it is
    have hprefix : trim cs <+: trimStart cs := by
      rw [trim, trimEnd, ← List.reverse_suffix, List.reverse_reverse]
      exact List.dropWhile_suffix _
    obtain ⟨more, hmore⟩ := hprefix
    rw [htrim, List.cons_append] at hmore
    have hhead := List.head?_dropWhile_not isBlank cs
    rw [trimStart] at hmore
    rw [← hmore] at hhead
    simpa using hhead

/-- A text that was trimmed ends, if it is not empty, with something that is not blank. -/
lemma trim_last (hne : trim cs ≠ []) : ∃ init d, trim cs = init ++ [d] ∧ isBlank d = false := by
  have hlast := List.rdropWhile_last_not isBlank (trimStart cs) hne
  exact ⟨_, _, (List.dropLast_append_getLast hne).symm, Bool.eq_false_iff.mpr hlast⟩

/-- A text that is trimmed stays so with something behind it that is not blank at its ends. -/
lemma trim_append {more init : List Char} {c d : Char} (h : trim cs = cs) (hfirst : more = c :: rest)
    (hc : isBlank c = false) (hlast : more = init ++ [d]) (hd : isBlank d = false) :
    trim (cs ++ more) = cs ++ more := by
  have hboth : trim ([] ++ (cs ++ more) ++ []) = cs ++ more := by
    have hend : cs ++ more = (cs ++ init) ++ [d] := by rw [hlast, List.append_assoc]
    rcases trim_first cs with hnil | ⟨b, front, hcs, hb⟩
    · have hstart : cs ++ more = c :: rest := by rw [← h, hnil, hfirst, List.nil_append]
      exact trim_of_blanks (by simp) (by simp) hstart hc hend hd
    · have hstart : cs ++ more = b :: (front ++ more) := by rw [← h, hcs, List.cons_append]
      exact trim_of_blanks (by simp) (by simp) hstart hb hend hd
  rwa [List.append_nil, List.nil_append] at hboth

/-- A text that ends with a visible character is not trimmed at its end. -/
lemma trimEnd_concat {c : Char} (hc : isBlank c = false) (cs : List Char) :
    trimEnd (cs ++ [c]) = cs ++ [c] := by
  rw [trimEnd, List.reverse_append, List.reverse_singleton, List.singleton_append,
    List.dropWhile_cons_of_neg (by simp [hc]), List.reverse_cons, List.reverse_reverse]

/-- White space at the end of a text is trimmed off. -/
lemma trimEnd_concat_of_blank {c : Char} (hc : isBlank c = true) (cs : List Char) :
    trimEnd (cs ++ [c]) = trimEnd cs := by
  rw [trimEnd, List.reverse_append, List.reverse_singleton, List.singleton_append,
    List.dropWhile_cons_of_pos hc, trimEnd]

/-- White space behind a text that is not blank stays when the text is trimmed in front. -/
lemma trimStart_concat (h : ¬ Blank cs) (d : Char) :
    trimStart (cs ++ [d]) = trimStart cs ++ [d] := by
  have hne : (cs.dropWhile isBlank).isEmpty = false := by
    rw [List.isEmpty_eq_false_iff, Ne, List.dropWhile_eq_nil_iff]
    exact h
  rw [trimStart, List.dropWhile_append, hne, if_neg Bool.false_ne_true, trimStart]

/-- Trimming the start of a text does not reach beyond a visible character. -/
lemma trimStart_append {c : Char} (hc : isBlank c = false) (cs rest : List Char) :
    trimStart (cs ++ c :: rest) = trimStart cs ++ c :: rest := by
  rw [trimStart, List.dropWhile_append, trimStart]
  split
  · rename_i hempty
    rw [List.dropWhile_cons_of_neg (by simp [hc]), List.isEmpty_iff.mp hempty, List.nil_append]
  · rfl

/-- What is trimmed off the end is white space. -/
lemma exists_trimEnd (cs : List Char) : ∃ blanks, Blank blanks ∧ cs = trimEnd cs ++ blanks := by
  refine ⟨(cs.reverse.takeWhile isBlank).reverse, fun c hc => ?_, ?_⟩
  · exact List.mem_takeWhile_imp (List.mem_reverse.mp hc)
  · rw [trimEnd, ← List.reverse_append, List.takeWhile_append_dropWhile, List.reverse_reverse]

/-- What is trimmed off at both ends is white space. -/
lemma exists_trim (cs : List Char) :
    ∃ before after, Blank before ∧ Blank after ∧ cs = before ++ trim cs ++ after := by
  obtain ⟨before, hbefore, hstart⟩ := exists_trimStart cs
  obtain ⟨after, hafter, hend⟩ := exists_trimEnd (trimStart cs)
  refine ⟨before, after, hbefore, hafter, ?_⟩
  rw [trim, List.append_assoc, ← hend, ← hstart]

/-- White space behind a text does not matter to its trimmed form. -/
lemma trim_append_blank (hafter : Blank after) : trim (cs ++ after) = trim cs := by
  induction after using List.reverseRecOn with
  | nil => rw [List.append_nil]
  | append_singleton after c ih =>
    have hc : isBlank c = true := hafter c (by simp)
    rw [← List.append_assoc, ← ih fun d hd => hafter d (List.mem_append_left _ hd)]
    by_cases hblank : Blank (cs ++ after)
    · have hall : Blank (cs ++ after ++ [c]) := by
        intro d hd
        rcases List.mem_append.mp hd with hd | hd
        · exact hblank d hd
        · exact List.mem_singleton.mp hd ▸ hc
      rw [blank_iff_trim_eq_nil.mp hall, blank_iff_trim_eq_nil.mp hblank]
    · rw [trim, trimStart_concat hblank, trimEnd_concat_of_blank hc, trim]

/-- A text that begins with something that is not blank is its trimmed form and white space. -/
lemma trim_spec {c : Char} (rest : List Char) (hc : isBlank c = false) :
    ∃ blanks, (∀ d ∈ blanks, isBlank d = true) ∧ c :: rest = trim (c :: rest) ++ blanks := by
  have hstart : trimStart (c :: rest) = c :: rest := List.dropWhile_cons_of_neg (by simp [hc])
  rw [trim, hstart]
  exact exists_trimEnd (c :: rest)

/-! ## Separators -/

/-- A prefix can be stripped just if the text begins with it, and what is left stands behind it. -/
lemma stripPrefix?_eq_some_iff {p : List Char} : stripPrefix? p cs = some rest ↔ cs = p ++ rest := by
  induction p generalizing cs with
  | nil => simp [stripPrefix?]
  | cons x p ih =>
    cases cs with
    | nil => simp [stripPrefix?]
    | cons c cs =>
      by_cases hc : x = c
      · simp [stripPrefix?, hc, ih]
      · simp [stripPrefix?, hc, Ne.symm hc]

/-- The sides of a split and the separator between them are the text. -/
lemma eq_append_of_splitFirst? {sep : List Char} (h : splitFirst? sep cs = some (before, after)) :
    cs = before ++ (sep ++ after) := by
  induction cs generalizing before with
  | nil =>
    cases sep with
    | nil =>
      obtain ⟨rfl, rfl⟩ : [] = before ∧ [] = after := by simpa [splitFirst?] using h
      rfl
    | cons x sep => simp [splitFirst?] at h
  | cons c cs ih =>
    rw [splitFirst?] at h
    split at h
    · rename_i rest hrest
      obtain ⟨rfl, rfl⟩ : [] = before ∧ rest = after := by simpa using h
      rw [List.nil_append, ← stripPrefix?_eq_some_iff, hrest]
    · obtain ⟨⟨front, back⟩, hsides, heq⟩ := Option.map_eq_some_iff.mp h
      obtain ⟨rfl, rfl⟩ : c :: front = before ∧ back = after := by simpa using heq
      rw [List.cons_append, ← ih hsides]

/-- A text that is split at its last separator has the separator between the two sides. -/
lemma eq_append_of_splitLast? {sep : List Char} (h : splitLast? sep cs = some (before, after)) :
    cs = before ++ (sep ++ after) := by
  induction cs generalizing before with
  | nil =>
    cases sep with
    | nil =>
      obtain ⟨rfl, rfl⟩ : [] = before ∧ [] = after := by simpa [splitLast?] using h
      rfl
    | cons x sep => simp [splitLast?] at h
  | cons c cs ih =>
    rw [splitLast?] at h
    split at h
    · rename_i sides hsides
      obtain ⟨front, back⟩ := sides
      obtain ⟨rfl, rfl⟩ : c :: front = before ∧ back = after := by simpa using h
      rw [List.cons_append, ← ih hsides]
    · obtain ⟨rest, hrest, heq⟩ := Option.map_eq_some_iff.mp h
      obtain ⟨rfl, rfl⟩ : [] = before ∧ rest = after := by simpa using heq
      rw [List.nil_append, ← stripPrefix?_eq_some_iff, hrest]

/-- A text is split at a separator whose first character does not stand before it. -/
lemma splitFirst?_append {x : Char} {sep : List Char} (h : x ∉ before) :
    splitFirst? (x :: sep) (before ++ (x :: (sep ++ after))) = some (before, after) := by
  induction before with
  | nil =>
    have hstrip : stripPrefix? (x :: sep) (x :: (sep ++ after)) = some after :=
      stripPrefix?_eq_some_iff.mpr rfl
    rw [List.nil_append, splitFirst?, hstrip]
  | cons c before ih =>
    rw [List.mem_cons, not_or] at h
    have hc : (x == c) = false := beq_eq_false_iff_ne.mpr h.1
    simp [splitFirst?, stripPrefix?, hc, ih h.2]

/-- A text is split at a separator that is the first one. -/
lemma splitFirst?_of_notMem {sep : Char} (h : sep ∉ before) :
    splitFirst? [sep] (before ++ sep :: after) = some (before, after) :=
  splitFirst?_append h

/-- Without the first character of a separator, there is no separator. -/
lemma splitLast?_of_notMem {x : Char} {sep : List Char} (h : x ∉ cs) :
    splitLast? (x :: sep) cs = none := by
  induction cs with
  | nil => rfl
  | cons c cs ih =>
    rw [List.mem_cons, not_or] at h
    simp [splitLast?, ih h.2, stripPrefix?, h.1]

/-- What stands in front of a text does not move its last separator. -/
lemma splitLast?_append_left {sep : List Char}
    (h : splitLast? sep cs = some (before, after)) (front : List Char) :
    splitLast? sep (front ++ cs) = some (front ++ before, after) := by
  induction front with
  | nil => exact h
  | cons c front ih => rw [List.cons_append, splitLast?, ih, List.cons_append]

/-- A text is split at a separator behind whose first character no other one begins. -/
lemma splitLast?_append {x : Char} {sep : List Char} (h : splitLast? (x :: sep) (sep ++ after) = none) :
    splitLast? (x :: sep) (before ++ (x :: (sep ++ after))) = some (before, after) := by
  have hstrip : stripPrefix? (x :: sep) (x :: (sep ++ after)) = some after :=
    stripPrefix?_eq_some_iff.mpr rfl
  have hbare : splitLast? (x :: sep) (x :: (sep ++ after)) = some ([], after) := by
    rw [splitLast?, h, hstrip]
    rfl
  simpa using splitLast?_append_left hbare before

/-! ### Where a separator is found -/

section

variable {sep : List Char}

/-- A prefix cannot be stripped just if the text does not begin with it. -/
lemma stripPrefix?_eq_none_iff : stripPrefix? sep cs = none ↔ ¬ sep <+: cs := by
  constructor
  · rintro hnone ⟨rest, hrest⟩
    rw [stripPrefix?_eq_some_iff.mpr hrest.symm] at hnone
    cases hnone
  · intro h
    rw [Option.eq_none_iff_forall_ne_some]
    exact fun rest hrest => h ⟨rest, (stripPrefix?_eq_some_iff.mp hrest).symm⟩

/-- A text cannot be split at its last separator just if there is none in it. -/
lemma splitLast?_eq_none_iff : splitLast? sep cs = none ↔ ¬ sep <:+: cs := by
  induction cs with
  | nil => cases sep <;> simp [splitLast?]
  | cons c cs ih =>
    rw [List.infix_cons_iff, not_or, ← ih, ← stripPrefix?_eq_none_iff, splitLast?]
    cases splitLast? sep cs <;> simp

/-- A text cannot be split at its first separator just if there is none in it. -/
lemma splitFirst?_eq_none_iff : splitFirst? sep cs = none ↔ ¬ sep <:+: cs := by
  induction cs with
  | nil => cases sep <;> simp [splitFirst?]
  | cons c cs ih =>
    rw [List.infix_cons_iff, not_or, ← ih, ← stripPrefix?_eq_none_iff, splitFirst?]
    cases stripPrefix? sep (c :: cs) <;> simp

/-- There is no separator behind the last one. -/
lemma not_infix_of_splitLast? (hsep : sep ≠ []) (h : splitLast? sep cs = some (before, after)) :
    ¬ sep <:+: after := by
  induction cs generalizing before with
  | nil =>
    cases sep with
    | nil => exact absurd rfl hsep
    | cons x sep => simp [splitLast?] at h
  | cons c cs ih =>
    rw [splitLast?] at h
    cases hlater : splitLast? sep cs with
    | some sides =>
      simp only [hlater, Option.some.injEq, Prod.mk.injEq] at h
      exact ih (hlater.trans (congrArg some (Prod.ext rfl h.2)))
    | none =>
      simp only [hlater, Option.map_eq_some_iff, Prod.mk.injEq, stripPrefix?_eq_some_iff] at h
      obtain ⟨rest, hrest, -, rfl⟩ := h
      obtain ⟨x, sep, rfl⟩ := List.exists_cons_of_ne_nil hsep
      have hcs : cs = sep ++ rest := (List.cons.inj hrest).2
      exact fun hwithin => splitLast?_eq_none_iff.mp hlater
        (hwithin.trans (hcs ▸ (List.suffix_append sep rest).isInfix))

/-- A text is split at the last of some characters. -/
lemma splitLast?_singleton_eq_some_iff {x : Char} :
    splitLast? [x] cs = some (before, after) ↔ cs = before ++ x :: after ∧ x ∉ after := by
  constructor
  · intro h
    refine ⟨eq_append_of_splitLast? h, fun hmem => ?_⟩
    exact not_infix_of_splitLast? (by simp) h ((List.singleton_infix_iff x after).mpr hmem)
  · rintro ⟨rfl, hafter⟩
    exact splitLast?_append (splitLast?_of_notMem hafter)

/-- The last separator stands behind every other one. -/
lemma length_le_of_splitLast? {front : List Char} (h : splitLast? sep cs = some (before, after))
    (hfront : front ++ sep <+: cs) : front.length ≤ before.length := by
  induction cs generalizing before front with
  | nil =>
    have hlength := hfront.length_le
    simp only [List.length_append, List.length_nil] at hlength
    omega
  | cons c cs ih =>
    cases front with
    | nil => exact Nat.zero_le _
    | cons d front =>
      rw [List.cons_append, List.cons_prefix_cons] at hfront
      rw [splitLast?] at h
      cases hlater : splitLast? sep cs with
      | some sides =>
        simp only [hlater, Option.some.injEq, Prod.mk.injEq] at h
        have hle := ih (hlater.trans (congrArg some (Prod.ext rfl h.2))) hfront.2
        simpa [← h.1] using hle
      | none =>
        refine absurd ?_ (splitLast?_eq_none_iff.mp hlater)
        exact (List.suffix_append front sep).isInfix.trans hfront.2.isInfix

/-- There is no separator in front of the first one. -/
lemma length_le_of_splitFirst? {front : List Char} (h : splitFirst? sep cs = some (before, after))
    (hfront : front ++ sep <+: cs) : before.length ≤ front.length := by
  induction cs generalizing before front with
  | nil =>
    have hbefore := congrArg List.length (eq_append_of_splitFirst? h)
    simp only [List.length_append, List.length_nil] at hbefore
    omega
  | cons c cs ih =>
    rw [splitFirst?] at h
    cases hstrip : stripPrefix? sep (c :: cs) with
    | some rest =>
      simp only [hstrip, Option.some.injEq, Prod.mk.injEq] at h
      simp [← h.1]
    | none =>
      simp only [hstrip, Option.map_eq_some_iff, Prod.mk.injEq] at h
      obtain ⟨⟨inner, rest⟩, hinner, rfl, rfl⟩ := h
      cases front with
      | nil => exact absurd hfront (stripPrefix?_eq_none_iff.mp hstrip)
      | cons d front =>
        rw [List.cons_append, List.cons_prefix_cons] at hfront
        simpa using ih hinner hfront.2

end

/-! ### Pieces between separators -/

/-- A text is split as the library splits lists. -/
lemma splitOnChar_eq (sep : Char) (cs : List Char) : splitOnChar sep cs = cs.splitOn sep := by
  induction cs with
  | nil => simp [splitOnChar]
  | cons c cs ih =>
    obtain ⟨piece, more, hpieces⟩ := List.exists_cons_of_ne_nil (List.splitOnP_ne_nil (· == sep) cs)
    rw [splitOnChar, ih]
    simp only [List.splitOn, List.splitOnP_cons_eq_if_modifyHead, hpieces, List.modifyHead_cons]

/-- There is no separator in the pieces into which a text is split. -/
lemma notMem_of_mem_splitOnChar {sep : Char} {piece : List Char} (h : piece ∈ splitOnChar sep cs) :
    sep ∉ piece := by
  induction cs generalizing piece with
  | nil =>
    obtain rfl : piece = [] := by simpa [splitOnChar] using h
    exact List.not_mem_nil
  | cons c cs ih =>
    rw [splitOnChar] at h
    split at h
    · rcases List.mem_cons.mp h with rfl | h
      · exact List.not_mem_nil
      · exact ih h
    · rename_i hc
      have hne : sep ≠ c := fun heq => hc (by simp [heq])
      cases hpieces : splitOnChar sep cs with
      | nil =>
        rw [hpieces] at h
        obtain rfl : piece = [c] := List.mem_singleton.mp h
        simpa using hne
      | cons first more =>
        rw [hpieces] at h ih
        rcases List.mem_cons.mp h with rfl | h
        · rw [List.mem_cons, not_or]
          exact ⟨hne, ih List.mem_cons_self⟩
        · exact ih (List.mem_cons_of_mem _ h)

/-! ## Lines -/

/-- The text of some lines, with a line feed behind each of them. -/
def unlines (ls : List (List Char)) : List Char := ls.flatMap (· ++ ['\n'])

/-- There is no line break in the line, and no carriage return at its end that a line feed behind it
would take along. -/
def Unbroken (line : List Char) : Prop := '\n' ∉ line ∧ line.getLast? ≠ some '\r'

instance (line : List Char) : Decidable (Unbroken line) :=
  inferInstanceAs (Decidable ('\n' ∉ line ∧ line.getLast? ≠ some '\r'))

variable {ls : List (List Char)}

/-- A line that does not end with a carriage return stays as it is. -/
lemma dropCarriageReturn_of_ne {line : List Char} (h : line.getLast? ≠ some '\r') :
    dropCarriageReturn line = line := by
  have hstrip : stripSuffix? ['\r'] line = none := by
    rw [stripSuffix?, Option.map_eq_none_iff, Option.eq_none_iff_forall_ne_some]
    intro rest hrest
    rw [stripPrefix?_eq_some_iff, List.reverse_eq_iff] at hrest
    exact h (by simp [hrest])
  rw [dropCarriageReturn, hstrip, Option.getD_none]

/-- Unbroken lines stay as they are when carriage returns are dropped. -/
lemma map_dropCarriageReturn (h : ∀ l ∈ ls, Unbroken l) : ls.map dropCarriageReturn = ls := by
  have hsame : ∀ l ∈ ls, dropCarriageReturn l = id l := fun l hl => dropCarriageReturn_of_ne (h l hl).2
  rw [List.map_congr_left hsame, List.map_id]

/-- **Lines are found again** in their text, in which the last one ends with a line feed. -/
lemma lines_unlines (h : ∀ l ∈ ls, Unbroken l) : lines (unlines ls) = ls := by
  have hjoin : ∀ ls : List (List Char), unlines ls = ['\n'].intercalate (ls ++ [[]]) := by
    intro ls
    induction ls with
    | nil => rfl
    | cons l ls ih =>
      have hne : ls ++ [[]] ≠ [] := by simp
      obtain ⟨first, more, hmore⟩ := List.exists_cons_of_ne_nil hne
      rw [unlines, List.flatMap_cons, ← unlines, ih, List.cons_append, hmore]
      simp
  have hsplit : splitOnChar '\n' (unlines ls) = ls ++ [[]] := by
    rw [hjoin, splitOnChar_eq]
    refine List.splitOn_intercalate '\n' ?_ (by simp)
    intro l hl
    rcases List.mem_append.mp hl with hl | hl
    · exact (h l hl).1
    · simp [List.mem_singleton.mp hl]
  simp [lines, hsplit, map_dropCarriageReturn h]

/-- **Lines are found again** in their text, in which nothing stands behind the last one, unless that is
empty. -/
lemma lines_joined (h : ∀ l ∈ ls, Unbroken l) (hlast : ls.getLast? ≠ some []) :
    lines (['\n'].intercalate ls) = ls := by
  rcases List.eq_nil_or_concat ls with rfl | ⟨init, last, rfl⟩
  · rfl
  · rw [List.concat_eq_append] at h hlast ⊢
    have hsplit : splitOnChar '\n' (['\n'].intercalate (init ++ [last])) = init ++ [last] := by
      rw [splitOnChar_eq]
      exact List.splitOn_intercalate '\n' (fun l hl => (h l hl).1) (by simp)
    have hinit : init.map dropCarriageReturn = init :=
      map_dropCarriageReturn fun l hl => h l (List.mem_append_left _ hl)
    have hne : last ≠ [] := by simpa using hlast
    simp [lines, hsplit, hinit, hne]

end NamespaceLogging.Text
