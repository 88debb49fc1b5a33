import NamespaceLogging.Proofs.Namespaces

/-!
# What normalizing leaves

Normalizing takes the white space around a text away and then the separators at its end.  What is left
begins with something that is not blank and does not end with a separator.  It can end with white space,
if that stood in front of the separators: normalizing such a text once more takes more of it away.

## Main definitions

* `Namespace.Hollow`: some `::` and then white space.
* `Namespace.Frayed`: a text with white space at its end.
* `Namespace.Bare`: a text of white space and separators only.

## Main results

* `Namespace.normalize_normalize_eq_iff`: normalizing twice is normalizing once unless what is left is
  frayed.
* `Namespace.frayed_normalize_iff`: which texts leave something frayed.
* `Namespace.Bare.normalize_eq_nil_iff`: nothing is left of a text of white space and separators unless
  what is left is frayed.
* `Namespace.normalize_normalize_eq_nil_iff`: of which texts the second time leaves nothing.
-/

set_option autoImplicit false

namespace NamespaceLogging

open Text

namespace Namespace

variable {cs ns : List Char}

/-- A number of separators. -/
abbrev pairs (n : Nat) : List Char := (List.replicate n [':', ':']).flatten

/-- A text of some separators and then some white space. -/
def Hollow (ns : List Char) : Prop :=
  ∃ (n : Nat) (blanks : List Char), 0 < n ∧ blanks ≠ [] ∧ (∀ c ∈ blanks, isBlank c = true) ∧
    ns = pairs n ++ blanks

/-- A text with white space at its end. -/
def Frayed (ns : List Char) : Prop := ∃ init c, ns = init ++ [c] ∧ isBlank c = true

/-- A text of white space and separators only. -/
inductive Bare : List Char → Prop
  | nil : Bare []
  | blank {cs : List Char} {c : Char} (more : Bare cs) (hc : isBlank c = true) : Bare (cs ++ [c])
  | pair {cs : List Char} (more : Bare cs) : Bare (cs ++ [':', ':'])

/-! ## Separators at the end -/

/-- One more separator in front of the others. -/
lemma pairs_succ (n : Nat) : pairs (n + 1) = ':' :: ':' :: pairs n := by
  simp [pairs, List.replicate_succ]

/-- One more separator behind the others. -/
lemma pairs_succ' (n : Nat) : pairs (n + 1) = pairs n ++ [':', ':'] := by
  simp [pairs, List.replicate_succ']

/-- Dropping pairs stops where there are none. -/
lemma dropPairs_spec (cs : List Char) :
    (∃ n, cs = pairs n ++ dropPairs ':' ':' cs) ∧
      ∀ rest, dropPairs ':' ':' cs ≠ ':' :: ':' :: rest := by
  fun_induction dropPairs ':' ':' cs with
  | case1 x y rest hpair ih =>
    obtain ⟨⟨n, hn⟩, hstop⟩ := ih
    simp only [Bool.and_eq_true, beq_iff_eq] at hpair
    refine ⟨⟨n + 1, ?_⟩, hstop⟩
    rw [hpair.1, hpair.2, pairs_succ, List.cons_append, List.cons_append, ← hn]
  | case2 x y rest hpair =>
    refine ⟨⟨0, rfl⟩, fun rest' heq => hpair ?_⟩
    simp only [List.cons.injEq] at heq
    simp [heq.1, heq.2.1]
  | case3 short hshort => exact ⟨⟨0, rfl⟩, fun rest heq => hshort _ _ _ heq⟩

/-- A text is what is left without the separators at its end, and those separators. -/
lemma dropTrailingPairs_spec (cs : List Char) :
    (∃ n, cs = dropTrailingPairs ':' ':' cs ++ pairs n) ∧
      ∀ before, dropTrailingPairs ':' ':' cs ≠ before ++ [':', ':'] := by
  obtain ⟨⟨n, hn⟩, hstop⟩ := dropPairs_spec cs.reverse
  refine ⟨⟨n, ?_⟩, fun before heq => hstop before.reverse ?_⟩
  · calc cs = cs.reverse.reverse := by simp
      _ = (pairs n ++ dropPairs ':' ':' cs.reverse).reverse := by rw [← hn]
      _ = dropTrailingPairs ':' ':' cs ++ pairs n := by
        rw [List.reverse_append, reverse_pairs, dropTrailingPairs]
  · rw [dropTrailingPairs, List.reverse_eq_iff] at heq
    simpa using heq

/-- Nothing is left of separators alone. -/
lemma dropPairs_pairs (n : Nat) : dropPairs ':' ':' (pairs n) = [] := by
  have hempty : dropPairs ':' ':' (pairs n ++ []) = [] := dropPairs_replicate (by simp) n
  rwa [List.append_nil] at hempty

/-- Separators at the end of a text make no difference once they are dropped. -/
lemma dropTrailingPairs_pairs (cs : List Char) (n : Nat) :
    dropTrailingPairs ':' ':' (cs ++ pairs n) = dropTrailingPairs ':' ':' cs := by
  induction n with
  | zero => rw [pairs, List.replicate_zero, List.flatten_nil, List.append_nil]
  | succ n ih =>
    rw [pairs_succ', ← List.append_assoc, ← ih]
    simp [dropTrailingPairs, dropPairs]

/-- White space at the end keeps the separators before it. -/
lemma dropTrailingPairs_concat {c : Char} (hc : isBlank c = true) (cs : List Char) :
    dropTrailingPairs ':' ':' (cs ++ [c]) = cs ++ [c] := by
  have hstop : ∀ rest, (cs ++ [c]).reverse ≠ ':' :: ':' :: rest := by
    intro rest heq
    rw [List.reverse_append, List.reverse_singleton, List.singleton_append, List.cons.injEq] at heq
    rw [heq.1] at hc
    exact absurd hc (by decide)
  have hdrop : dropPairs ':' ':' (cs ++ [c]).reverse = (cs ++ [c]).reverse :=
    dropPairs_replicate hstop 0
  rw [dropTrailingPairs, hdrop, List.reverse_reverse]

/-! ## Normalizing once -/

/-- Nothing is left of a text just if it is separators alone once it is trimmed. -/
lemma normalize_eq_nil_iff : normalize cs = [] ↔ ∃ n, trim cs = pairs n := by
  constructor
  · intro hnil
    obtain ⟨⟨n, hn⟩, -⟩ := dropTrailingPairs_spec (trim cs)
    rw [normalize] at hnil
    exact ⟨n, by rw [hn, hnil, List.nil_append]⟩
  · rintro ⟨n, hn⟩
    rw [normalize, hn, dropTrailingPairs, reverse_pairs, dropPairs_pairs, List.reverse_nil]

/-- What normalizing leaves begins with something that is not blank. -/
lemma normalize_first (hne : normalize cs ≠ []) :
    ∃ c rest, normalize cs = c :: rest ∧ isBlank c = false := by
  obtain ⟨⟨n, hn⟩, -⟩ := dropTrailingPairs_spec (trim cs)
  rw [← normalize] at hn
  obtain ⟨c, rest, hfirst⟩ := List.exists_cons_of_ne_nil hne
  refine ⟨c, rest, hfirst, ?_⟩
  rcases trim_first cs with hempty | ⟨c', rest', htrim, hc'⟩
  · simp [hempty, hfirst] at hn
  · rw [htrim, hfirst, List.cons_append, List.cons.injEq] at hn
    exact hn.1 ▸ hc'

/-- What normalizing leaves stands in the text. -/
lemma normalize_isInfix : normalize cs <:+: cs := by
  obtain ⟨before, after, -, -, hsplit⟩ := exists_trim cs
  obtain ⟨⟨n, hn⟩, -⟩ := dropTrailingPairs_spec (trim cs)
  refine ⟨before, pairs n ++ after, ?_⟩
  conv_rhs => rw [hsplit, hn]
  rw [normalize]
  simp

/-! ## Frayed names -/

/-- Whether a text is frayed is told by its last character. -/
lemma frayed_concat {c : Char} : Frayed (cs ++ [c]) ↔ isBlank c = true := by
  constructor
  · rintro ⟨init, d, heq, hd⟩
    obtain rfl : c = d := by simpa using (List.append_inj' heq rfl).2
    exact hd
  · exact fun hc => ⟨cs, c, rfl, hc⟩

/-- The empty text is not frayed. -/
lemma not_frayed_nil : ¬ Frayed [] := by
  rintro ⟨init, c, heq, -⟩
  simp at heq

instance (ns : List Char) : Decidable (Frayed ns) :=
  decidable_of_iff (ns.getLast?.any isBlank = true) <| by
    rcases List.eq_nil_or_concat ns with rfl | ⟨init, c, rfl⟩
    · simp [not_frayed_nil]
    · simp [frayed_concat]

/-- In front of white space that is left there is something that is not blank. -/
lemma not_blank_of_normalize {init : List Char} {c : Char} (hlast : normalize cs = init ++ [c])
    (hc : isBlank c = true) : ¬ Blank init := by
  have hleft : normalize cs ≠ [] := by simp [hlast]
  obtain ⟨d, rest, hfirst, hd⟩ := normalize_first hleft
  intro hblank
  have hmem : d ∈ init ++ [c] := by
    rw [← hlast, hfirst]
    exact List.mem_cons_self
  rcases List.mem_append.mp hmem with hmem | hmem
  · rw [hblank d hmem] at hd
    cases hd
  · rw [List.mem_singleton.mp hmem, hc] at hd
    cases hd

/-- If white space is left at the end, there were separators behind it, since the trimmed text does not
end with white space. -/
lemma exists_of_frayed_normalize (h : Frayed (normalize cs)) : ∃ front c n after,
    isBlank c = true ∧ ¬ Blank front ∧ Blank after ∧ cs = front ++ c :: (pairs (n + 1) ++ after) := by
  obtain ⟨init, c, hlast, hc⟩ := h
  obtain ⟨⟨n, hn⟩, -⟩ := dropTrailingPairs_spec (trim cs)
  rw [← normalize, hlast] at hn
  obtain ⟨before, after, hbefore, hafter, hsplit⟩ := exists_trim cs
  have hinit : ¬ Blank init := not_blank_of_normalize hlast hc
  cases n with
  | zero =>
    have hne : trim cs ≠ [] := by simp [hn]
    obtain ⟨init', d, htrim, hd⟩ := trim_last hne
    have htrim' : trim cs = init ++ [c] := by rw [hn, pairs, List.replicate_zero]; simp
    rw [htrim] at htrim'
    obtain rfl : d = c := by simpa using (List.append_inj' htrim' rfl).2
    rw [hc] at hd
    cases hd
  | succ n =>
    refine ⟨before ++ init, c, n, after, hc, fun hblank => hinit fun d hd => ?_, hafter, ?_⟩
    · exact hblank d (List.mem_append_right _ hd)
    · rw [hsplit, hn]
      simp

/-- The separators are all that is dropped behind white space. -/
lemma normalize_of_frayed {front after : List Char} {c : Char} (hc : isBlank c = true)
    (hfront : ¬ Blank front) (hafter : Blank after) (n : Nat) :
    normalize (front ++ c :: (pairs (n + 1) ++ after)) = trimStart front ++ [c] := by
  have hcolon : isBlank ':' = false := by decide
  have hbody : front ++ c :: (pairs (n + 1) ++ after) =
      front ++ [c] ++ ':' :: (':' :: pairs n) ++ after := by simp [pairs_succ]
  have hend : trimStart front ++ [c] ++ ':' :: (':' :: pairs n) =
      trimStart front ++ [c] ++ pairs n ++ [':'] ++ [':'] := by
    rw [← pairs_succ, pairs_succ']
    simp
  have htrim : trim (front ++ c :: (pairs (n + 1) ++ after)) =
      trimStart front ++ [c] ++ pairs (n + 1) := by
    rw [hbody, trim_append_blank hafter, trim, trimStart_append hcolon, trimStart_concat hfront, hend,
      trimEnd_concat hcolon, ← hend, pairs_succ]
  rw [normalize, htrim, dropTrailingPairs_pairs, dropTrailingPairs_concat hc]

/-- **Which texts leave something frayed**: those with something, white space and then separators, and
possibly white space behind that. -/
lemma frayed_normalize_iff : Frayed (normalize cs) ↔ ∃ front c n after,
    isBlank c = true ∧ ¬ Blank front ∧ Blank after ∧
      cs = front ++ c :: (pairs (n + 1) ++ after) := by
  refine ⟨exists_of_frayed_normalize, ?_⟩
  rintro ⟨front, c, n, after, hc, hfront, hafter, rfl⟩
  rw [normalize_of_frayed hc hfront hafter]
  exact frayed_concat.mpr hc

/-- What is left of white space and separators when only the white space in front is trimmed. -/
lemma Bare.dropTrailingPairs_trimStart (h : Bare cs) :
    dropTrailingPairs ':' ':' (trimStart cs) = [] ∨
      Frayed (dropTrailingPairs ':' ':' (trimStart cs)) := by
  induction h with
  | nil => exact .inl rfl
  | @blank cs c more hc ih =>
    by_cases hblank : Blank cs
    · have hall : trimStart (cs ++ [c]) = [] := by
        rw [trimStart, List.dropWhile_eq_nil_iff]
        exact List.forall_mem_append.mpr ⟨hblank, List.forall_mem_singleton.mpr hc⟩
      rw [hall]
      exact .inl rfl
    · rw [trimStart_concat hblank, dropTrailingPairs_concat hc]
      exact .inr (frayed_concat.mpr hc)
  | @pair cs more ih =>
    have hone : dropTrailingPairs ':' ':' (trimStart cs ++ [':', ':']) =
        dropTrailingPairs ':' ':' (trimStart cs) := dropTrailingPairs_pairs _ 1
    rwa [trimStart_append (by decide), hone]

/-- Separators at the end are not trimmed, but dropped. -/
lemma normalize_concat_pair (cs : List Char) :
    normalize (cs ++ [':', ':']) = dropTrailingPairs ':' ':' (trimStart cs) := by
  have hend : trimStart cs ++ [':', ':'] = trimStart cs ++ [':'] ++ [':'] := by simp
  rw [normalize, trim, trimStart_append (by decide), hend, trimEnd_concat (by decide), ← hend]
  exact dropTrailingPairs_pairs _ 1

/-- **Nothing is left of white space and separators** unless what is left is frayed.

**Proof sketch.**  Separators at the end are dropped, and white space at the end of the text is trimmed;
between them what comes last is white space. -/
lemma Bare.normalize_eq_nil_iff (h : Bare cs) : normalize cs = [] ↔ ¬ Frayed (normalize cs) := by
  have hleft : normalize cs = [] ∨ Frayed (normalize cs) := by
    induction h with
    | nil => exact .inl rfl
    | @blank cs c more hc ih =>
      have hsame : normalize (cs ++ [c]) = normalize cs := by
        rw [normalize, trim_append_blank (List.forall_mem_singleton.mpr hc), normalize]
      rwa [hsame]
    | @pair cs more ih =>
      rw [normalize_concat_pair]
      exact more.dropTrailingPairs_trimStart
  constructor
  · intro hnil
    rw [hnil]
    exact not_frayed_nil
  · exact hleft.resolve_right

/-! ## Normalizing twice -/

/-- A frayed text gets shorter when it is normalized. -/
lemma length_normalize_lt (h : Frayed ns) : (normalize ns).length < ns.length := by
  obtain ⟨init, c, rfl, hc⟩ := h
  obtain ⟨before, after, -, -, hsplit⟩ := exists_trim init
  obtain ⟨⟨n, hn⟩, -⟩ := dropTrailingPairs_spec (trim init)
  have htrim := congrArg List.length hsplit
  have hdrop := congrArg List.length hn
  rw [normalize, trim_append_blank (List.forall_mem_singleton.mpr hc)]
  simp only [List.length_append, List.length_singleton] at htrim hdrop ⊢
  omega

/-- **Normalizing twice is normalizing once**, unless what is left is frayed. -/
lemma normalize_normalize_eq_iff :
    normalize (normalize cs) = normalize cs ↔ ¬ Frayed (normalize cs) := by
  constructor
  · intro hsame hfrayed
    have hless := length_normalize_lt hfrayed
    rw [hsame] at hless
    exact Nat.lt_irrefl _ hless
  · intro hfrayed
    by_cases hne : normalize cs = []
    · rw [hne]
      rfl
    · obtain ⟨c, rest, hfirst, hc⟩ := normalize_first hne
      obtain ⟨init, d, hlast⟩ := (List.eq_nil_or_concat (normalize cs)).resolve_left hne
      rw [List.concat_eq_append] at hlast
      have hd : isBlank d = false := by
        rw [hlast, frayed_concat] at hfrayed
        exact Bool.eq_false_iff.mpr hfrayed
      exact normalize_of_ends hfirst hc hlast hd (dropTrailingPairs_spec (trim cs)).2 (.refl _)

/-- Nothing is left of separators with white space behind them, once they are normalized again. -/
lemma Hollow.normalize_eq_nil (h : Hollow ns) : normalize ns = [] := by
  obtain ⟨n, blanks, hpos, -, hblanks, rfl⟩ := h
  obtain ⟨n, rfl⟩ := Nat.exists_eq_succ_of_ne_zero hpos.ne'
  refine normalize_eq_nil_iff.mpr ⟨n + 1, ?_⟩
  have hlast : pairs (n + 1) = (pairs n ++ [':']) ++ [':'] := by simp [pairs_succ']
  have htrim : trim ([] ++ pairs (n + 1) ++ blanks) = pairs (n + 1) :=
    trim_of_blanks (by simp) hblanks (pairs_succ n) (by decide) hlast (by decide)
  simpa using htrim

/-- Normalizing twice leaves nothing of a namespace of which normalizing once has left something, if
that is some separators before white space. -/
lemma normalize_normalize_eq_nil_iff (hne : normalize cs ≠ []) :
    normalize (normalize cs) = [] ↔ Hollow (normalize cs) := by
  refine ⟨fun hnil => ?_, Hollow.normalize_eq_nil⟩
  have hstop := (dropTrailingPairs_spec (trim cs)).2
  rw [← normalize] at hstop
  obtain ⟨c, rest, hfirst, hc⟩ := normalize_first hne
  obtain ⟨blanks, hblanks, hsplit⟩ := trim_spec rest hc
  obtain ⟨n, hn⟩ := normalize_eq_nil_iff.mp hnil
  rw [← hfirst, hn] at hsplit
  refine ⟨n, blanks, Nat.pos_of_ne_zero ?_, ?_, hblanks, hsplit⟩
  · rintro rfl
    rw [hfirst] at hsplit
    have hmem : c ∈ blanks := by
      have hall : c :: rest = blanks := hsplit
      simp [← hall]
    simp [hblanks c hmem] at hc
  · rintro rfl
    cases n with
    | zero => exact hne hsplit
    | succ n => exact hstop (pairs n) (by rw [hsplit, List.append_nil, pairs_succ'])

end Namespace

end NamespaceLogging
