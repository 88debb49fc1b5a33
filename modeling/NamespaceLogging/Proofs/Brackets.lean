import NamespaceLogging.Proofs.TextParts
import NamespaceLogging.Record.Frame

/-!
# Brackets in paths

The segments of a path can carry arguments in angle brackets, and these can hold paths of their own.  A
path is made of the segments that are joined outside of all brackets, while a search for `::` finds the
separators inside of brackets, too.

## Main definitions

* `Path.depth`, `Path.Balanced`: how many brackets are open behind a text, and texts that open and close
  their own brackets only.
* `Path.Bare`: something stands outside of the brackets of a text.
* `Path.Segment`: a text with colons in brackets only.
* `Path.Cut`: a text with a path in it.
* `Path.join`, `Path.lead`: joined segments, and what they are in front of another one.

## Main results

* `Path.Segment.unbalanced_of_cut`: what a segment falls into when it is split at a separator.
* `Path.splitLast_lead_cases`: where a path is split.
* `Path.dropClosures_append`: the markers of closures are dropped, all of them.
-/

set_option autoImplicit false

namespace NamespaceLogging

open Text

namespace Path

variable {cs u v seg : List Char} {n m k : Nat}

/-! ## Brackets -/

/-- The number of brackets that are open behind a text, if `n` are open in front of it.  There is none if
a bracket is closed that was not opened. -/
def depth : Nat → List Char → Option Nat
  | n, [] => some n
  | n, c :: cs =>
    if c = '<' then depth (n + 1) cs
    else if c = '>' then
      match n with
      | 0 => none
      | n + 1 => depth n cs
    else depth n cs

/-- The text closes the brackets that it opens, and no others. -/
def Balanced (cs : List Char) : Prop := depth 0 cs = some 0

instance (cs : List Char) : Decidable (Balanced cs) := inferInstanceAs (Decidable (_ = _))

/-- The depth behind two texts is the one behind the second, counted from the depth behind the
first. -/
lemma depth_append (n : Nat) (u v : List Char) :
    depth n (u ++ v) = (depth n u).bind fun m => depth m v := by
  induction u generalizing n with
  | nil => rfl
  | cons c u ih =>
    simp only [List.cons_append, depth]
    split
    · exact ih _
    · split
      · cases n with
        | zero => rfl
        | succ n => exact ih n
      · exact ih n

/-- With more brackets open in front of a text, more are open behind it. -/
lemma depth_add (h : depth n cs = some m) (k : Nat) : depth (n + k) cs = some (m + k) := by
  induction cs generalizing n with
  | nil =>
    obtain rfl : n = m := by simpa [depth] using h
    rfl
  | cons c cs ih =>
    simp only [depth] at h ⊢
    split at h
    · rename_i hc
      rw [if_pos hc, Nat.add_right_comm]
      exact ih h
    · rename_i hc
      rw [if_neg hc]
      split at h
      · rename_i hc'
        rw [if_pos hc']
        cases n with
        | zero => cases h
        | succ n =>
          rw [Nat.add_right_comm]
          exact ih h
      · rename_i hc'
        rw [if_neg hc']
        exact ih h

/-- Brackets are closed by brackets only. -/
lemma le_depth_of_notMem (h : '>' ∉ cs) (n : Nat) : ∃ m, depth n cs = some m ∧ n ≤ m := by
  induction cs generalizing n with
  | nil => exact ⟨n, rfl, Nat.le_refl n⟩
  | cons c cs ih =>
    rw [List.mem_cons, not_or] at h
    simp only [depth, if_neg (Ne.symm h.1)]
    split
    · obtain ⟨m, hm, hle⟩ := ih h.2 (n + 1)
      exact ⟨m, hm, by omega⟩
    · exact ih h.2 n

/-- A text without brackets does not change their number. -/
lemma depth_of_notMem (hopen : '<' ∉ cs) (hclose : '>' ∉ cs) (n : Nat) : depth n cs = some n := by
  induction cs with
  | nil => rfl
  | cons c cs ih =>
    rw [List.mem_cons, not_or] at hopen hclose
    simp only [depth, if_neg (Ne.symm hopen.1), if_neg (Ne.symm hclose.1)]
    exact ih hopen.2 hclose.2

/-- The empty text is balanced. -/
lemma balanced_nil : Balanced [] := rfl

/-- Two balanced texts are balanced together. -/
lemma Balanced.append (hu : Balanced u) (hv : Balanced v) : Balanced (u ++ v) := by
  rw [Balanced, depth_append, hu]
  exact hv

/-- What stands in front of a balanced text can be taken away. -/
lemma Balanced.balanced_append_iff (hu : Balanced u) : Balanced (u ++ v) ↔ Balanced v := by
  rw [Balanced, depth_append, hu]
  rfl

/-- A text without any bracket does not matter to the balance. -/
lemma balanced_append_of_notMem (hopen : '<' ∉ v) (hclose : '>' ∉ v) :
    Balanced (u ++ v) ↔ Balanced u := by
  rw [Balanced, depth_append, Balanced]
  cases depth 0 u with
  | none => rfl
  | some m => rw [Option.bind_some, depth_of_notMem hopen hclose]

/-- **A balanced text that is cut inside of a bracket** leaves one part that does not close it, and one
part that closes it. -/
lemma unbalanced_of_append (h : Balanced (u ++ v)) (hu : ¬ Balanced u) : ¬ Balanced v ∧ '>' ∈ v := by
  rw [Balanced, depth_append] at h
  obtain ⟨m, hm, hv⟩ := Option.bind_eq_some_iff.mp h
  have hpos : m ≠ 0 := by
    rintro rfl
    exact hu hm
  constructor
  · intro hbalanced
    have hadd := depth_add hbalanced m
    rw [Nat.zero_add, hv] at hadd
    exact hpos (Option.some.inj hadd).symm
  · by_contra hclose
    obtain ⟨m', hm', hle⟩ := le_depth_of_notMem hclose m
    rw [hv] at hm'
    cases hm'
    exact hpos (Nat.le_zero.mp hle)

/-! ## Segments -/

/-- The text `sep` stands in `cs` behind `front`, outside of all brackets. -/
def Bare (sep front cs : List Char) : Prop := front ++ sep <+: cs ∧ Balanced front

instance (sep front cs : List Char) : Decidable (Bare sep front cs) :=
  inferInstanceAs (Decidable (_ ∧ _))

/-- What stands outside of brackets stands behind a beginning of the text. -/
lemma forall_bare_iff {sep : List Char} {p : List Char → Prop} :
    (∀ front, Bare sep front cs → p front) ↔ ∀ front ∈ cs.inits, Bare sep front cs → p front := by
  constructor
  · exact fun h front _ => h front
  · intro h front hbare
    have hprefix : front <+: cs := (List.prefix_append front sep).trans hbare.1
    exact h front ((List.mem_inits front cs).mpr hprefix) hbare

instance {sep : List Char} {p : List Char → Prop} [DecidablePred p] :
    Decidable (∀ front, Bare sep front cs → p front) :=
  decidable_of_iff _ forall_bare_iff.symm

/-- A segment of a path: a text that is not empty and has colons in balanced brackets only. -/
structure Segment (seg : List Char) : Prop where
  ne_nil : seg ≠ []
  balanced : Balanced seg
  colons : ∀ front, Bare [':'] front seg → False

instance (seg : List Char) : Decidable (Segment seg) :=
  decidable_of_iff (seg ≠ [] ∧ Balanced seg ∧ ∀ front, Bare [':'] front seg → False)
    ⟨fun h => ⟨h.1, h.2.1, h.2.2⟩, fun h => ⟨h.ne_nil, h.balanced, h.colons⟩⟩

/-- The text holds a separator of paths. -/
def Cut (cs : List Char) : Prop := [':', ':'] <:+: cs

instance (cs : List Char) : Decidable (Cut cs) := inferInstanceAs (Decidable (_ <:+: _))

/-- A segment does not begin with a colon. -/
lemma Segment.head_ne (h : Segment seg) : ¬ [':'] <+: seg :=
  fun hfront => h.colons [] ⟨hfront, balanced_nil⟩

/-- A segment does not end with a colon. -/
lemma Segment.getLast_ne (h : Segment seg) : ¬ [':'] <:+ seg := by
  rintro ⟨front, rfl⟩
  refine h.colons front ⟨List.prefix_rfl, ?_⟩
  exact (balanced_append_of_notMem (by simp) (by simp)).mp h.balanced

/-- **A segment that is split at a separator falls into two parts whose brackets do not match**. -/
lemma Segment.unbalanced_of_cut (h : Segment (u ++ (':' :: ':' :: v))) :
    ¬ Balanced u ∧ ¬ Balanced v ∧ '>' ∈ v := by
  have hu : ¬ Balanced u := fun hu => h.colons u ⟨⟨':' :: v, by simp⟩, hu⟩
  obtain ⟨hv, hmem⟩ := unbalanced_of_append h.balanced hu
  have hcolons : Balanced (':' :: ':' :: v) ↔ Balanced v :=
    Balanced.balanced_append_iff (u := [':', ':']) (by decide)
  rw [hcolons] at hv
  exact ⟨hu, hv, by simpa using hmem⟩

/-! ## Joined segments -/

/-- Segments joined to a path. -/
def join (segs : List (List Char)) : List Char := List.intercalate [':', ':'] segs

/-- The segments of a path in front of another one, with all separators. -/
def lead (segs : List (List Char)) : List Char := if segs = [] then [] else join segs ++ [':', ':']

/-- One segment more is put behind the others and their separators. -/
lemma join_concat (segs : List (List Char)) (seg : List Char) :
    join (segs ++ [seg]) = lead segs ++ seg := by
  induction segs with
  | nil => simp [join, lead]
  | cons first segs ih =>
    cases segs with
    | nil => simp [join, lead]
    | cons second segs =>
      simp only [join, lead, List.cons_append, List.intercalate_cons_cons, reduceCtorEq,
        if_false, List.append_assoc] at ih ⊢
      rw [ih]

/-- Segments with separators between them are balanced. -/
lemma balanced_join {segs : List (List Char)} (h : ∀ seg ∈ segs, Segment seg) :
    Balanced (join segs) := by
  induction segs using List.reverseRecOn with
  | nil => exact balanced_nil
  | append_singleton segs seg ih =>
    have hinit := ih fun seg hseg => h seg (List.mem_append_left _ hseg)
    rw [join_concat, lead]
    refine Balanced.append ?_ (h seg (by simp)).balanced
    split
    · exact balanced_nil
    · exact hinit.append (by decide)

/-- Segments with a separator behind each of them are balanced. -/
lemma balanced_lead {segs : List (List Char)} (h : ∀ seg ∈ segs, Segment seg) :
    Balanced (lead segs) := by
  rw [lead]
  split
  · exact balanced_nil
  · exact (balanced_join h).append (by decide)

/-! ## Where a path is split -/

/-- Of a text and a segment behind it, the segment is found if it is not cut. -/
lemma splitLast?_of_segment (h : Segment seg) (hcut : ¬ Cut seg) (cs : List Char) :
    splitLast? [':', ':'] (cs ++ [':', ':'] ++ seg) = some (cs, seg) := by
  have hnone : splitLast? [':', ':'] (':' :: seg) = none := by
    rw [splitLast?_eq_none_iff, List.infix_cons_iff, not_or]
    exact ⟨fun hprefix => h.head_ne (by simpa using hprefix), hcut⟩
  have hsplit : splitLast? [':', ':'] (cs ++ ':' :: ([':'] ++ seg)) = some (cs, seg) :=
    splitLast?_append hnone
  simpa using hsplit

/-- The last segment is what is split off, if no separator can be found in the middle of it. -/
lemma splitLast_lead (h : Segment seg) (hcut : ¬ Cut seg) (segs : List (List Char)) :
    splitLast (lead segs ++ seg) = (join segs, seg) := by
  rw [splitLast, lead]
  split
  · rename_i hnil
    rw [List.nil_append, splitLast?_eq_none_iff.mpr hcut, hnil]
    rfl
  · rw [splitLast?_of_segment h hcut]
    rfl

/-- A path is split inside of its last segment if that is cut. -/
lemma splitLast_append_of_cut (hcut : Cut seg) :
    ∃ u v, seg = u ++ (':' :: ':' :: v) ∧ ∀ front, splitLast (front ++ seg) = (front ++ u, v) := by
  cases hsplit : splitLast? [':', ':'] seg with
  | none => exact absurd hcut (splitLast?_eq_none_iff.mp hsplit)
  | some sides =>
    obtain ⟨u, v⟩ := sides
    refine ⟨u, v, eq_append_of_splitLast? hsplit, fun front => ?_⟩
    rw [splitLast, splitLast?_append_left hsplit, Option.getD_some]

/-- **A path is split in front of its last segment, or both parts have brackets that do not match.** -/
lemma splitLast_lead_cases {segs : List (List Char)} (hsegs : ∀ seg ∈ segs, Segment seg)
    (h : Segment seg) :
    (¬ Cut seg ∧ splitLast (lead segs ++ seg) = (join segs, seg)) ∨
      (Cut seg ∧ ¬ Balanced (splitLast (lead segs ++ seg)).1 ∧
        ¬ Balanced (splitLast (lead segs ++ seg)).2) := by
  by_cases hcut : Cut seg
  · obtain ⟨u, v, rfl, hboth⟩ := splitLast_append_of_cut hcut
    obtain ⟨hu, hv, -⟩ := h.unbalanced_of_cut
    rw [hboth]
    exact .inr ⟨hcut, fun hbalanced => hu ((balanced_lead hsegs).balanced_append_iff.mp hbalanced), hv⟩
  · exact .inl ⟨hcut, splitLast_lead h hcut segs⟩

/-- What is found behind the last separator has none in it. -/
lemma not_cut_splitLast (cs : List Char) : ¬ Cut (splitLast cs).2 := by
  rw [splitLast]
  cases hsplit : splitLast? [':', ':'] cs with
  | none => exact splitLast?_eq_none_iff.mp hsplit
  | some sides => exact not_infix_of_splitLast? (by simp) hsplit

/-! ## Closures -/

/-- The markers of closures inside of closures. -/
def closures (k : Nat) : List Char := (List.replicate k closureSuffix).flatten

/-- A suffix can be stripped just if the text ends with it, and what is left stands before it. -/
lemma stripSuffix?_eq_some_iff {suffix rest : List Char} :
    stripSuffix? suffix cs = some rest ↔ cs = rest ++ suffix := by
  rw [stripSuffix?, Option.map_eq_some_iff]
  constructor
  · rintro ⟨rest', hrest', rfl⟩
    rw [stripPrefix?_eq_some_iff, List.reverse_eq_iff] at hrest'
    simpa using hrest'
  · rintro rfl
    exact ⟨rest.reverse, stripPrefix?_eq_some_iff.mpr (by simp), by simp⟩

/-- A text that does not end with the mark of a closure stays as it is. -/
lemma dropClosures_of_not (h : ¬ closureSuffix <:+ cs) : dropClosures cs = cs := by
  rw [dropClosures]
  split
  · rename_i rest hrest
    exact absurd ⟨rest, (stripSuffix?_eq_some_iff.mp hrest).symm⟩ h
  · rfl

/-- The mark of a closure at the end of a text is dropped, and then the rest is looked at. -/
lemma dropClosures_closure (cs : List Char) :
    dropClosures (cs ++ closureSuffix) = dropClosures cs := by
  have hstrip := stripSuffix?_eq_some_iff.mpr (rfl : cs ++ closureSuffix = cs ++ closureSuffix)
  rw [dropClosures]
  split
  · rename_i rest hrest
    obtain rfl : cs = rest := Option.some.inj (hstrip.symm.trans hrest)
    rfl
  · rename_i hnone
    rw [hstrip] at hnone
    cases hnone

/-- **All markers at the end of a path are dropped**, and nothing else. -/
lemma dropClosures_append (h : ¬ closureSuffix <:+ cs) (k : Nat) :
    dropClosures (cs ++ closures k) = cs := by
  induction k with
  | zero => simpa [closures] using dropClosures_of_not h
  | succ k ih =>
    have hlast : closures (k + 1) = closures k ++ closureSuffix := by
      simp [closures, List.replicate_succ']
    rw [hlast, ← List.append_assoc, dropClosures_closure, ih]

end Path

end NamespaceLogging
