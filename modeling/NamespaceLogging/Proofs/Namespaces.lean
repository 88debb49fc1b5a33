import Mathlib.Tactic.Common
import NamespaceLogging.Proofs.TextParts
import NamespaceLogging.Routing.Registry

/-!
# Well-formed namespaces

A namespace is well formed if it is made of segments with `::` between them.  Of such a namespace the
ancestors are known: they are the beginnings that end before a `::`.  The walk from a namespace to
its parent, and from there on, passes all of them, the longest one first.

## Main definitions

* `Namespace.Segment`, `Namespace.WellFormed`: what well-formed namespaces are made of.
* `Namespace.Covers`: a namespace is another one or lies above it.
* `Namespace.Spells`: a text spells a namespace, if there is only white space around it and `::` at
  its end.

## Main results

* `Namespace.covers_below`: what covers a namespace covers its parent, or is the namespace itself.
* `Namespace.normalize_of_spells`: normalizing finds the namespace that a text spells.
* `Registry.walk_closest`: the walk ends at the closest namespace that is registered.
-/

set_option autoImplicit false

namespace NamespaceLogging

open Text

namespace Namespace

/-- A segment of a namespace: it is not empty, and has no colons and no white space in it. -/
def Segment (cs : List Char) : Prop := cs ≠ [] ∧ ∀ c ∈ cs, c ≠ ':' ∧ isBlank c = false

/-- A namespace of one or more segments with `::` between them. -/
inductive WellFormed : List Char → Prop
  | single {segment : List Char} (hsegment : Segment segment) : WellFormed segment
  | under {ns segment : List Char} (hns : WellFormed ns) (hsegment : Segment segment) :
      WellFormed (ns ++ ':' :: ':' :: segment)

/-- The first namespace is the second one or lies above it. -/
def Covers (k ns : List Char) : Prop := ns = k ∨ k ++ [':', ':'] <+: ns

/-- The text spells the namespace: there may be white space around, and `::` at the end, even
several times. -/
def Spells (text ns : List Char) : Prop :=
  ∃ (before after : List Char) (n : Nat), (∀ c ∈ before, isBlank c = true) ∧
    (∀ c ∈ after, isBlank c = true) ∧
    text = before ++ (ns ++ (List.replicate n [':', ':']).flatten) ++ after

variable {k ns segment text cs : List Char}

instance (cs : List Char) : Decidable (Segment cs) :=
  have : Decidable (∀ c ∈ cs, c ≠ ':' ∧ isBlank c = false) := List.decidableBAll _ cs
  inferInstanceAs (Decidable (cs ≠ [] ∧ ∀ c ∈ cs, c ≠ ':' ∧ isBlank c = false))

instance (k ns : List Char) : Decidable (Covers k ns) :=
  inferInstanceAs (Decidable (ns = k ∨ k ++ [':', ':'] <+: ns))

/-! ## Segments and their ends -/

/-- A segment has no colon in it. -/
lemma Segment.no_colon (h : Segment segment) : ':' ∉ segment :=
  fun hmem => (h.2 _ hmem).1 rfl

/-- A character with which a namespace can begin and end. -/
def Solid (c : Char) : Prop := c ≠ ':' ∧ isBlank c = false

/-- A well-formed namespace begins with a character that is no colon and no white space. -/
lemma WellFormed.first (h : WellFormed ns) : ∃ c rest, ns = c :: rest ∧ Solid c := by
  induction h with
  | @single segment hsegment =>
    obtain ⟨c, rest, rfl⟩ := List.exists_cons_of_ne_nil hsegment.1
    exact ⟨c, rest, rfl, hsegment.2 c List.mem_cons_self⟩
  | under _ _ ih =>
    obtain ⟨c, rest, rfl, hc⟩ := ih
    exact ⟨c, _, rfl, hc⟩

/-- A segment ends with a character that is no colon and no white space. -/
lemma Segment.last (h : Segment segment) : ∃ before c, segment = before ++ [c] ∧ Solid c := by
  obtain ⟨before, c, rfl⟩ := (List.eq_nil_or_concat segment).resolve_left h.1
  exact ⟨before, c, List.concat_eq_append, h.2 c (by simp)⟩

/-- A well-formed namespace ends with a character that is no colon and no white space. -/
lemma WellFormed.last (h : WellFormed ns) : ∃ before c, ns = before ++ [c] ∧ Solid c := by
  cases h with
  | single hsegment => exact hsegment.last
  | @under above segment _ hsegment =>
    obtain ⟨before, c, rfl, hc⟩ := hsegment.last
    exact ⟨above ++ ':' :: ':' :: before, c, by simp, hc⟩

/-- A well-formed namespace is not empty. -/
lemma WellFormed.ne_nil (h : WellFormed ns) : ns ≠ [] := by
  obtain ⟨c, rest, rfl, -⟩ := h.first
  simp

/-- No well-formed namespace ends with a colon. -/
lemma WellFormed.not_concat (h : WellFormed ns) : ns ≠ cs ++ [':'] := by
  obtain ⟨before, c, rfl, hc⟩ := h.last
  intro heq
  exact hc.1 (by simpa using (List.append_inj' heq rfl).2)

/-! ## Parents -/

/-- The last separator is the one that no colon follows. -/
lemma splitLast?_of_segment (h : ':' ∉ segment) :
    splitLast? [':', ':'] (cs ++ ':' :: ':' :: segment) = some (cs, segment) := by
  induction cs with
  | nil =>
    have hhead : stripPrefix? [':'] segment = none := by
      cases segment with
      | nil => rfl
      | cons c rest =>
        rw [List.mem_cons, not_or] at h
        simp [stripPrefix?, h.1]
    simp [splitLast?, splitLast?_of_notMem h, hhead, stripPrefix?]
  | cons c cs ih => simp [splitLast?, ih]

/-- Nothing lies above a namespace of one segment. -/
lemma parent_of_segment (h : Segment segment) : parent segment = [] := by
  simp [parent, splitLast?_of_notMem h.no_colon]

/-- What lies above a namespace is that namespace without its last segment. -/
lemma parent_below (h : Segment segment) : parent (ns ++ ':' :: ':' :: segment) = ns := by
  simp [parent, splitLast?_of_segment h.no_colon]

/-! ## Ancestors -/

/-- Every namespace covers itself. -/
lemma Covers.refl (ns : List Char) : Covers ns ns := .inl rfl

/-- A namespace is not longer than those that it covers. -/
lemma Covers.length_le (h : Covers k ns) : k.length ≤ ns.length := by
  rcases h with rfl | h
  · exact Nat.le_refl _
  · have := h.length_le
    simp only [List.length_append, List.length_cons, List.length_nil] at this
    omega

/-- Two ancestors of a namespace that are equally long are the same. -/
lemma Covers.eq_of_length {k' : List Char} (h : Covers k ns) (h' : Covers k' ns)
    (hlength : k.length = k'.length) : k = k' := by
  have isPrefix : ∀ {k : List Char}, Covers k ns → k <+: ns := by
    rintro k (rfl | h)
    · exact List.prefix_rfl
    · exact (List.prefix_append _ _).trans h
  have hprefix : k <+: k' :=
    List.prefix_of_prefix_length_le (isPrefix h) (isPrefix h') (Nat.le_of_eq hlength)
  exact hprefix.eq_of_length hlength

/-- Nothing lies above a single segment. -/
lemma covers_segment (h : Segment segment) : Covers k segment ↔ segment = k := by
  constructor
  · rintro (rfl | hcovers)
    · rfl
    · exact absurd (hcovers.subset (by simp)) h.no_colon
  · rintro rfl
    exact .refl _

/-- **What covers a namespace covers its parent, or is the namespace itself.**

**Proof sketch.** A namespace above ends before some `::`.  That cannot begin with the last colon
of the parent, which ends with none, nor later than the last separator, which no colon follows. -/
lemma covers_below (hns : WellFormed ns) (hsegment : Segment segment) :
    Covers k (ns ++ ':' :: ':' :: segment) ↔ ns ++ ':' :: ':' :: segment = k ∨ Covers k ns := by
  constructor
  · rintro (rfl | ⟨rest, heq⟩)
    · exact .inl rfl
    · right
      rw [List.append_assoc, List.append_eq_append_iff] at heq
      rcases heq with ⟨a, rfl, ha⟩ | ⟨a, rfl, ha⟩
      · match a with
        | [] => exact .inl (by simp)
        | [c] =>
          -- the parent would end with a colon
          simp only [List.cons_append, List.nil_append, List.cons.injEq] at ha
          have hend : k ++ [c] = k ++ [':'] := by rw [← ha.1]
          exact absurd hend hns.not_concat
        | c :: c' :: a =>
          simp only [List.cons_append, List.nil_append, List.cons.injEq] at ha
          exact .inr ⟨a, by simp [← ha.1, ← ha.2.1]⟩
      · match a with
        | [] => exact .inl (by simp)
        | [c] =>
          simp only [List.cons_append, List.nil_append, List.cons.injEq] at ha
          exact absurd (ha.2.2 ▸ List.mem_cons_self) hsegment.no_colon
        | c :: c' :: a =>
          simp only [List.cons_append, List.nil_append, List.cons.injEq] at ha
          exact absurd (ha.2.2 ▸ by simp) hsegment.no_colon
  · rintro (rfl | rfl | h)
    · exact .refl _
    · exact .inr ⟨segment, by simp⟩
    · exact .inr (h.trans (List.prefix_append _ _))

/-- What lies above a well-formed namespace is well formed. -/
lemma WellFormed.of_covers (hns : WellFormed ns) (h : Covers k ns) : WellFormed k := by
  induction hns with
  | single hsegment =>
    obtain rfl := (covers_segment hsegment).mp h
    exact .single hsegment
  | under hns hsegment ih =>
    rcases (covers_below hns hsegment).mp h with rfl | h
    · exact .under hns hsegment
    · exact ih h

/-! ## Texts that spell a namespace -/

/-- A namespace spells itself. -/
lemma Spells.refl (ns : List Char) : Spells ns ns := ⟨[], [], 0, by simp, by simp, by simp⟩

/-- Pairs at the front of a reversed text are dropped, up to the first one that is none. -/
lemma dropPairs_replicate (hcs : ∀ rest, cs ≠ ':' :: ':' :: rest) (n : Nat) :
    dropPairs ':' ':' ((List.replicate n [':', ':']).flatten ++ cs) = cs := by
  induction n with
  | zero =>
    match cs with
    | [] => rfl
    | [c] => rfl
    | c :: d :: cs =>
      have hpair : (c == ':' && d == ':') = false := by
        by_contra h
        simp only [Bool.not_eq_false, Bool.and_eq_true, beq_iff_eq] at h
        exact hcs cs (by rw [h.1, h.2])
      simp [dropPairs, hpair]
  | succ n ih => simpa [List.replicate_succ, dropPairs] using ih

/-- Separators read the same from both ends. -/
lemma reverse_pairs (n : Nat) :
    (List.replicate n [':', ':']).flatten.reverse = (List.replicate n [':', ':']).flatten := by
  simp [List.reverse_flatten]

/-- Normalizing finds the namespace that a text spells, if that has something else than white space at
both ends and no separator at its end. -/
lemma normalize_of_ends {c d : Char} {rest init : List Char} (hfirst : ns = c :: rest)
    (hc : isBlank c = false) (hlast : ns = init ++ [d]) (hd : isBlank d = false)
    (hpair : ∀ before, ns ≠ before ++ [':', ':']) (h : Spells text ns) : normalize text = ns := by
  obtain ⟨before, after, n, hbefore, hafter, rfl⟩ := h
  set pairs := (List.replicate n [':', ':']).flatten
  have htrim : trim (before ++ (ns ++ pairs) ++ after) = ns ++ pairs := by
    have hend : ∃ init d, ns ++ pairs = init ++ [d] ∧ isBlank d = false := by
      cases n with
      | zero => exact ⟨init, d, by simp [pairs, hlast], hd⟩
      | succ n =>
        refine ⟨ns ++ (List.replicate n [':', ':']).flatten ++ [':'], ':', ?_, by decide⟩
        simp [pairs, List.replicate_succ']
    obtain ⟨init', d', hlast', hd'⟩ := hend
    exact trim_of_blanks hbefore hafter (by rw [hfirst]; rfl) hc hlast' hd'
  have hreverse : ∀ more, ns.reverse ≠ ':' :: ':' :: more := by
    intro more heq
    rw [List.reverse_eq_iff] at heq
    exact hpair more.reverse (by simpa using heq)
  rw [normalize, htrim, dropTrailingPairs, List.reverse_append, reverse_pairs,
    dropPairs_replicate hreverse, List.reverse_reverse]

/-- **Normalizing finds the namespace that a text spells.** -/
lemma normalize_of_spells (hns : WellFormed ns) (h : Spells text ns) : normalize text = ns := by
  obtain ⟨c, rest, hfirst, hc⟩ := hns.first
  obtain ⟨init, d, hlast, hd⟩ := hns.last
  refine normalize_of_ends hfirst hc.2 hlast hd.2 (fun before heq => ?_) h
  have hconcat : before ++ [':', ':'] = before ++ [':'] ++ [':'] := by simp
  exact hns.not_concat (heq.trans hconcat)

/-- A well-formed namespace is normal already. -/
lemma normalize_of_wellFormed (hns : WellFormed ns) : normalize ns = ns :=
  normalize_of_spells hns (.refl ns)

/-- A text spells at most one well-formed namespace. -/
lemma Spells.unique {ns' : List Char} (hns : WellFormed ns) (hns' : WellFormed ns')
    (h : Spells text ns) (h' : Spells text ns') : ns = ns' :=
  (normalize_of_spells hns h).symm.trans (normalize_of_spells hns' h')

end Namespace

/-! ## The walk to the root -/

namespace Registry

open Namespace

variable {entries : List (List Char × SlotId)} {ns segment : List Char}

/-- The walk ends at a namespace that is registered. -/
lemma walk_of_some {id : SlotId} (hns : ns ≠ []) (h : entries.lookup ns = some id) :
    walk entries ns = .slot id := by
  rw [walk, dif_neg hns, h]

/-- The walk goes on above a namespace that is not registered. -/
lemma walk_of_none (hns : ns ≠ []) (h : entries.lookup ns = none) :
    walk entries ns = walk entries (parent ns) := by
  rw [walk, dif_neg hns, h]

/-- The walk ends with the default handlers when no namespace is left. -/
@[simp]
lemma walk_nil : walk entries [] = .defaults := by
  rw [walk, dif_pos rfl]

/-- A slot at which the walk ends was registered, and not for a longer namespace. -/
lemma exists_of_walk_slot {id : SlotId} (h : walk entries ns = .slot id) :
    ∃ k, entries.lookup k = some id ∧ k.length ≤ ns.length := by
  fun_induction walk entries ns with
  | case1 => simp at h
  | case2 ns hns id' hlookup => exact ⟨ns, Route.slot.inj h ▸ hlookup, Nat.le_refl _⟩
  | case3 ns hns hlookup hlt ih =>
    obtain ⟨k, hk, hlength⟩ := ih h
    exact ⟨k, hk, hlength.trans hlt.le⟩

/-- Where the walk from a namespace has to end: at the longest namespace that covers it and is
registered. -/
def Closest (entries : List (List Char × SlotId)) (ns : List Char) : Route → Prop
  | .slot id => ∃ k, Covers k ns ∧ entries.lookup k = some id ∧
      ∀ k', Covers k' ns → entries.lookup k' ≠ none → k'.length ≤ k.length
  | .defaults => ∀ k, Covers k ns → entries.lookup k = none

/-- A namespace that is registered itself is the closest one. -/
lemma closest_self {id : SlotId} (h : entries.lookup ns = some id) :
    Closest entries ns (.slot id) :=
  ⟨ns, .refl ns, h, fun _ hk _ => hk.length_le⟩

/-- If a namespace is not registered itself, what is closest to its parent is closest to it. -/
lemma Closest.below {route : Route} (hns : WellFormed ns) (hsegment : Segment segment)
    (hnone : entries.lookup (ns ++ ':' :: ':' :: segment) = none) (h : Closest entries ns route) :
    Closest entries (ns ++ ':' :: ':' :: segment) route := by
  cases route with
  | slot id =>
    obtain ⟨k, hcovers, hlookup, hlongest⟩ := h
    refine ⟨k, (covers_below hns hsegment).mpr (.inr hcovers), hlookup, fun k' hk' hsome => ?_⟩
    rcases (covers_below hns hsegment).mp hk' with rfl | hk'
    · exact absurd hnone hsome
    · exact hlongest k' hk' hsome
  | defaults =>
    intro k hk
    rcases (covers_below hns hsegment).mp hk with rfl | hk
    · exact hnone
    · exact h k hk

/-- **The walk ends at the closest namespace that is registered.**

**Proof sketch.** Induction on the segments: the parent of a namespace is the namespace without its
last segment, and covers what covers the parent. -/
theorem walk_closest (hns : WellFormed ns) : Closest entries ns (walk entries ns) := by
  induction hns with
  | @single segment hsegment =>
    cases hlookup : entries.lookup segment with
    | some id =>
      rw [walk_of_some hsegment.1 hlookup]
      exact closest_self hlookup
    | none =>
      rw [walk_of_none hsegment.1 hlookup, parent_of_segment hsegment, walk_nil]
      intro k hk
      rwa [← (covers_segment hsegment).mp hk]
  | @under ns segment hns hsegment ih =>
    have hne : ns ++ ':' :: ':' :: segment ≠ [] := by simp
    cases hlookup : entries.lookup (ns ++ ':' :: ':' :: segment) with
    | some id =>
      rw [walk_of_some hne hlookup]
      exact closest_self hlookup
    | none =>
      rw [walk_of_none hne hlookup, parent_below hsegment]
      exact ih.below hns hsegment hlookup

end Registry

end NamespaceLogging
