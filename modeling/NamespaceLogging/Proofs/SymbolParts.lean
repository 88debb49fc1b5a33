import NamespaceLogging.Proofs.Brackets

/-!
# Parts of symbols

The symbol of a function is the path of its owner, the function, and a marker for each closure that it
stands in.  The owner can be a type in angle brackets, possibly with the trait that the function belongs
to.  All parts can carry paths in brackets; the separators of these are taken for those of the symbol.

## Main definitions

* `Path.Symbol`: the parts of a symbol.
* `Path.Symbol.text`: the symbol.
* `Path.Symbol.WellFormed`: the parts can be told from each other by the brackets.
* `Path.Symbol.FindsFunction`, `Path.Symbol.FindsOwner`: when a part is found.

## Main results

* `Path.Symbol.function_split_iff`, `Path.Symbol.owner_split_iff`: what a symbol is split into.
* `Frame.parts_of_symbol`: which parts of a symbol are found.
-/

set_option autoImplicit false

namespace NamespaceLogging

open Text

namespace Path

/-! ## Symbols -/

/-- What stands between a type and its trait. -/
def asWord : List Char := [' ', 'a', 's', ' ']

/-- The end of a type in brackets. -/
def typeEnd : List Char := ['>', ':', ':']

/-- How the owner of a function is given. -/
inductive Head where
  /-- The path of the owner. -/
  | plain
  /-- A type in brackets, with the trait if there is one.  The function can stand inside of other
  items of the type. -/
  | qualified (trait : Option (List Char)) (items : List (List Char))

/-- The parts of a symbol. -/
structure Symbol where
  /-- The segments of the namespace. -/
  owner : List (List Char)
  head : Head
  function : List Char
  /-- The number of closures around the place. -/
  closures : Nat

namespace Symbol

/-- The trait behind a type. -/
def bound : Option (List Char) → List Char
  | none => []
  | some trait => asWord ++ trait

/-- The end of the symbol. -/
def tail (sym : Symbol) : List Char := sym.function ++ Path.closures sym.closures

/-- The symbol. -/
def text (sym : Symbol) : List Char :=
  match sym.head with
  | .plain => lead sym.owner ++ sym.tail
  | .qualified trait items =>
    '<' :: (join sym.owner ++ bound trait ++ typeEnd ++ (lead items ++ sym.tail))

/-- The marker of a closure. -/
def marker : List Char := "\x7b\x7bclosure\x7d\x7d".toList

/-- The owner can be told from the rest of a symbol: a type in brackets begins with a bracket, no other
symbol does, and the trait follows the first ` as ` outside of brackets. -/
def HeadFits (owner : List (List Char)) (text : List Char) : Head → Prop
  | .plain => ¬ ['<'] <+: text
  | .qualified none items => owner ≠ [] ∧ (∀ item ∈ items, Segment item) ∧
      ∀ front, Bare asWord front (join owner) → False
  | .qualified (some trait) items => owner ≠ [] ∧ (∀ item ∈ items, Segment item) ∧
      Balanced trait ∧ ∀ front, Bare asWord front (join owner ++ asWord ++ trait) →
        (join owner).length ≤ front.length

instance (owner : List (List Char)) (text : List Char) : (head : Head) →
    Decidable (HeadFits owner text head)
  | .plain => inferInstanceAs (Decidable (¬ _))
  | .qualified none _ => inferInstanceAs (Decidable (_ ∧ _ ∧ _))
  | .qualified (some _) _ => inferInstanceAs (Decidable (_ ∧ _ ∧ _ ∧ _))

/-- A path of segments with its function, and markers behind it. -/
structure WellFormed (sym : Symbol) : Prop where
  owner : ∀ seg ∈ sym.owner, Segment seg
  function : Segment sym.function
  marked : sym.function ≠ marker
  head : HeadFits sym.owner sym.text sym.head

instance (sym : Symbol) : Decidable sym.WellFormed :=
  decidable_of_iff ((∀ seg ∈ sym.owner, Segment seg) ∧ Segment sym.function ∧
      sym.function ≠ marker ∧ HeadFits sym.owner sym.text sym.head)
    ⟨fun h => ⟨h.1, h.2.1, h.2.2.1, h.2.2.2⟩, fun h => ⟨h.owner, h.function, h.marked, h.head⟩⟩

/-- No separator stands in the brackets of the function, and in a symbol with a type in brackets no
marker follows a bracket of the function. -/
def FindsFunction (sym : Symbol) : Prop :=
  ¬ Cut sym.function ∧
    match sym.head with
    | .plain => True
    | .qualified _ _ => ¬ (0 < sym.closures ∧ ['>'] <:+ sym.function)

/-- The end of the owner is found: no separator stands in the brackets of the function, or, if the owner
is a type in brackets, no ` as ` stands in its brackets, and without a trait no other end of brackets
looks like that of the type. -/
def FindsOwner (sym : Symbol) : Prop :=
  match sym.head with
  | .plain => ¬ Cut sym.function
  | .qualified (some _) _ => ¬ asWord <:+: join sym.owner
  | .qualified none items => ¬ asWord <:+: join sym.owner ∧ ¬ typeEnd <:+: lead items ++ sym.tail

variable {sym : Symbol} {fn front cs : List Char}

/-! ## Where a segment begins -/

/-- A text behind which a segment begins: there is none, or it ends with a separator. -/
def Leads (front : List Char) : Prop := front = [] ∨ [':', ':'] <:+ front

/-- A segment begins behind segments with separators behind them. -/
lemma leads_lead (segs : List (List Char)) : Leads (lead segs) := by
  rw [lead]
  split
  · exact .inl rfl
  · exact .inr (List.suffix_append _ _)

/-- The segment that begins behind such a text is what is split off. -/
lemma splitLast_of_leads (h : Segment fn) (hcut : ¬ Cut fn) (hfront : Leads front) :
    (splitLast (front ++ fn)).2 = fn := by
  rcases hfront with rfl | ⟨front, rfl⟩
  · exact congrArg Prod.snd (splitLast_lead h hcut [])
  · rw [splitLast, splitLast?_of_segment h hcut]
    rfl

/-- A function is not taken for the marker of a closure. -/
lemma not_closure (h : Segment fn) (hmarked : fn ≠ marker) (hfront : Leads front) :
    ¬ closureSuffix <:+ front ++ fn := by
  rintro ⟨more, hmore⟩
  have hmarker : Segment marker := by decide +kernel
  have hsplit : splitLast? [':', ':'] (front ++ fn) = some (more, marker) := by
    rw [← hmore]
    exact List.append_assoc more [':', ':'] marker ▸
      splitLast?_of_segment hmarker (by decide +kernel) more
  by_cases hcut : Cut fn
  · obtain ⟨u, v, rfl, hboth⟩ := splitLast_append_of_cut hcut
    have hboth := hboth front
    rw [splitLast, hsplit] at hboth
    obtain rfl : marker = v := congrArg Prod.snd hboth
    exact absurd h.unbalanced_of_cut.2.2 (by decide +kernel)
  · have hfn := splitLast_of_leads h hcut hfront
    rw [splitLast, hsplit] at hfn
    exact hmarked hfn.symm

/-- Marks of closures behind a segment are dropped, and the segment is left, unless it is such a
mark itself. -/
lemma dropClosures_of_leads (h : Segment fn) (hmarked : fn ≠ marker) (hfront : Leads front)
    (k : Nat) : dropClosures (front ++ (fn ++ Path.closures k)) = front ++ fn := by
  rw [← List.append_assoc, dropClosures_append (not_closure h hmarked hfront)]

/-! ## Symbols without a type in brackets -/

/-- A symbol without a qualified type is split at its last separator. -/
lemma split_of_plain (h : sym.WellFormed) (hhead : sym.head = .plain) :
    split sym.text = splitLast (lead sym.owner ++ sym.function) := by
  have hdrop := dropClosures_of_leads h.function h.marked (leads_lead sym.owner) sym.closures
  have htext : sym.text = lead sym.owner ++ (sym.function ++ Path.closures sym.closures) := by
    rw [text, hhead, tail]
  have hfits := h.head
  rw [hhead] at hfits
  rw [← hdrop, ← htext]
  cases hcs : sym.text with
  | nil => rfl
  | cons c rest =>
    have hc : c ≠ '<' := by
      rintro rfl
      exact hfits (by simp [hcs])
    rw [split]
    · intro rest' heq
      exact hc (List.cons.inj heq).1

/-! ## Symbols with a type in brackets -/

/-- An end of a type stands in one of two texts, or begins in the first one and ends in the other. -/
lemma not_typeEnd_append {u v : List Char} (hu : ¬ typeEnd <:+: u) (hv : ¬ typeEnd <:+: v)
    (hmeet : ¬ [':'] <+: v ∨ (¬ ['>'] <:+ u ∧ ¬ [':'] <:+ u)) : ¬ typeEnd <:+: u ++ v := by
  induction u with
  | nil => exact hv
  | cons c u ih =>
    rw [List.infix_cons_iff, not_or] at hu
    rw [List.cons_append, List.infix_cons_iff, not_or]
    constructor
    · intro hprefix
      match u with
      | [] =>
        obtain ⟨rfl, hv⟩ : c = '>' ∧ [':', ':'] <+: v := by simpa [typeEnd, eq_comm] using hprefix
        rcases hmeet with hfirst | ⟨hlast, -⟩
        · exact hfirst (List.IsPrefix.trans ⟨[':'], rfl⟩ hv)
        · exact hlast List.suffix_rfl
      | [d] =>
        obtain ⟨rfl, rfl, hv⟩ : c = '>' ∧ d = ':' ∧ [':'] <+: v := by
          simpa [typeEnd, eq_comm] using hprefix
        rcases hmeet with hfirst | ⟨-, hlast⟩
        · exact hfirst hv
        · exact hlast ⟨['>'], rfl⟩
      | d :: e :: u => exact hu.1 (by simpa [typeEnd] using hprefix)
    · refine ih hu.2 (hmeet.imp_right fun hends => ⟨fun hlast => hends.1 ?_, fun hlast => hends.2 ?_⟩)
      · exact hlast.trans (List.suffix_cons c u)
      · exact hlast.trans (List.suffix_cons c u)

/-- A text ends as its last part does. -/
lemma suffix_of_append {u v : List Char} {c : Char} (hv : v ≠ []) (h : [c] <:+ u ++ v) : [c] <:+ v :=
  List.suffix_of_suffix_length_le h (List.suffix_append u v) (List.length_pos_iff.mpr hv)

/-- What stands in front of the function, in a symbol with a type in brackets: the type with its trait,
and the items around the function. -/
def opening (head : List Char) (items : List (List Char)) : List Char :=
  head ++ typeEnd ++ lead items

/-- There are two colons in front of the function, not three. -/
lemma exists_opening (head : List Char) {items : List (List Char)}
    (h : ∀ item ∈ items, Segment item) :
    ∃ before, opening head items = before ++ [':', ':'] ∧ ¬ [':'] <:+ before := by
  rcases List.eq_nil_or_concat items with rfl | ⟨init, last, rfl⟩
  · refine ⟨head ++ ['>'], by simp [opening, lead, typeEnd], fun hcolon => ?_⟩
    have hsame := List.suffix_of_suffix_length_le hcolon (List.suffix_append head ['>']) (by simp)
    exact absurd hsame (by decide)
  · have hlast : Segment last := h last (by simp)
    rw [List.concat_eq_append, opening, lead, if_neg (by simp), join_concat]
    refine ⟨head ++ typeEnd ++ lead init ++ last, by simp, fun hcolon => hlast.getLast_ne ?_⟩
    exact suffix_of_append hlast.ne_nil hcolon

/-- Behind the last end of a type, in what stands in front of the function, a segment begins. -/
lemma leads_of_opening {head before after : List Char} {items : List (List Char)}
    (hitems : ∀ item ∈ items, Segment item)
    (h : splitLast? typeEnd (opening head items) = some (before, after)) : Leads after := by
  obtain ⟨above, habove, hcolon⟩ := exists_opening head hitems
  have hsplit : above ++ [':', ':'] = before ++ (typeEnd ++ after) :=
    habove ▸ eq_append_of_splitLast? h
  match after with
  | [] => exact .inl rfl
  | [c] =>
    -- the last colon would stand behind the end of the type
    have hsame : above ++ [':', ':'] = (before ++ ['>', ':']) ++ [':', c] := by
      simpa [typeEnd] using hsplit
    obtain ⟨rfl, -⟩ := List.append_inj' hsame rfl
    exact absurd ⟨before ++ ['>'], by simp⟩ hcolon
  | c :: d :: after =>
    have hends : [':', ':'] <:+ before ++ typeEnd ++ c :: d :: after := by
      rw [List.append_assoc, ← hsplit]
      exact List.suffix_append _ _
    exact .inr (List.suffix_of_suffix_length_le hends (List.suffix_append _ _) (by simp))

/-- There is no closing bracket in marks of closures. -/
lemma notMem_closures (k : Nat) : '>' ∉ Path.closures k := by
  intro h
  obtain ⟨cs, hcs, hmem⟩ := List.mem_flatten.mp h
  rw [(List.mem_replicate.mp hcs).2] at hmem
  exact absurd hmem (by decide +kernel)

/-- Without a closing bracket, no qualified type ends in a text. -/
lemma not_typeEnd_of_notMem (h : '>' ∉ cs) : ¬ typeEnd <:+: cs :=
  fun hend => h (hend.subset (by simp [typeEnd]))

/-- The last end of a type is the one behind which there is none. -/
lemma splitLast?_typeEnd (before : List Char) {after : List Char} (h : ¬ typeEnd <:+: after) :
    splitLast? typeEnd (before ++ typeEnd ++ after) = some (before, after) := by
  have hnone : splitLast? typeEnd (':' :: ':' :: after) = none := by
    rw [splitLast?_eq_none_iff, List.infix_cons_iff, List.infix_cons_iff]
    simpa [typeEnd] using h
  rw [List.append_assoc]
  exact splitLast?_append hnone

/-- **The function behind a type in brackets is found** if it is not cut and its brackets do not end the
type. -/
lemma function_of_qualified {head before after : List Char} {items : List (List Char)} {k : Nat}
    (hitems : ∀ item ∈ items, Segment item) (h : Segment fn) (hmarked : fn ≠ marker)
    (hcut : ¬ Cut fn) (hclosed : ¬ (0 < k ∧ ['>'] <:+ fn))
    (hsplit : splitLast? typeEnd (opening head items ++ (fn ++ Path.closures k)) =
      some (before, after)) : (splitLast (dropClosures after)).2 = fn := by
  -- the last end of a type stands in front of the function
  obtain ⟨⟨start, rest⟩, hopening⟩ : ∃ sides, splitLast? typeEnd (opening head items) = some sides := by
    rw [← Option.isSome_iff_exists, Option.isSome_iff_ne_none, Ne, splitLast?_eq_none_iff, not_not]
    exact ⟨head, lead items, by simp [opening]⟩
  have hrest := leads_of_opening hitems hopening
  have hnone : ¬ typeEnd <:+: rest ++ (fn ++ Path.closures k) := by
    have hfn : ¬ typeEnd <:+: fn := fun hend =>
      hcut (List.IsInfix.trans ⟨['>'], [], by simp [typeEnd]⟩ hend)
    have hboth := not_typeEnd_append (not_infix_of_splitLast? (by simp [typeEnd]) hopening) hfn
      (.inl h.head_ne)
    rw [← List.append_assoc]
    refine not_typeEnd_append hboth (not_typeEnd_of_notMem (notMem_closures k)) ?_
    rcases Nat.eq_zero_or_pos k with rfl | hk
    · exact .inl (by simp [Path.closures])
    · have hends : ∀ c, ¬ [c] <:+ fn → ¬ [c] <:+ rest ++ fn :=
        fun c hc hend => hc (suffix_of_append h.ne_nil hend)
      exact .inr ⟨hends '>' fun hend => hclosed ⟨hk, hend⟩, hends ':' h.getLast_ne⟩
  have hall : splitLast? typeEnd (opening head items ++ (fn ++ Path.closures k)) =
      some (start, rest ++ (fn ++ Path.closures k)) := by
    rw [eq_append_of_splitLast? hopening]
    simpa using splitLast?_typeEnd start hnone
  obtain ⟨-, rfl⟩ : start = before ∧ rest ++ (fn ++ Path.closures k) = after := by
    simpa [hall] using hsplit
  rw [dropClosures_of_leads h hmarked hrest, splitLast_of_leads h hcut hrest]

/-- A closure behind the brackets of a function is taken for the function. -/
lemma marker_of_qualified {head before after : List Char} {items : List (List Char)} {k : Nat}
    (hclosed : 0 < k ∧ ['>'] <:+ fn)
    (hsplit : splitLast? typeEnd (opening head items ++ (fn ++ Path.closures k)) =
      some (before, after)) : (splitLast (dropClosures after)).2 = marker := by
  obtain ⟨hk, init, rfl⟩ := hclosed
  obtain ⟨k, rfl⟩ := Nat.exists_eq_succ_of_ne_zero hk.ne'
  have hsuffix : closureSuffix = [':', ':'] ++ marker := by decide +kernel
  have hclosures : Path.closures (k + 1) = [':', ':'] ++ (marker ++ Path.closures k) := by
    rw [Path.closures, List.replicate_succ, List.flatten_cons, ← Path.closures, hsuffix,
      List.append_assoc]
  have hnone : ¬ typeEnd <:+: marker ++ Path.closures k := by
    refine not_typeEnd_of_notMem fun hmem => ?_
    rcases List.mem_append.mp hmem with hmem | hmem
    · exact absurd hmem (by decide +kernel)
    · exact notMem_closures k hmem
  have hall := splitLast?_typeEnd (opening head items ++ init) hnone
  have hsame : opening head items ++ (init ++ ['>'] ++ Path.closures (k + 1)) =
      opening head items ++ init ++ typeEnd ++ (marker ++ Path.closures k) := by
    simp [hclosures, typeEnd]
  rw [hsame, hall] at hsplit
  obtain rfl : marker ++ Path.closures k = after := congrArg Prod.snd (Option.some.inj hsplit)
  rw [dropClosures_append (by decide +kernel)]
  decide +kernel

/-- The type that is found in what stands in front of its end. -/
def typeOf (inner : List Char) : List Char := ((splitFirst? asWord inner).map Prod.fst).getD inner

/-- A symbol with a type in brackets is split at the last end of a type. -/
lemma split_of_qualified {trait : Option (List Char)} {items : List (List Char)}
    (hhead : sym.head = .qualified trait items) :
    ∃ inner after, splitLast? typeEnd (opening (join sym.owner ++ bound trait) items ++
        (sym.function ++ Path.closures sym.closures)) = some (inner, after) ∧
      split sym.text = (typeOf inner, (splitLast (dropClosures after)).2) := by
  set rest := opening (join sym.owner ++ bound trait) items ++
    (sym.function ++ Path.closures sym.closures) with hrest
  have htext : sym.text = '<' :: rest := by
    rw [text, hhead, tail, hrest, opening]
    simp only [List.append_assoc]
  obtain ⟨⟨inner, after⟩, hsplit⟩ : ∃ sides, splitLast? typeEnd rest = some sides := by
    rw [← Option.isSome_iff_exists, Option.isSome_iff_ne_none, Ne, splitLast?_eq_none_iff, not_not]
    exact ⟨join sym.owner ++ bound trait, lead items ++ sym.tail, by simp [hrest, opening, tail]⟩
  refine ⟨inner, after, hsplit, ?_⟩
  have hpattern : splitLast? ['>', ':', ':'] rest = some (inner, after) := hsplit
  rw [htext, split]
  simp only [hpattern]
  rfl

/-! ## The function -/

/-- The items of a well-formed qualified symbol are segments. -/
lemma items_of_qualified (h : sym.WellFormed) {trait : Option (List Char)} {items : List (List Char)}
    (hhead : sym.head = .qualified trait items) : ∀ item ∈ items, Segment item := by
  have hfits := h.head
  rw [hhead] at hfits
  cases trait with
  | none => exact hfits.2.1
  | some trait => exact hfits.2.1

/-- **When the function is found.** -/
lemma function_split_iff (h : sym.WellFormed) :
    (split sym.text).2 = sym.function ↔ sym.FindsFunction := by
  rw [FindsFunction]
  cases hhead : sym.head with
  | plain =>
    rw [split_of_plain h hhead, and_true]
    constructor
    · intro hfound
      exact hfound ▸ not_cut_splitLast _
    · exact fun hcut => splitLast_of_leads h.function hcut (leads_lead _)
  | qualified trait items =>
    obtain ⟨inner, after, hsplit, hboth⟩ := split_of_qualified hhead
    rw [hboth]
    constructor
    · intro hfound
      refine ⟨hfound ▸ not_cut_splitLast _, fun hclosed => h.marked ?_⟩
      exact hfound.symm.trans (marker_of_qualified hclosed hsplit)
    · rintro ⟨hcut, hclosed⟩
      exact function_of_qualified (items_of_qualified h hhead) h.function h.marked hcut hclosed hsplit

/-! ## The owner -/

/-- What stands in front of the last end of a type begins with the type. -/
lemma prefix_of_splitLast? {head rest inner after : List Char}
    (h : splitLast? typeEnd (head ++ typeEnd ++ rest) = some (inner, after)) : head <+: inner := by
  have hlength : head.length ≤ inner.length :=
    length_le_of_splitLast? h (List.prefix_append (head ++ typeEnd) rest)
  have hinner : inner <+: head ++ typeEnd ++ rest := by
    rw [eq_append_of_splitLast? h]
    exact List.prefix_append _ _
  have hhead : head <+: head ++ typeEnd ++ rest := by
    rw [List.append_assoc]
    exact List.prefix_append _ _
  exact List.prefix_of_prefix_length_le hhead hinner hlength

/-- **A type with a trait is found** if no ` as ` stands in its brackets: the first one that stands
outside of brackets is known to follow the type. -/
lemma typeOf_of_trait {type trait rest : List Char} (htype : Balanced type)
    (hfirst : ∀ front, Bare asWord front (type ++ asWord ++ trait) → type.length ≤ front.length) :
    typeOf (type ++ asWord ++ trait ++ rest) = type ↔ ¬ asWord <:+: type := by
  set inner := type ++ asWord ++ trait ++ rest with hinner
  have hafter : type ++ asWord <+: inner := ⟨trait ++ rest, by simp [hinner]⟩
  obtain ⟨⟨found, behind⟩, hsplit⟩ : ∃ sides, splitFirst? asWord inner = some sides := by
    rw [← Option.isSome_iff_exists, Option.isSome_iff_ne_none, Ne, splitFirst?_eq_none_iff, not_not]
    exact ⟨type, trait ++ rest, by simp [hinner]⟩
  have htypeOf : typeOf inner = found := by rw [typeOf, hsplit, Option.map_some, Option.getD_some]
  have hfound : found ++ asWord <+: inner := by
    rw [eq_append_of_splitFirst? hsplit, ← List.append_assoc]
    exact List.prefix_append _ _
  have hle := length_le_of_splitFirst? hsplit hafter
  rw [htypeOf]
  constructor
  · rintro rfl ⟨front, back, hinfix⟩
    have hfront : front ++ asWord <+: inner := by
      refine List.IsPrefix.trans ⟨back, hinfix⟩ ((List.prefix_append found asWord).trans hafter)
    have hshort := length_le_of_splitFirst? hsplit hfront
    have hlength := congrArg List.length hinfix
    simp only [List.length_append, asWord, List.length_cons] at hlength
    omega
  · intro hinside
    obtain ⟨more, rfl⟩ : found <+: type := List.prefix_of_prefix_length_le
      ((List.prefix_append _ _).trans hfound) ((List.prefix_append _ _).trans hafter) hle
    have hword : asWord <+: more ++ (asWord ++ trait ++ rest) := by
      simpa [hinner] using hfound
    have hmore : more <+: asWord := by
      have hmore := List.prefix_append more (asWord ++ trait ++ rest)
      rcases Nat.le_total more.length asWord.length with hshort | hlong
      · exact List.prefix_of_prefix_length_le hmore hword hshort
      · -- the whole word stands in the type
        have hin : asWord <+: more := List.prefix_of_prefix_length_le hword hmore hlong
        exact absurd (hin.isInfix.trans (List.suffix_append found more).isInfix) hinside
    -- the word begins inside of the type and outside of its brackets
    have hbalanced : Balanced found := by
      refine (balanced_append_of_notMem (fun h => ?_) fun h => ?_).mp htype
      · exact absurd (hmore.subset h) (by decide)
      · exact absurd (hmore.subset h) (by decide)
    have hbare : Bare asWord found (found ++ more ++ asWord ++ trait) := by
      refine ⟨List.prefix_of_prefix_length_le hfound (List.prefix_append _ rest) ?_, hbalanced⟩
      simp only [List.length_append]
      omega
    have hlength := hfirst found hbare
    rw [List.length_append] at hlength
    rw [List.length_eq_zero_iff.mp (by omega : more.length = 0), List.append_nil]

/-- A type without a trait is found if no ` as ` stands in it and nothing behind it looks like its end. -/
lemma typeOf_of_splitLast? {type rest inner after : List Char}
    (h : splitLast? typeEnd (type ++ typeEnd ++ rest) = some (inner, after)) :
    typeOf inner = type ↔ ¬ asWord <:+: type ∧ ¬ typeEnd <:+: rest := by
  have hsides := eq_append_of_splitLast? h
  constructor
  · intro htype
    cases hsplit : splitFirst? asWord inner with
    | some sides =>
      -- the word would stand where the type ends
      obtain ⟨found, behind⟩ := sides
      obtain rfl : found = type := by simpa [typeOf, hsplit] using htype
      rw [eq_append_of_splitFirst? hsplit] at hsides
      simp [asWord, typeEnd] at hsides
    | none =>
      obtain rfl : inner = type := by simpa [typeOf, hsplit] using htype
      rw [List.append_assoc, List.append_cancel_left_eq, List.append_cancel_left_eq] at hsides
      exact ⟨splitFirst?_eq_none_iff.mp hsplit,
        hsides ▸ not_infix_of_splitLast? (by simp [typeEnd]) h⟩
  · rintro ⟨hinside, hrest⟩
    obtain rfl : type = inner :=
      congrArg Prod.fst (Option.some.inj ((splitLast?_typeEnd _ hrest).symm.trans h))
    rw [typeOf, splitFirst?_eq_none_iff.mpr hinside]
    rfl

/-- **When the owner is found.** -/
lemma owner_split_iff (h : sym.WellFormed) :
    (split sym.text).1 = join sym.owner ↔ sym.FindsOwner := by
  rw [FindsOwner]
  cases hhead : sym.head with
  | plain =>
    rw [split_of_plain h hhead]
    rcases splitLast_lead_cases h.owner h.function with ⟨hwhole, hboth⟩ | ⟨hcut, howner, -⟩
    · exact iff_of_true (congrArg Prod.fst hboth) hwhole
    · exact iff_of_false (fun hfound => howner (hfound ▸ balanced_join h.owner)) (not_not_intro hcut)
  | qualified trait items =>
    obtain ⟨inner, after, hsplit, hboth⟩ := split_of_qualified hhead
    rw [opening, List.append_assoc (join sym.owner ++ bound trait ++ typeEnd)] at hsplit
    have hfits := h.head
    rw [hhead] at hfits
    rw [hboth]
    cases trait with
    | none =>
      rw [bound, List.append_nil] at hsplit
      exact typeOf_of_splitLast? hsplit
    | some trait =>
      obtain ⟨rest, hinner⟩ := prefix_of_splitLast? hsplit
      rw [bound, ← List.append_assoc] at hinner
      rw [← hinner]
      exact typeOf_of_trait (balanced_join h.owner) hfits.2.2.2

end Symbol

end Path

/-! ## Frames -/

namespace Frame

open NamespaceLogging.Path NamespaceLogging.Path.Symbol

variable {f : Frame}

/-- Texts are the same just if their characters are. -/
lemma ofList_inj {u v : List Char} : String.ofList u = String.ofList v ↔ u = v :=
  ⟨fun h => by simpa using congrArg String.toList h, fun h => h ▸ rfl⟩

/-- Package and class, if there is a package, are the namespace. -/
lemma package_className (f : Frame) (h : f.package ≠ "") :
    f.package ++ "::" ++ f.className = f.namespaceName := by
  rw [package, splitLast] at h
  rw [package, className, splitLast, namespaceName]
  cases hsplit : splitLast? [':', ':'] (split f.symbol.toList).1 with
  | none => simp [hsplit] at h
  | some sides =>
    have hsides := eq_append_of_splitLast? hsplit
    rw [hsides, String.ofList_append, String.ofList_append, ← String.append_assoc]
    rfl

/-- Class and package of a namespace. -/
lemma parts_of_namespace {init : List (List Char)} {last : List Char}
    (hinit : ∀ seg ∈ init, Segment seg) (hlast : Segment last)
    (hf : f.namespaceName = String.ofList (join (init ++ [last]))) :
    (f.className = String.ofList last ↔ ¬ Cut last) ∧
      (f.package = String.ofList (join init) ↔ ¬ Cut last) ∧
      (Cut last → ¬ Balanced f.className.toList ∧ ¬ Balanced f.package.toList) := by
  rw [namespaceName, ofList_inj, join_concat] at hf
  rw [className, package, hf, ofList_inj, ofList_inj, String.toList_ofList, String.toList_ofList]
  rcases splitLast_lead_cases hinit hlast with ⟨hwhole, hboth⟩ | ⟨hcut, hpackage, hclass⟩
  · rw [hboth]
    exact ⟨iff_of_true rfl hwhole, iff_of_true rfl hwhole, fun hcut => absurd hcut hwhole⟩
  · have hnot : ¬ ¬ Cut last := not_not_intro hcut
    exact ⟨iff_of_false (fun hfound => hclass (by rw [hfound]; exact hlast.balanced)) hnot,
      iff_of_false (fun hfound => hpackage (by rw [hfound]; exact balanced_join hinit)) hnot,
      fun _ => ⟨hclass, hpackage⟩⟩

/-- **Which parts of a symbol are found.**  The function is found if and only if no separator stands in
its brackets, and, behind a type in brackets, no marker of a closure follows its brackets.  The namespace
is found if and only if no separator stands in the brackets of the function, or, for a type in brackets,
no ` as ` stands in its brackets, and nothing behind a type without a trait looks like its end.  Then its
class and its package are found if and only if no separator stands in the brackets of the class.  What is
found in the other cases has brackets that do not match.

**Proof sketch.** The last separator of a path stands in front of the last segment, if that has none.  If
it has one, that stands inside of a bracket, which is opened in front of it and closed behind it. -/
theorem parts_of_symbol (f : Frame) (sym : Symbol) (hsym : sym.WellFormed)
    (hf : f.symbol = String.ofList sym.text) :
    (f.function = String.ofList sym.function ↔ sym.FindsFunction) ∧
    (f.namespaceName = String.ofList (join sym.owner) ↔ sym.FindsOwner) ∧
    (sym.head = .plain → Cut sym.function →
      ¬ Balanced f.function.toList ∧ ¬ Balanced f.namespaceName.toList) ∧
    (f.namespaceName = String.ofList (join sym.owner) →
      (sym.owner = [] → f.className = "" ∧ f.package = "") ∧
      ∀ init last, sym.owner = init ++ [last] →
        (f.className = String.ofList last ↔ ¬ Cut last) ∧
        (f.package = String.ofList (join init) ↔ ¬ Cut last) ∧
        (Cut last → ¬ Balanced f.className.toList ∧ ¬ Balanced f.package.toList)) ∧
    (f.package ≠ "" → f.package ++ "::" ++ f.className = f.namespaceName) := by
  have hsplit : split f.symbol.toList = split sym.text := by rw [hf, String.toList_ofList]
  refine ⟨?_, ?_, fun hhead hcut => ?_, fun hfound => ⟨fun hnil => ?_, fun init last howner => ?_⟩,
    package_className f⟩
  · rw [function, ofList_inj, hsplit, function_split_iff hsym]
  · rw [namespaceName, ofList_inj, hsplit, owner_split_iff hsym]
  · rw [function, namespaceName, hsplit, split_of_plain hsym hhead, String.toList_ofList,
      String.toList_ofList]
    rcases splitLast_lead_cases hsym.owner hsym.function with ⟨hwhole, -⟩ | ⟨-, hparts⟩
    · exact absurd hcut hwhole
    · exact hparts.symm
  · rw [namespaceName, ofList_inj, hnil] at hfound
    rw [className, package, hfound]
    exact ⟨rfl, rfl⟩
  · rw [howner] at hfound
    refine parts_of_namespace (fun seg hseg => hsym.owner seg ?_) (hsym.owner last ?_) hfound
    · simp [howner, hseg]
    · simp [howner]

/-- A function with a path in its brackets. -/
def dropInPlace : Symbol where
  owner := ["core".toList, "ptr".toList]
  head := .plain
  function := "drop_in_place<alloc::string::String>".toList
  closures := 0

/-- A function of a trait, of a type with a path in its brackets. -/
def getOfPool : Symbol where
  owner := ["app".toList, "Pool<a::B>".toList]
  head := .qualified (some "app::Tr<c::D>".toList) []
  function := "get".toList
  closures := 0

/-- Neither the first function is found nor the class of the second one. -/
theorem parts_of_symbol_of_generic :
    let f := Frame.make "core::ptr::drop_in_place<alloc::string::String>" none none
    let g := Frame.make "<app::Pool<a::B> as app::Tr<c::D>>::get" none none
    (dropInPlace.WellFormed ∧ f.symbol = String.ofList dropInPlace.text ∧
      f.function ≠ "drop_in_place<alloc::string::String>" ∧ f.namespaceName ≠ "core::ptr" ∧
      ¬ Balanced f.function.toList) ∧
    getOfPool.WellFormed ∧ g.symbol = String.ofList getOfPool.text ∧
      g.function = "get" ∧ g.namespaceName = "app::Pool<a::B>" ∧
      g.className ≠ "Pool<a::B>" ∧ g.package ≠ "app" := by
  intro f g
  constructor
  · have hsym : dropInPlace.WellFormed := by decide +kernel
    have htext : f.symbol = String.ofList dropInPlace.text := by decide +kernel
    have hcut : Cut dropInPlace.function := by decide +kernel
    have hfn : "drop_in_place<alloc::string::String>" = String.ofList dropInPlace.function := by
      decide +kernel
    have hname : "core::ptr" = String.ofList (join dropInPlace.owner) := by decide +kernel
    obtain ⟨hfunction, howner, hunbalanced, -⟩ := parts_of_symbol f dropInPlace hsym htext
    refine ⟨hsym, htext, ?_, ?_, (hunbalanced rfl hcut).1⟩
    · exact fun hfound => (hfunction.mp (hfound.trans hfn)).1 hcut
    · exact fun hfound => howner.mp (hfound.trans hname) hcut
  · have hsym : getOfPool.WellFormed := by decide +kernel
    have htext : g.symbol = String.ofList getOfPool.text := by decide +kernel
    have hfn : String.ofList getOfPool.function = "get" := by decide +kernel
    have hname : String.ofList (join getOfPool.owner) = "app::Pool<a::B>" := by decide +kernel
    have hclass : "Pool<a::B>" = String.ofList "Pool<a::B>".toList := by decide +kernel
    have hpackage : "app" = String.ofList (join ["app".toList]) := by decide +kernel
    have hcut : Cut "Pool<a::B>".toList := by decide +kernel
    obtain ⟨hfunction, howner, -, hparts, -⟩ := parts_of_symbol g getOfPool hsym htext
    have hfinds : getOfPool.FindsFunction :=
      ⟨(by decide +kernel : ¬ Cut getOfPool.function), fun h => absurd h.1 (Nat.lt_irrefl 0)⟩
    have hfound := howner.mpr (by decide +kernel : ¬ asWord <:+: join getOfPool.owner)
    obtain ⟨hclassOf, hpackageOf, -⟩ := (hparts hfound).2 ["app".toList] "Pool<a::B>".toList rfl
    refine ⟨hsym, htext, (hfunction.mpr hfinds).trans hfn, hfound.trans hname, ?_, ?_⟩
    · exact fun hfound => hclassOf.mp (hfound.trans hclass) hcut
    · exact fun hfound => hpackageOf.mp (hfound.trans hpackage) hcut

end Frame

end NamespaceLogging
