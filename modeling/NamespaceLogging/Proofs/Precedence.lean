import NamespaceLogging.Proofs.Namespaces
import NamespaceLogging.Proofs.RouteCache

/-!
# The closest registration wins

Whatever was registered, unregistered, cleared and resolved before: a namespace is routed to the slot
that stands for the longest namespace among itself and its ancestors, and to the default handlers if
none of them is registered.  Which registrations stand is read from the calls alone, and so is which
namespace a call is about.

## Main definitions

* `Registry.Op.WellNamed`: a call whose text spells a well-formed namespace.
* `Registry.Op.Touches`: a call that replaces or takes back what is registered for a namespace.
* `Registry.Stands`: a registration that was neither replaced nor taken back.

## Main results

* `Registry.lookup_inForce`: the registrations in force are those that stand.
* `Registry.resolve_closest`: the closest registration wins.
-/

set_option autoImplicit false

namespace NamespaceLogging

open Namespace

namespace Registry

/-- The text with which a call registers or unregisters. -/
def Op.name? : Op → Option String
  | .register text _ | .unregister text => some text
  | .clear | .resolve _ => none

/-- If the call registers or unregisters, it does so for a well-formed namespace. -/
def Op.WellNamed (op : Op) : Prop :=
  ∀ text, op.name? = some text → ∃ ns, WellFormed ns ∧ Spells text.toList ns

/-- The call puts something in the place of what is registered for the namespace, or takes it back. -/
def Op.Touches (ns : List Char) : Op → Prop
  | .register text _ | .unregister text => Spells text.toList ns
  | .clear => True
  | .resolve _ => False

/-- Among the calls, the namespace was registered in the slot, and no later call touches it. -/
def Stands (ops : List Op) (ns : List Char) (id : SlotId) : Prop :=
  ∃ before text after, ops = before ++ .register text id :: after ∧ Spells text.toList ns ∧
    ∀ op ∈ after, ¬ op.Touches ns

variable {ops : List Op} {op : Op} {k ns : List Char} {id : SlotId} {text : String}
  {entries : List (List Char × SlotId)}

/-! ## Registrations that stand -/

/-- Without any call, no namespace stands. -/
lemma not_stands_nil : ¬ Stands [] ns id := by
  rintro ⟨before, text, after, heq, -⟩
  simp at heq

/-- A registration stands if it was made just now, or stood and is not touched. -/
lemma stands_concat : Stands (ops ++ [op]) ns id ↔
    (∃ text, op = .register text id ∧ Spells text.toList ns) ∨ Stands ops ns id ∧ ¬ op.Touches ns := by
  constructor
  · rintro ⟨before, text, after, heq, hspells, hafter⟩
    rcases List.eq_nil_or_concat after with rfl | ⟨after, last, rfl⟩
    · obtain ⟨-, hop⟩ := List.append_inj' heq rfl
      exact .inl ⟨text, by simpa using hop, hspells⟩
    · rw [List.concat_eq_append, ← List.cons_append, ← List.append_assoc] at heq
      obtain ⟨rfl, hop⟩ := List.append_inj' heq rfl
      obtain rfl : op = last := by simpa using hop
      exact .inr ⟨⟨before, text, after, rfl, hspells, fun op hmem => hafter op (by simp [hmem])⟩,
        hafter op (by simp)⟩
  · rintro (⟨text, rfl, hspells⟩ | ⟨⟨before, text, after, rfl, hspells, hafter⟩, htouches⟩)
    · exact ⟨ops, text, [], rfl, hspells, by simp⟩
    · refine ⟨before, text, after ++ [op], by simp, hspells, fun op' hmem => ?_⟩
      rcases List.mem_append.mp hmem with hmem | hmem
      · exact hafter op' hmem
      · rwa [List.mem_singleton.mp hmem]

/-! ## Registrations in force -/

/-- Taking one name out leaves what is found under all others. -/
lemma lookup_filter_ne (key : List Char) :
    (entries.filter fun entry => entry.1 != key).lookup k =
      if k = key then none else entries.lookup k := by
  induction entries with
  | nil => simp
  | cons entry entries ih =>
    obtain ⟨k', id⟩ := entry
    by_cases hkey : k' = key
    · subst hkey
      rw [List.filter_cons_of_neg (by simp), ih]
      by_cases hk : k = k'
      · simp [hk]
      · simp [hk, List.lookup_cons, beq_eq_false_iff_ne.mpr hk]
    · rw [List.filter_cons_of_pos (by simpa using hkey), List.lookup_cons, List.lookup_cons, ih]
      by_cases hk : k = k'
      · subst hk
        simp [hkey]
      · simp [beq_eq_false_iff_ne.mpr hk]

/-- A registration is found under its own name, and changes nothing under all others. -/
lemma lookup_insert (key : List Char) :
    (insert key id entries).lookup k = if k = key then some id else entries.lookup k := by
  rw [insert, List.lookup_append, lookup_filter_ne]
  by_cases hk : k = key
  · simp [hk]
  · simp [hk, List.lookup_cons, beq_eq_false_iff_ne.mpr hk]

/-- What is registered for a well-formed namespace, after a text that spells another one was used, or
the same. -/
lemma normalize_eq_iff (hk : WellFormed k) (hns : WellFormed ns) (hspells : Spells text.toList ns) :
    Spells text.toList k ↔ k = normalize text.toList := by
  rw [normalize_of_spells hns hspells]
  constructor
  · exact fun h => h.unique hk hns hspells
  · rintro rfl
    exact hspells

/-- A text that spells a well-formed namespace is accepted. -/
lemma accepts_of_spells (hns : WellFormed ns) (hspells : Spells text.toList ns) :
    accepts text = true := by
  simp [accepts, normalize_of_spells hns hspells, hns.ne_nil]

/-- **The registrations in force are those that stand.**

**Proof sketch.** Induction on the calls, the last one first.  A call that touches a namespace decides
what is registered for it, and every other call leaves that as it is. -/
lemma lookup_inForce (hops : ∀ op ∈ ops, op.WellNamed) (hk : WellFormed k) :
    (inForce ops).lookup k = some id ↔ Stands ops k id := by
  induction ops using List.reverseRecOn generalizing id with
  | nil => simpa [inForce] using not_stands_nil
  | append_singleton ops op ih =>
    have ih := @ih id fun op hmem => hops op (List.mem_append_left _ hmem)
    have hop := hops op (by simp)
    rw [inForce_concat, stands_concat]
    cases op with
    | register text id' =>
      obtain ⟨ns, hns, hspells⟩ := hop text rfl
      have hiff := normalize_eq_iff hk hns hspells
      simp only [Op.onEntries, accepts_of_spells hns hspells, if_true, lookup_insert, Op.Touches,
        hiff, Op.register.injEq]
      by_cases heq : k = normalize text.toList
      · have hk' := hiff.mpr heq
        simp only [heq, if_true, not_true, and_false, or_false, Option.some.injEq]
        refine ⟨fun hid => ⟨text, ⟨rfl, hid⟩, heq ▸ hk'⟩, ?_⟩
        rintro ⟨_, ⟨-, hid⟩, -⟩
        exact hid
      · have hk' : ∀ text', text = text' ∧ id' = id → ¬ Spells text'.toList k := by
          rintro _ ⟨rfl, -⟩ h
          exact heq (hiff.mp h)
        simp only [heq, if_false, not_false_eq_true, and_true, ih]
        refine ⟨.inr, fun h => h.resolve_left ?_⟩
        rintro ⟨text', hsame, hspells'⟩
        exact hk' text' hsame hspells'
    | unregister text =>
      obtain ⟨ns, hns, hspells⟩ := hop text rfl
      have hiff := normalize_eq_iff hk hns hspells
      simp only [Op.onEntries, lookup_filter_ne, Op.Touches, hiff]
      by_cases heq : k = normalize text.toList
      · simp [heq]
      · simp [heq, ih]
    | clear => simp [Op.onEntries, Op.Touches]
    | resolve text => simp [Op.onEntries, Op.Touches, ih]

/-! ## The closest registration -/

/-- After calls with well-formed names, the walk is closest among the registrations that stand. -/
lemma closest_after (ops : List Op) {n : String} (hn : WellFormed n.toList) :
    Closest (inForce ops) n.toList ((after ops).resolve n).1 := by
  rw [(coherent_after ops).route, Registry.lookup, entries_after, normalize_of_wellFormed hn]
  exact walk_closest hn

/-- The closest route is one of a kind. -/
lemma Closest.unique {route route' : Route} (h : Closest entries ns route)
    (h' : Closest entries ns route') : route = route' := by
  cases route with
  | slot id =>
    obtain ⟨k, hk, hlookup, hlongest⟩ := h
    cases route' with
    | slot id' =>
      obtain ⟨k', hk', hlookup', hlongest'⟩ := h'
      have hlength := Nat.le_antisymm (hlongest' k hk (by simp [hlookup]))
        (hlongest k' hk' (by simp [hlookup']))
      obtain rfl := hk.eq_of_length hk' hlength
      rw [hlookup] at hlookup'
      rw [Option.some.inj hlookup']
    | defaults => simp [h' k hk] at hlookup
  | defaults =>
    cases route' with
    | slot id' =>
      obtain ⟨k', hk', hlookup', -⟩ := h'
      simp [h k' hk'] at hlookup'
    | defaults => rfl

/-- Only what is registered for the namespaces that cover it matters to a route. -/
lemma Closest.congr {entries' : List (List Char × SlotId)} {route : Route}
    (heq : ∀ k, Covers k ns → entries'.lookup k = entries.lookup k)
    (h : Closest entries ns route) : Closest entries' ns route := by
  cases route with
  | slot id =>
    obtain ⟨k, hk, hlookup, hlongest⟩ := h
    exact ⟨k, hk, (heq k hk).trans hlookup, fun k' hk' hne => hlongest k' hk' (heq k' hk' ▸ hne)⟩
  | defaults => exact fun k hk => (heq k hk).trans (h k hk)

/-- Where the closest registration is, by the calls. -/
lemma Closest.stands_iff (hops : ∀ op ∈ ops, op.WellNamed) (hns : WellFormed ns) :
    Closest (inForce ops) ns (.slot id) ↔ ∃ k, Covers k ns ∧ Stands ops k id ∧
      ∀ k' id', Covers k' ns → Stands ops k' id' → k'.length ≤ k.length := by
  refine exists_congr fun k => and_congr_right fun hk => ?_
  rw [lookup_inForce hops (hns.of_covers hk)]
  refine and_congr_right fun _ => forall_congr' fun k' => ?_
  constructor
  · intro h id' hk' hstands
    exact h hk' (by simp [(lookup_inForce hops (hns.of_covers hk')).mpr hstands])
  · intro h hk' hne
    obtain ⟨id', hid'⟩ := Option.ne_none_iff_exists'.mp hne
    exact h id' hk' ((lookup_inForce hops (hns.of_covers hk')).mp hid')

/-- Nothing is closest where nothing stands. -/
lemma Closest.none_iff (hops : ∀ op ∈ ops, op.WellNamed) (hns : WellFormed ns) :
    Closest (inForce ops) ns .defaults ↔ ∀ k id, Covers k ns → ¬ Stands ops k id := by
  refine forall_congr' fun k => ?_
  constructor
  · intro h id hk hstands
    simp [(lookup_inForce hops (hns.of_covers hk)).mpr hstands] at h
    exact h hk
  · intro h hk
    refine Option.eq_none_iff_forall_ne_some.mpr fun id hid => h id hk ?_
    exact (lookup_inForce hops (hns.of_covers hk)).mp hid

/-- A call about a namespace leaves what is registered for others. -/
lemma lookup_inForce_concat (hname : op.name? = some text) (hne : k ≠ normalize text.toList) :
    (inForce (ops ++ [op])).lookup k = (inForce ops).lookup k := by
  rw [inForce_concat]
  cases op with
  | register text' id =>
    obtain rfl : text' = text := Option.some.inj hname
    by_cases haccepts : accepts text' = true
    · simp [Op.onEntries, haccepts, lookup_insert, hne]
    · simp [Op.onEntries, haccepts]
  | unregister text' =>
    obtain rfl : text' = text := Option.some.inj hname
    simp [Op.onEntries, lookup_filter_ne, hne]
  | clear => simp [Op.name?] at hname
  | resolve _ => simp [Op.name?] at hname

/-- **The closest registration wins.**  After any calls with well-formed names, a well-formed
namespace is routed to the slot that stands for the longest namespace among itself and its ancestors,
and to the default handlers if none of them stands.  Registering or unregistering a namespace does not
matter to the routes of those that it does not cover.

**Proof sketch.** What is in force is what stands, by induction on the calls; the walk from the
namespace passes exactly the namespaces that cover it, the longest one first. -/
theorem resolve_closest (ops : List Op) (hops : ∀ op ∈ ops, op.WellNamed) (n : String)
    (hn : WellFormed n.toList) :
    (∀ id, ((after ops).resolve n).1 = .slot id ↔
      ∃ k, Covers k n.toList ∧ Stands ops k id ∧
        ∀ k' id', Covers k' n.toList → Stands ops k' id' → k'.length ≤ k.length) ∧
      (((after ops).resolve n).1 = .defaults ↔ ∀ k id, Covers k n.toList → ¬ Stands ops k id) ∧
      ∀ op text k, op.name? = some text → WellFormed k → Spells text.toList k →
        ¬ Covers k n.toList →
        ((after (ops ++ [op])).resolve n).1 = ((after ops).resolve n).1 := by
  have hclosest := closest_after ops hn
  have hiff : ∀ route, ((after ops).resolve n).1 = route ↔ Closest (inForce ops) n.toList route :=
    fun route => ⟨fun h => h ▸ hclosest, hclosest.unique⟩
  refine ⟨fun id => ?_, ?_, fun op text k hname hk hspells hcovers => ?_⟩
  · rw [hiff, Closest.stands_iff hops hn]
  · rw [hiff, Closest.none_iff hops hn]
  · refine ((hclosest.congr fun k' hk' => ?_).unique (closest_after _ hn)).symm
    refine lookup_inForce_concat hname fun heq => hcovers ?_
    rwa [normalize_of_spells hk hspells, ← heq] at *

/-- Some calls with well-formed names. -/
def someOps : List Op :=
  [.register " a::b:: " 1, .register "a::b::c" 2, .register "a::x" 3, .unregister "a::x"]

/-- A namespace of two segments is well-formed. -/
lemma wellFormed_pair : WellFormed "a::b".toList :=
  .under (.single (by decide : Segment ['a'])) (by decide : Segment ['b'])

/-- All of these calls name well-formed namespaces. -/
lemma wellNamed_someOps : ∀ op ∈ someOps, op.WellNamed := by
  have hc : WellFormed "a::b::c".toList := .under wellFormed_pair (by decide : Segment ['c'])
  have hx : WellFormed "a::x".toList :=
    .under (.single (by decide : Segment ['a'])) (by decide : Segment ['x'])
  intro op hmem text hname
  simp only [someOps, List.mem_cons, List.not_mem_nil, or_false] at hmem
  rcases hmem with rfl | rfl | rfl | rfl <;> obtain rfl := Option.some.inj hname
  · have hblank : ∀ c ∈ [' '], Text.isBlank c = true := List.forall_mem_singleton.mpr (by decide)
    exact ⟨_, wellFormed_pair, [' '], [' '], 1, hblank, hblank, by decide⟩
  · exact ⟨_, hc, .refl _⟩
  · exact ⟨_, hx, .refl _⟩
  · exact ⟨_, hx, .refl _⟩

/-- Of two registrations that cover a namespace the longer one is found, whatever stands around the
name of the other, and a namespace that only begins with the same letters is not covered. -/
theorem resolve_closest_of_two :
    (∀ op ∈ someOps, op.WellNamed) ∧ WellFormed "a::b::d".toList ∧ WellFormed "a::bc".toList ∧
      (∃ k, Covers k "a::b::d".toList ∧ Stands someOps k 1 ∧
        ∀ k' id', Covers k' "a::b::d".toList → Stands someOps k' id' → k'.length ≤ k.length) ∧
      (∀ k id, Covers k "a::bc".toList → ¬ Stands someOps k id) ∧
      ((after (someOps ++ [.unregister "a::b"])).resolve "a::bc").1 =
        ((after someOps).resolve "a::bc").1 := by
  have hd : WellFormed "a::b::d".toList := .under wellFormed_pair (by decide : Segment ['d'])
  have hbc : WellFormed "a::bc".toList :=
    .under (.single (by decide : Segment ['a'])) (by decide : Segment ['b', 'c'])
  have hbelow := resolve_closest someOps wellNamed_someOps "a::b::d" hd
  have hbeside := resolve_closest someOps wellNamed_someOps "a::bc" hbc
  refine ⟨wellNamed_someOps, hd, hbc, ?_, ?_, ?_⟩
  · exact (hbelow.1 1).mp (by decide +kernel)
  · exact hbeside.2.1.mp (by decide +kernel)
  · exact hbeside.2.2 _ "a::b" _ rfl wellFormed_pair (.refl _) (by decide)

end Registry

end NamespaceLogging
