import NamespaceLogging.Proofs.Normalizing
import NamespaceLogging.Proofs.Precedence

/-!
# Names that are listed

A registry lists its registrations by name.  A name that is listed can be given back to the registry,
and is normalized then like any other text.  That leads to the registration which is listed, unless
the name is frayed: normalizing a text takes white space away before separators, but not the white space
that stood in front of them, so that a second time leaves less.

## Main definitions

* `Registry.Distinct`: each registration comes with a slot of its own.
* `Registry.Tidy`: no name and no slot stands twice.
* `Registry.Replaces`, `Registry.Removes`: what a listed name is good for.

## Main results

* `Registry.tidy_inForce`: the registrations in force are tidy.
* `Registry.registrations_eq`: a list in the order of the names that has the entries in it is what
  is listed.
* `Registry.names_lead_back`: the names that lead back to their registrations are those that are not
  frayed.
-/

set_option autoImplicit false

namespace NamespaceLogging

open Namespace
open scoped List

namespace Registry

/-- The slot with which a call registers. -/
def Op.slot? : Op → Option SlotId
  | .register _ id => some id
  | .unregister _ | .clear | .resolve _ => none

/-- Each registration comes with a slot of its own. -/
def Distinct (ops : List Op) : Prop := (ops.filterMap Op.slot?).Nodup

/-- No name and no slot stands twice. -/
structure Tidy (entries : List (List Char × SlotId)) : Prop where
  keys : (entries.map Prod.fst).Nodup
  slots : (entries.map Prod.snd).Nodup

/-- What is listed, with another slot in the place of that of the entry. -/
def replaced (entry : String × SlotId) (id : SlotId) (listing : List (String × SlotId)) :
    List (String × SlotId) :=
  listing.map fun other => if other = entry then (entry.1, id) else other

/-- Whatever is registered with the name stands in the place of the entry, and the others stay. -/
def Replaces (r : Registry) (entry : String × SlotId) : Prop :=
  ∀ id, ∃ r', r.register entry.1 id = .ok r' ∧
    r'.registrations = replaced entry id r.registrations

/-- Unregistering the name takes back the slot of the entry, and the others stay. -/
def Removes (r : Registry) (entry : String × SlotId) : Prop :=
  (r.unregister entry.1).1 = some entry.2 ∧
    (r.unregister entry.1).2.registrations = r.registrations.erase entry

variable {r : Registry} {ops : List Op} {op : Op} {entries : List (List Char × SlotId)}
  {entry : List Char × SlotId} {k : List Char} {id : SlotId} {name : String}

/-! ## Tidy registrations -/

/-- Registrations of which some are taken out stay tidy. -/
lemma Tidy.sublist {entries' : List (List Char × SlotId)} (h : Tidy entries)
    (hsub : entries'.Sublist entries) : Tidy entries' :=
  ⟨h.keys.sublist (hsub.map _), h.slots.sublist (hsub.map _)⟩

/-- An entry that is put in has its name for itself. -/
lemma nodup_keys_insert (h : (entries.map Prod.fst).Nodup) :
    ((insert k id entries).map Prod.fst).Nodup := by
  rw [insert, List.map_append, List.nodup_append]
  refine ⟨h.sublist (List.filter_sublist.map _), by simp, fun k' hk' other hother => ?_⟩
  obtain ⟨entry, hmem, rfl⟩ := List.mem_map.mp hk'
  obtain rfl : other = k := by simpa using hother
  simpa using (List.mem_filter.mp hmem).2

/-- An entry with a new slot has that for itself, too. -/
lemma Tidy.insert (h : Tidy entries) (hnew : ∀ entry ∈ entries, entry.2 ≠ id) :
    Tidy (insert k id entries) where
  keys := nodup_keys_insert h.keys
  slots := by
    rw [Registry.insert, List.map_append, List.nodup_append]
    refine ⟨h.slots.sublist (List.filter_sublist.map _), by simp, fun id' hid' other hother => ?_⟩
    obtain ⟨entry, hmem, rfl⟩ := List.mem_map.mp hid'
    obtain rfl : other = id := by simpa using hother
    exact hnew entry (List.mem_filter.mp hmem).1

/-- A call with a slot of its own leaves tidy registrations tidy. -/
lemma Tidy.onEntries (h : Tidy entries)
    (hnew : ∀ id, op.slot? = some id → ∀ entry ∈ entries, entry.2 ≠ id) :
    Tidy (op.onEntries entries) := by
  cases op with
  | register text id =>
    rw [Op.onEntries]
    split
    · exact h.insert (hnew id rfl)
    · exact h
  | unregister text => exact h.sublist List.filter_sublist
  | clear => exact ⟨List.nodup_nil, List.nodup_nil⟩
  | resolve text => exact h

/-- A call adds no entry but the one that it registers. -/
lemma mem_onEntries (hmem : entry ∈ op.onEntries entries) :
    entry ∈ entries ∨ ∃ text, op = .register text entry.2 ∧
      entry.1 = Namespace.normalize text.toList ∧ entry.1 ≠ [] := by
  cases op with
  | register text id =>
    rw [Op.onEntries] at hmem
    split at hmem
    · rename_i haccepts
      rcases List.mem_append.mp hmem with hmem | hmem
      · exact .inl (List.mem_filter.mp hmem).1
      · rw [List.mem_singleton.mp hmem]
        exact .inr ⟨text, rfl, rfl, by simpa [accepts] using haccepts⟩
    · exact .inl hmem
  | unregister text => exact .inl (List.mem_filter.mp hmem).1
  | clear => simp [Op.onEntries] at hmem
  | resolve text => exact .inl hmem

/-- Each entry was registered by one of the calls, with a text of which its name was left. -/
lemma registered_of_mem_inForce (hmem : entry ∈ inForce ops) :
    ∃ text, .register text entry.2 ∈ ops ∧
      entry.1 = Namespace.normalize text.toList ∧ entry.1 ≠ [] := by
  induction ops using List.reverseRecOn with
  | nil => simp [inForce] at hmem
  | append_singleton ops op ih =>
    rw [inForce_concat] at hmem
    rcases mem_onEntries hmem with hmem | ⟨text, rfl, hname⟩
    · obtain ⟨text, hregister, hname⟩ := ih hmem
      exact ⟨text, List.mem_append_left _ hregister, hname⟩
    · exact ⟨text, by simp, hname⟩

/-- **The registrations in force are tidy.** -/
lemma tidy_inForce (hops : Distinct ops) : Tidy (inForce ops) := by
  induction ops using List.reverseRecOn with
  | nil => exact ⟨List.nodup_nil, List.nodup_nil⟩
  | append_singleton ops op ih =>
    rw [Distinct, List.filterMap_append, List.nodup_append] at hops
    obtain ⟨hbefore, -, hapart⟩ := hops
    rw [inForce_concat]
    refine (ih hbefore).onEntries fun id hid entry hmem => ?_
    obtain ⟨text, hregister, -⟩ := registered_of_mem_inForce hmem
    exact hapart _ (List.mem_filterMap.mpr ⟨_, hregister, rfl⟩) id (by simp [hid])

/-- An entry has its name for itself. -/
lemma Tidy.exists_split (h : Tidy entries) (hmem : (k, id) ∈ entries) :
    ∃ before after, entries = before ++ (k, id) :: after ∧ ∀ entry ∈ before ++ after, entry.1 ≠ k := by
  obtain ⟨before, after, rfl⟩ := List.append_of_mem hmem
  have hkeys := h.keys
  rw [List.map_append, List.map_cons, List.nodup_middle, List.nodup_cons, ← List.map_append] at hkeys
  refine ⟨before, after, rfl, ?_⟩
  rintro entry hentry rfl
  exact hkeys.1 (List.mem_map.mpr ⟨entry, hentry, rfl⟩)

/-- What is found for a name is the entry with that name. -/
lemma Tidy.lookup_eq_some_iff (h : Tidy entries) :
    entries.lookup k = some id ↔ (k, id) ∈ entries := by
  rw [List.lookup_eq_some_iff]
  constructor
  · rintro ⟨before, after, rfl, -⟩
    simp
  · intro hmem
    obtain ⟨before, after, rfl, hothers⟩ := h.exists_split hmem
    refine ⟨before, after, rfl, fun entry hentry => ?_⟩
    simpa using (hothers entry (List.mem_append_left _ hentry)).symm

/-- A slot is listed with one name only. -/
lemma Tidy.eq_of_slot {k' : List Char} (h : Tidy entries) (hmem : (k, id) ∈ entries)
    (hmem' : (k', id) ∈ entries) : k = k' :=
  congrArg Prod.fst (List.inj_on_of_nodup_map h.slots hmem hmem' rfl)

/-- Without the entry of a name the others are left. -/
lemma filter_ne_eq {before after : List (List Char × SlotId)}
    (hothers : ∀ entry ∈ before ++ after, entry.1 ≠ k) :
    (before ++ (k, id) :: after).filter (fun entry => entry.1 != k) = before ++ after := by
  have hkeep : (before ++ after).filter (fun entry => entry.1 != k) = before ++ after :=
    List.filter_eq_self.mpr fun entry hentry => by simpa using hothers entry hentry
  rw [List.filter_append, List.filter_cons_of_neg (by simp), ← List.filter_append, hkeep]

/-! ## The listing -/

/-- An entry as it is listed. -/
abbrev listed (entry : List Char × SlotId) : String × SlotId := (String.ofList entry.1, entry.2)

/-- A registration is listed under its name as a text. -/
lemma listed_toList : listed (name.toList, id) = (name, id) := by
  rw [listed, String.ofList_toList]

/-- What is listed is what is registered. -/
lemma mem_registrations : (name, id) ∈ r.registrations ↔ (name.toList, id) ∈ r.entries := by
  rw [registrations, List.mem_mergeSort, List.mem_map]
  constructor
  · rintro ⟨⟨k, id'⟩, hmem, heq⟩
    obtain ⟨rfl, rfl⟩ := Prod.mk.inj heq
    rwa [String.toList_ofList]
  · exact fun hmem => ⟨_, hmem, listed_toList⟩

/-- Registrations are listed by their names, and by their slots where the names are the same. -/
lemma listedBefore_iff {a b : String × SlotId} :
    listedBefore a b = true ↔ a.1 < b.1 ∨ a.1 = b.1 ∧ a.2 ≤ b.2 := by
  simp [listedBefore]

/-- The order of the listing is transitive. -/
lemma listedBefore_trans {a b c : String × SlotId} (hab : listedBefore a b = true)
    (hbc : listedBefore b c = true) : listedBefore a c = true := by
  rw [listedBefore_iff] at hab hbc ⊢
  rcases hab with hab | ⟨hab, hab'⟩ <;> rcases hbc with hbc | ⟨hbc, hbc'⟩
  · exact .inl (String.lt_trans hab hbc)
  · exact .inl (hbc ▸ hab)
  · exact .inl (hab ▸ hbc)
  · exact .inr ⟨hab.trans hbc, hab'.trans hbc'⟩

/-- Of two registrations, one is listed before the other. -/
lemma listedBefore_total (a b : String × SlotId) :
    listedBefore a b = true ∨ listedBefore b a = true := by
  rw [listedBefore_iff, listedBefore_iff]
  by_cases hab : a.1 < b.1
  · exact .inl (.inl hab)
  by_cases hba : b.1 < a.1
  · exact .inr (.inl hba)
  have heq : a.1 = b.1 := String.le_antisymm hba hab
  rcases Nat.le_total a.2 b.2 with hle | hle
  · exact .inl (.inr ⟨heq, hle⟩)
  · exact .inr (.inr ⟨heq.symm, hle⟩)

/-- Each name stands before those that follow it. -/
lemma pairwise_registrations (h : (r.entries.map Prod.fst).Nodup) :
    r.registrations.Pairwise fun a b => a.1 < b.1 := by
  have hnames : (r.registrations.map Prod.fst).Nodup := by
    have hperm : (r.registrations.map Prod.fst).Perm ((r.entries.map listed).map Prod.fst) :=
      (List.mergeSort_perm _ listedBefore).map Prod.fst
    have hlisted : (r.entries.map listed).map Prod.fst = (r.entries.map Prod.fst).map String.ofList := by
      simp
    rw [hperm.nodup_iff, hlisted]
    exact h.map fun _ _ heq => String.ofList_injective heq
  have hsorted : r.registrations.Pairwise fun a b => listedBefore a b = true := by
    refine List.pairwise_mergeSort (fun a b c => ?_) (fun a b => ?_) _
    · exact listedBefore_trans
    · rw [Bool.or_eq_true]
      exact listedBefore_total a b
  refine (List.pairwise_map.mp hnames).imp₂ (fun a b hne hbefore => ?_) hsorted
  exact (listedBefore_iff.mp hbefore).resolve_right fun heq => hne heq.1

/-- **A list in the order of the names that has the entries in it is what is listed.** -/
lemma registrations_eq {l : List (String × SlotId)} (h : (r.entries.map Prod.fst).Nodup)
    (hsorted : l.Pairwise fun a b => a.1 < b.1) (hperm : l.Perm (r.entries.map listed)) :
    r.registrations = l := by
  refine List.Perm.eq_of_pairwise (fun a b _ _ hab hba => ?_) (pairwise_registrations h) hsorted
    ((List.mergeSort_perm _ _).trans hperm.symm)
  exact absurd hba (String.lt_asymm hab)

/-! ## Names that are given back -/

/-- Replacing the slot of the first registration that is listed. -/
lemma replaced_cons (entry : String × SlotId) (id : SlotId) (listing : List (String × SlotId)) :
    replaced entry id (entry :: listing) = (entry.1, id) :: replaced entry id listing := by
  simp [replaced]

/-- An entry with another slot has the same name. -/
lemma pairwise_replaced {listing : List (String × SlotId)} {entry : String × SlotId}
    (h : listing.Pairwise fun a b => a.1 < b.1) :
    (replaced entry id listing).Pairwise fun a b => a.1 < b.1 := by
  have hname : ∀ other : String × SlotId,
      (if other = entry then (entry.1, id) else other).1 = other.1 := by
    intro other
    split
    · rename_i hsame
      rw [hsame]
    · rfl
  rw [replaced, List.pairwise_map]
  simpa only [hname] using h

/-- Putting an entry in the place of the one with its name replaces that in the listing. -/
lemma replaced_perm {id' : SlotId} (h : Tidy entries) (hmem : (name.toList, id) ∈ entries) :
    replaced (name, id) id' (entries.map listed) ~ (insert name.toList id' entries).map listed := by
  obtain ⟨before, after, rfl, hothers⟩ := h.exists_split hmem
  have hstay : replaced (name, id) id' ((before ++ after).map listed) = (before ++ after).map listed := by
    rw [replaced, List.map_map]
    refine List.map_congr_left fun entry hentry => if_neg fun heq => hothers entry hentry ?_
    obtain ⟨rfl, -⟩ := Prod.mk.inj heq
    rw [String.toList_ofList]
  calc replaced (name, id) id' ((before ++ (name.toList, id) :: after).map listed)
    _ ~ replaced (name, id) id' (((name.toList, id) :: (before ++ after)).map listed) :=
      (List.perm_middle.map listed).map _
    _ = ((name.toList, id') :: (before ++ after)).map listed := by
      rw [List.map_cons, listed_toList, replaced_cons, hstay, List.map_cons, listed_toList]
    _ ~ (insert name.toList id' (before ++ (name.toList, id) :: after)).map listed := by
      rw [insert, filter_ne_eq hothers]
      exact (List.perm_append_singleton _ _).symm.map listed

/-- **A name that normalizing leaves as it is can be registered again** in the place of its entry, and no
other name can. -/
lemma replaces_iff (h : Tidy r.entries) (hmem : (name, id) ∈ r.registrations)
    (hne : name.toList ≠ []) :
    Replaces r (name, id) ↔ Namespace.normalize name.toList = name.toList := by
  rw [mem_registrations] at hmem
  constructor
  · intro hreplaces
    by_contra hother
    -- a new slot goes to another name, so that the entry is still there
    obtain ⟨r', hr', hlisted⟩ := hreplaces (id + 1)
    have hstays : (name, id) ∈ r'.registrations := by
      rw [register] at hr'
      split at hr'
      · cases hr'
        rw [mem_registrations]
        exact List.mem_append_left _ (List.mem_filter.mpr ⟨hmem, by simpa using Ne.symm hother⟩)
      · cases hr'
    rw [hlisted, replaced, List.mem_map] at hstays
    obtain ⟨other, -, heq⟩ := hstays
    by_cases hsame : other = (name, id)
    · simp [hsame] at heq
    · rw [if_neg hsame] at heq
      exact hsame heq
  · intro hback id'
    have haccepts : accepts name = true := by simpa [accepts, hback] using hne
    refine ⟨⟨insert name.toList id' r.entries, []⟩, by rw [register, if_pos haccepts, hback], ?_⟩
    refine registrations_eq (nodup_keys_insert h.keys) (pairwise_replaced ?_) ?_
    · exact pairwise_registrations h.keys
    · exact ((List.mergeSort_perm _ _).map _).trans (replaced_perm h hmem)

/-- **A name that normalizing leaves as it is takes its entry back**, and no other name does. -/
lemma removes_iff (h : Tidy r.entries) (hmem : (name, id) ∈ r.registrations) :
    Removes r (name, id) ↔ Namespace.normalize name.toList = name.toList := by
  have hentry := mem_registrations.mp hmem
  constructor
  · rintro ⟨hslot, -⟩
    exact h.eq_of_slot (h.lookup_eq_some_iff.mp hslot) hentry
  · intro hback
    obtain ⟨before, after, hsplit, hothers⟩ := h.exists_split hentry
    refine ⟨by rw [unregister, hback, h.lookup_eq_some_iff.mpr hentry], ?_⟩
    refine registrations_eq (h.sublist List.filter_sublist).keys ?_ ?_
    · exact (pairwise_registrations h.keys).sublist List.erase_sublist
    · calc r.registrations.erase (name, id)
        _ ~ (r.entries.map listed).erase (name, id) := (List.mergeSort_perm _ _).erase _
        _ ~ ((name, id) :: (before ++ after).map listed).erase (name, id) := by
          rw [hsplit, ← listed_toList]
          exact (List.perm_middle.map listed).erase _
        _ = (before ++ after).map listed := List.erase_cons_head _ _
        _ = (r.entries.filter fun entry => entry.1 != Namespace.normalize name.toList).map listed := by
          rw [hback, hsplit, filter_ne_eq hothers]

/-- **A name that normalizing leaves as it is leads to its slot**, and no other name does. -/
lemma lookup_eq_slot_iff (h : Tidy r.entries) (hmem : (name, id) ∈ r.registrations)
    (hne : name.toList ≠ []) :
    r.lookup name = .slot id ↔ Namespace.normalize name.toList = name.toList := by
  rw [mem_registrations] at hmem
  constructor
  · intro hroute
    obtain ⟨k, hk, hlength⟩ := exists_of_walk_slot hroute
    rw [h.eq_of_slot (h.lookup_eq_some_iff.mp hk) hmem] at hlength
    exact normalize_isInfix.eq_of_length_le hlength
  · intro hback
    rw [lookup, hback]
    exact walk_of_some hne (h.lookup_eq_some_iff.mpr hmem)

/-- **The names that lead back to their registrations are those that are not frayed.**  After any calls
each of the registrations that are listed comes from a text of which its name was left.  Registering
the name once more replaces just that registration, resolving the name leads to its slot, and
unregistering the name takes just that slot back, unless the name ends with white space; then none of
the three happens.  And of a text of white space and separators only, what is left is empty and
refused, unless it ends with white space.  That is what is left of a text with something, white space
and then separators.

**Proof sketch.** Names and slots are listed once, so that the name leads to its registration if
normalizing leaves it as it is.  If it does not, less is left, and each namespace that is tried is
shorter than the name. -/
theorem names_lead_back (ops : List Op) (hops : Distinct ops) :
    (∀ entry ∈ (after ops).registrations,
      (∃ text : String, .register text entry.2 ∈ ops ∧
        entry.1.toList = Namespace.normalize text.toList) ∧
      (Replaces (after ops) entry ↔ ¬ Frayed entry.1.toList) ∧
      (((after ops).resolve entry.1).1 = .slot entry.2 ↔ ¬ Frayed entry.1.toList) ∧
      (Removes (after ops) entry ↔ ¬ Frayed entry.1.toList)) ∧
    (∀ (text : String) (id : SlotId), Bare text.toList →
      ((after ops).register text id = .error (.emptyNamespace text) ↔
        ¬ Frayed (Namespace.normalize text.toList))) ∧
    ∀ text : String, Frayed (Namespace.normalize text.toList) ↔ ∃ front c n after,
      Text.isBlank c = true ∧ ¬ Text.Blank front ∧ Text.Blank after ∧
        text.toList = front ++ c :: (pairs (n + 1) ++ after) := by
  have htidy : Tidy (after ops).entries := entries_after ops ▸ tidy_inForce hops
  refine ⟨fun ⟨name, id⟩ hmem => ?_, fun text id hbare => ?_, fun text => frayed_normalize_iff⟩
  · have hentry := mem_registrations.mp hmem
    rw [entries_after] at hentry
    obtain ⟨text, hregister, hname, hne⟩ := registered_of_mem_inForce hentry
    have hback : Namespace.normalize name.toList = name.toList ↔ ¬ Frayed name.toList := by
      change name.toList = _ at hname
      rw [hname]
      exact normalize_normalize_eq_iff
    refine ⟨⟨text, hregister, hname⟩, ?_, ?_, ?_⟩
    · rw [replaces_iff htidy hmem hne, hback]
    · rw [(coherent_after ops).route, lookup_eq_slot_iff htidy hmem hne, hback]
    · rw [removes_iff htidy hmem, hback]
  · rw [← hbare.normalize_eq_nil_iff, register, accepts]
    cases Namespace.normalize text.toList <;> simp

/-- A registration with a frayed name and one without. -/
def frayedOps : List Op := [.register "a ::" 1, .register "b" 2]

/-- White space before the separators makes a name that does not lead back, and lets a text without
any name through. -/
theorem names_lead_back_of_frayed :
    Distinct frayedOps ∧ Replaces (after frayedOps) ("b", 2) ∧ Removes (after frayedOps) ("b", 2) ∧
      ¬ Replaces (after frayedOps) ("a ", 1) ∧ ((after frayedOps).resolve "a ").1 ≠ .slot 1 ∧
      ¬ Removes (after frayedOps) ("a ", 1) ∧ Bare " ::".toList ∧
      (after frayedOps).register " ::" 3 = .error (.emptyNamespace " ::") ∧ Bare ":: ::".toList ∧
      (after frayedOps).register ":: ::" 3 ≠ .error (.emptyNamespace ":: ::") := by
  have hdistinct : Distinct frayedOps := by
    unfold Distinct
    decide
  have hone : Bare " ::".toList :=
    (.pair (.blank .nil (by decide)) : Bare (([] ++ [' ']) ++ [':', ':']))
  have htwo : Bare ":: ::".toList :=
    (.pair (.blank (.pair .nil) (by decide)) : Bare ((([] ++ [':', ':']) ++ [' ']) ++ [':', ':']))
  obtain ⟨hlisted, hbare, -⟩ := names_lead_back frayedOps hdistinct
  obtain ⟨-, hreplaces, hresolves, hremoves⟩ :=
    hlisted ("a ", 1) (mem_registrations.mpr (by decide +kernel))
  obtain ⟨-, hreplaces', -, hremoves'⟩ :=
    hlisted ("b", 2) (mem_registrations.mpr (by decide +kernel))
  have ha : Frayed "a ".toList := by decide
  have hb : ¬ Frayed "b".toList := by decide
  refine ⟨hdistinct, hreplaces'.mpr hb, hremoves'.mpr hb, fun h => hreplaces.mp h ha,
    fun h => hresolves.mp h ha, fun h => hremoves.mp h ha, hone, (hbare _ 3 hone).mpr ?_, htwo,
    fun h => (hbare _ 3 htwo).mp h ?_⟩
  · decide +kernel
  · decide +kernel

end Registry

end NamespaceLogging
