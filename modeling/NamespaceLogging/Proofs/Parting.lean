import NamespaceLogging.Proofs.Balance

/-!
# How engines leave their routers

An engine that ends leaves both lists of its router, if that can still be reached; all others stay,
in their order.  At every moment afterwards it is away.

## Main definitions

* `Assembly.members`, `Assembly.listing`: the default handlers and the attached engines of a router.
* `Assembly.Parts`: a slot is taken out of both lists.
* `Assembly.Absent`: an engine is in no list of a router.
* `System.Away`: whoever has left its router is in none of its lists, at any later moment.

## Main results

* `System.Evolves.away`: whatever changes, this holds.
-/

set_option autoImplicit false

namespace NamespaceLogging

open History

namespace Assembly

/-- The slots of the default handlers of a router. -/
def members (a : Assembly) (r : RouterId) : List SlotId :=
  (a.routers[r]?.bind fun y => a.groups[y.defaults]?).getD []

/-- The attached engines of a router, with their slots. -/
def listing (a : Assembly) (r : RouterId) : List (SlotId × EngineId) :=
  (a.routers[r]?.map Router.aspects).getD []

/-- The slot `id` is taken out of both lists of the router `r`.  All others stay, in their order, and
so do the lists of all other routers. -/
structure Parts (a b : Assembly) (r : RouterId) (id : SlotId) : Prop where
  members : b.members r = (a.members r).filter (· != id)
  listing : b.listing r = (a.listing r).filter (·.1 != id)
  others : ∀ r', r' ≠ r → b.members r' = a.members r' ∧ b.listing r' = a.listing r'

/-- The engine, with its slot `id`, is in no list of the router. -/
structure Absent (a : Assembly) (r : RouterId) (id : SlotId) (e : EngineId) : Prop where
  member : ¬ a.Member r id
  lists : ∀ i, ¬ a.Lists r i e

/-- Whoever is in a list of one assembly is in the same list of the other. -/
structure Within (a b : Assembly) : Prop where
  member : ∀ r id, a.Member r id → b.Member r id
  lists : ∀ r id e, a.Lists r id e → b.Lists r id e

variable {a b : Assembly} {r : RouterId} {id : SlotId} {e : EngineId}

/-- The slots in the list are those of the default handlers. -/
lemma mem_members : id ∈ a.members r ↔ a.Member r id := by
  unfold members Member
  cases a.routers[r]? with
  | none => simp
  | some y => cases hgroup : a.groups[y.defaults]? <;> simp [hgroup]

/-- The engines in the list are those that are attached. -/
lemma mem_listing : (id, e) ∈ a.listing r ↔ a.Lists r id e := by
  unfold listing Lists
  cases a.routers[r]? <;> simp

/-- Assemblies with the same routers and groups have the same lists. -/
lemma Within.of_eq (hrouters : a.routers = b.routers) (hgroups : a.groups = b.groups) :
    a.Within b := by
  constructor
  · simp [Member, hrouters, hgroups]
  · simp [Lists, hrouters]

/-- An engine that is in no list of an assembly is in none of an assembly within it. -/
lemma Within.absent (hwithin : a.Within b) (habsent : b.Absent r id e) : a.Absent r id e :=
  ⟨fun h => habsent.member (hwithin.member r id h), fun i h => habsent.lists i (hwithin.lists r i e h)⟩

end Assembly

namespace System

variable {s t : System} {e : EngineId} {x : Engine} {r : RouterId} {id : SlotId}

/-! ## At later moments -/

/-- At every moment after an engine has left its router, it is in none of its lists. -/
def Away (s : System) : Prop :=
  ∀ before m after e r id, s.moments = before ++ m :: after →
    Entry.activated e r id ∈ before.map Moment.entry →
    (∃ m' ∈ before, (∃ why, m'.entry = .deactivated e why) ∧ m'.assembly.isAlive r = true) →
    m.assembly.Absent r id e

/-- The moments of a change are like the state after it, or like the one before it as long as no
landmark is passed. -/
def Seen (s t : System) : Prop :=
  ∃ new, t.moments = s.moments ++ new ∧ ∀ before m after, new = before ++ m :: after →
    m.assembly.Within t.toAssembly ∨ m.assembly.Within s.toAssembly ∧
      ∀ m' ∈ before, ∀ e, ¬ Engine.Landmark e m'.entry

/-- A change that writes nothing down has no moments of its own. -/
lemma seen_of_moments (hmoments : t.moments = s.moments) : Seen s t :=
  ⟨[], by simp [hmoments], by simp⟩

/-- The moment of an entry that is noted is like the state after it. -/
lemma seen_noted (entry : Entry) (hmoments : t.moments = s.moments) : Seen s (t.noted entry) := by
  refine ⟨[⟨entry, t.toAssembly⟩], by simp [hmoments], fun before m after heq => .inl ?_⟩
  obtain ⟨rfl, rfl⟩ : m = ⟨entry, t.toAssembly⟩ ∧ before = [] := by
    cases before <;> simp_all
  exact .of_eq rfl rfl

/-- The moment at which an engine leaves its router is like the state before, as the landmark is
passed only then. -/
lemma seen_left (why : Ending) : Seen s (s.left e x why) := by
  refine ⟨_, moments_left why, fun before m after heq => .inr ?_⟩
  obtain ⟨rfl, rfl⟩ : m = ⟨.deactivated e why, (s.onEngine e Engine.deactivate).toAssembly⟩ ∧
      before = [] := by
    cases before <;> simp_all
  exact ⟨.of_eq rfl rfl, by simp⟩

/-- Failing for the last time, an engine is seen to leave only at the moment of its shutdown hook. -/
lemma seen_tripped {error : AspectError} (hsound : s.Sound) (hx : s.engines[e]? = some x)
    (hquiet : Quiet ((s.onEngine e Engine.countFailure).noted (.batchOver e (some error))) t) :
    Seen s ((t.left e x.countFailure .failing).closing e) := by
  have hcounted : ((s.onEngine e Engine.countFailure).noted (.batchOver e (some error))).Wired :=
    hsound.wired.onEngine_noted _ hx (fun h => h) fun i h => h
  have hmid : (t.onEngine e Engine.deactivate).toAssembly.Within s.toAssembly := by
    constructor
    · exact fun r id hmem => (hquiet.neutral.member hcounted).mp hmem
    · exact fun r id e hlists => hquiet.neutral.lists.mp hlists
  refine ⟨_, moments_tripped hquiet, fun before m after heq => ?_⟩
  match before, heq with
  | [], heq =>
    simp only [List.nil_append, List.cons.injEq] at heq
    exact .inr ⟨heq.1 ▸ .of_eq rfl rfl, by simp⟩
  | [m₀], heq =>
    simp only [List.cons_append, List.nil_append, List.cons.injEq] at heq
    obtain ⟨rfl, rfl, -⟩ := heq
    exact .inr ⟨hmid, by simp [Engine.Landmark]⟩
  | [m₀, m₁], heq =>
    simp only [List.cons_append, List.nil_append, List.cons.injEq] at heq
    exact .inl (heq.2.2.1 ▸ .of_eq rfl rfl)
  | _ :: _ :: _ :: _, heq => simp at heq

/-- The moments at the end of an engine that has failed are like the state after it. -/
lemma seen_finished (error : AspectError) (through : Option RouterId) :
    Seen s (s.finished e x error through) := by
  refine ⟨_, moments_finished error through, fun before m after heq => .inl ?_⟩
  have hmem : m ∈ before ++ m :: after := by simp
  rw [← heq] at hmem
  have hsame : m.assembly.routers = s.routers ∧ m.assembly.groups = s.groups := by
    simp only [List.mem_append, List.mem_cons, List.not_mem_nil, or_false, List.mem_map] at hmem
    rcases hmem with (rfl | rfl | rfl) | ⟨r, -, rfl⟩ <;> exact ⟨rfl, rfl⟩
  cases through <;> exact .of_eq hsame.1 hsame.2

/-- **The moments of every change** are like the state after it, or like the one before it as long
as no landmark is passed. -/
lemma Change.seen (hsound : s.Sound) (hchange : Change s t) : Seen s t := by
  cases hchange with
  | quiet quiet => exact seen_of_moments (by simp [moments, quiet.journal])
  | noted entry about => exact seen_noted entry rfl
  | made sink threshold => exact seen_of_moments (by simp [moments])
  | founded filter => exact seen_of_moments (by simp [moments, System.founded])
  | shift f engine eq shift => exact seen_of_moments (by simp)
  | event f engine eq event alone => exact seen_noted _ (by simp)
  | enlisted g slot => exact seen_of_moments (by simp [moments, System.enlisted])
  | withdrawn g keep gone all => exact seen_noted _ (by simp [moments, onGroup])
  | shut router up => exact seen_of_moments (by simp [moments, onRouter])
  | cleared members router ended => exact seen_noted _ (by simp [moments, onGroup])
  | attached lock engine state starting init router =>
    exact seen_noted _ (by simp [moments, System.enlisted, onRouter, onEngine])
  | left engine state => exact seen_left .asked
  | tripped error engine state busy limit quiet => exact seen_tripped hsound engine quiet
  | finished error through engine closed once moments tripped router unheard =>
    exact seen_finished error through

/-- A moment is one of the earlier ones or one of the later ones. -/
lemma split_of_append {before after old new : List Moment} {m : Moment}
    (heq : old ++ new = before ++ m :: after) : (∃ rest, old = before ++ m :: rest) ∨
      ∃ rest, before = old ++ rest ∧ new = rest ++ m :: after := by
  rcases List.append_eq_append_iff.mp heq with ⟨rest, hbefore, hnew⟩ | ⟨rest, hold, hrest⟩
  · exact .inr ⟨rest, hbefore, hnew⟩
  · cases rest with
    | nil => exact .inr ⟨[], by simpa using hold.symm, by simpa using hrest.symm⟩
    | cons m' rest =>
      obtain ⟨rfl, -⟩ := List.cons.inj hrest
      exact .inl ⟨rest, hold⟩

/-- An engine that has left its router is in none of its lists. -/
lemma Sound.absent (hsound : s.Sound) (hmem : Entry.activated e r id ∈ s.history)
    (hfreed : s.Freed e r) : s.Absent r id e := by
  obtain ⟨hmember, hlists⟩ := hsound.wired.gone e r id hmem hfreed
  refine ⟨hmember, fun i hin => ?_⟩
  obtain ⟨x, hx⟩ := hsound.lives.exists_engine rfl hmem
  obtain ⟨-, rfl⟩ := (hsound.careers e x hx).unique r i r id (hsound.wired.lists r i e hin) hmem
  exact hlists e hin

/-- **Whoever is away stays away**: at the moments of a change, too.

**Proof sketch.** An engine that had left before the change is in no list of the state before it and
in none of the state after it.  One that leaves in the change is in no list of the state after it, and
the moments after a landmark are like that state. -/
lemma Change.away (hsound : s.Sound) (haway : s.Away) (hchange : Change s t) : t.Away := by
  have htsound : t.Sound := Evolves.sound hsound (.single hchange)
  obtain ⟨new, hmoments, hseen⟩ := hchange.seen hsound
  intro before m after e r id heq hmem ⟨m', hm', ⟨why, hwhy⟩, halive⟩
  obtain ⟨m₀, hm₀, hentry⟩ := List.mem_map.mp hmem
  rcases split_of_append (hmoments ▸ heq) with ⟨rest, hold⟩ | ⟨rest, hbefore, hnew⟩
  · exact haway before m rest e r id hold hmem ⟨m', hm', ⟨why, hwhy⟩, halive⟩
  · rcases hseen rest m after hnew with hwithin | ⟨hwithin, hmark⟩
    · have hsub : ∀ m' ∈ before, m' ∈ t.moments := fun m' hm' => heq ▸ List.mem_append_left _ hm'
      exact hwithin.absent (htsound.absent (List.mem_map.mpr ⟨m₀, hsub m₀ hm₀, hentry⟩)
        ⟨m', hsub m' hm', ⟨why, hwhy⟩, halive⟩)
    · have hsub : ∀ m' ∈ before, Engine.Landmark e m'.entry → m' ∈ s.moments := by
        intro m' hm' hlandmark
        rw [hbefore, List.mem_append] at hm'
        exact hm'.resolve_right fun h => hmark m' h e hlandmark
      have hm₀' : m₀ ∈ s.moments := hsub m₀ hm₀ (hentry ▸ rfl)
      have hm'' : m' ∈ s.moments := hsub m' hm' (hwhy ▸ rfl)
      exact hwithin.absent (hsound.absent (List.mem_map.mpr ⟨m₀, hm₀', hentry⟩)
        ⟨m', hm'', ⟨why, hwhy⟩, halive⟩)

/-- **Whatever changes, whoever is away stays away.** -/
theorem Evolves.away (hsound : s.Sound) (haway : s.Away) (h : s.Evolves t) : t.Away := by
  induction h with
  | refl => exact haway
  | tail hevolves hchange ih => exact hchange.away (Evolves.sound hsound hevolves) ih

end System

end NamespaceLogging
