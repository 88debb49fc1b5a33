import Mathlib.Data.List.Dedup
import Mathlib.Data.List.Induction
import Mathlib.Tactic.Common
import NamespaceLogging.Routing.Registry

/-!
# Kept routes cannot be told from new ones

A registry keeps the routes that it found.  Whatever is registered, unregistered, cleared and
resolved, and in whatever order, nobody can tell by the answers.

## Main definitions

* `Registry.Op`: a call on a registry.
* `Registry.after`: the registry after some calls.
* `Registry.inForce`: the registrations after some calls, with no thought of routes.
* `Registry.resolvedSince`: what was resolved since the registrations changed last.

## Main results

* `Registry.after_unobservable`: a registry resolves as if it kept no routes, and keeps one route for
  each namespace that was resolved since the registrations changed.
-/

set_option autoImplicit false

namespace NamespaceLogging

namespace Registry

/-! ## Calls -/

/-- A call on a registry. -/
inductive Op where
  | register (ns : String) (id : SlotId)
  | unregister (ns : String)
  | clear
  | resolve (ns : String)

namespace Op

/-- The registry after a call.  A call that fails leaves it as it is. -/
def on (r : Registry) : Op → Registry
  | register ns id => (r.register ns id).toOption.getD r
  | unregister ns => (r.unregister ns).2
  | clear => r.clear.2
  | resolve ns => (r.resolve ns).2

/-- The registrations after a call. -/
def onEntries (entries : List (List Char × SlotId)) : Op → List (List Char × SlotId)
  | register ns id =>
    if accepts ns then insert (Namespace.normalize ns.toList) id entries else entries
  | unregister ns => entries.filter fun entry => entry.1 != Namespace.normalize ns.toList
  | clear => []
  | resolve _ => entries

/-- Whether a call changes the registrations, or could have: it is no resolution, and did not fail. -/
def changes : Op → Bool
  | register ns _ => accepts ns
  | unregister _ | clear => true
  | resolve _ => false

/-- The namespace that is resolved by a call. -/
def resolved? : Op → Option String
  | resolve ns => some ns
  | _ => none

end Op

/-- The registry after some calls on a new one. -/
def after (ops : List Op) : Registry := ops.foldl Op.on empty

/-- The registrations that are in force after some calls. -/
def inForce (ops : List Op) : List (List Char × SlotId) := ops.foldl Op.onEntries []

/-- The namespaces that were resolved since the registrations changed last, the latest one first. -/
def resolvedSince (ops : List Op) : List String :=
  (ops.reverse.takeWhile fun op => !op.changes).filterMap Op.resolved?

variable {r : Registry} {ops : List Op} {op : Op} {ns : String}

/-- After one call more: a change forgets what was resolved, and a resolution comes in front of the
others. -/
lemma resolvedSince_concat : resolvedSince (ops ++ [op]) =
    if op.changes then [] else op.resolved?.toList ++ resolvedSince ops := by
  cases hchanges : op.changes with
  | true => simp [resolvedSince, hchanges]
  | false => cases hresolved : op.resolved? <;> simp [resolvedSince, hchanges, hresolved]

/-! ## Routes that are kept -/

/-- The routes that are kept are those that would be found anew, and there is one for each of the
given namespaces. -/
structure Coherent (r : Registry) (spaces : List String) : Prop where
  sound : ∀ k route, (k, route) ∈ r.found → route = r.lookup k
  keys : ∀ k, k ∈ r.found.map Prod.fst ↔ k ∈ spaces
  once : (r.found.map Prod.fst).Nodup

/-- A registry that keeps no routes. -/
lemma coherent_of_nil (hfound : r.found = []) : r.Coherent [] := by
  constructor <;> simp [hfound]

/-- A route that is looked up is kept for its namespace. -/
lemma mem_of_lookup {route : Route} (h : r.found.lookup ns = some route) : (ns, route) ∈ r.found := by
  obtain ⟨before, after, heq, -⟩ := List.lookup_eq_some_iff.mp h
  simp [heq]

/-- Where the kept routes are coherent, resolving a namespace finds what would be found anew. -/
lemma Coherent.route {spaces : List String} (h : r.Coherent spaces) (ns : String) :
    (r.resolve ns).1 = r.lookup ns := by
  unfold resolve
  split
  · rename_i route hroute
    exact h.sound ns route (mem_of_lookup hroute)
  · rfl

/-- Resolving a namespace leaves the registrations as they are. -/
lemma entries_resolve (r : Registry) (ns : String) : (r.resolve ns).2.entries = r.entries := by
  unfold resolve
  split <;> rfl

/-- A route that was found is kept, once. -/
lemma Coherent.resolve {spaces : List String} (h : r.Coherent spaces) (ns : String) :
    (r.resolve ns).2.Coherent (ns :: spaces) := by
  unfold Registry.resolve
  split
  · rename_i route hroute
    have hmem : ns ∈ spaces := by
      rw [← h.keys]
      exact List.mem_map_of_mem (mem_of_lookup hroute)
    refine ⟨h.sound, fun k => ?_, h.once⟩
    rw [h.keys, List.mem_cons]
    constructor
    · exact .inr
    · rintro (rfl | hk)
      · exact hmem
      · exact hk
  · rename_i hnone
    have hnew : ns ∉ r.found.map Prod.fst := by
      intro hmem
      obtain ⟨⟨k, route⟩, hin, rfl⟩ := List.mem_map.mp hmem
      simpa using List.lookup_eq_none_iff.mp hnone _ hin
    refine ⟨fun k route hmem => ?_, fun k => ?_, ?_⟩
    · rcases List.mem_cons.mp hmem with heq | hmem
      · cases heq
        rfl
      · exact h.sound k route hmem
    · simp only [List.map_cons, List.mem_cons, h.keys]
    · exact List.nodup_cons.mpr ⟨hnew, h.once⟩

/-- A call keeps the routes coherent. -/
lemma Coherent.on (h : r.Coherent (resolvedSince ops)) (op : Op) :
    (op.on r).Coherent (resolvedSince (ops ++ [op])) := by
  rw [resolvedSince_concat]
  cases op with
  | register ns id =>
    by_cases haccepts : accepts ns
    · simp only [Op.changes, haccepts, if_true, Op.on, register]
      exact coherent_of_nil rfl
    · simp only [Op.changes, haccepts, if_false, Bool.false_eq_true, Op.on, register]
      exact h
  | unregister ns => exact coherent_of_nil rfl
  | clear => exact coherent_of_nil rfl
  | resolve ns => exact h.resolve ns

/-- What a call does to the registrations does not depend on the routes that are kept. -/
lemma entries_on (r : Registry) (op : Op) : (op.on r).entries = Op.onEntries r.entries op := by
  cases op with
  | register ns id =>
    by_cases haccepts : accepts ns <;> simp only [Op.on, Op.onEntries, register, haccepts] <;> rfl
  | unregister ns => rfl
  | clear => rfl
  | resolve ns => exact entries_resolve r ns

/-! ## After any calls -/

/-- The registry after one call more. -/
lemma after_concat : after (ops ++ [op]) = op.on (after ops) := by
  rw [after, List.foldl_append]
  rfl

/-- The registrations in force after one call more. -/
lemma inForce_concat : inForce (ops ++ [op]) = op.onEntries (inForce ops) := by
  rw [inForce, List.foldl_append]
  rfl

/-- The registrations of a registry are those in force after the calls that were made. -/
lemma entries_after (ops : List Op) : (after ops).entries = inForce ops := by
  induction ops using List.reverseRecOn with
  | nil => rfl
  | append_singleton ops op ih =>
    rw [after_concat, inForce_concat, entries_on, ih]

/-- **The kept routes are coherent after all calls**, for the namespaces that were resolved since
the last change.  The induction is on the calls, the last one first. -/
lemma coherent_after (ops : List Op) : (after ops).Coherent (resolvedSince ops) := by
  induction ops using List.reverseRecOn with
  | nil => exact coherent_of_nil rfl
  | append_singleton ops op ih =>
    rw [after_concat]
    exact ih.on op

/-- **Kept routes cannot be told from new ones.**  After any calls, every namespace is resolved to the
route that is found on the registrations in force, every route that is kept is the one of its
namespace, and as many routes are kept as there are namespaces that were resolved since the
registrations changed last.

**Proof sketch.** A resolution leaves the registrations as they are and adds at most its own route,
and every other call forgets all routes unless it fails and changes nothing. -/
theorem after_unobservable (ops : List Op) :
    (after ops).entries = inForce ops ∧
      (∀ ns, ((after ops).resolve ns).1 = walk (inForce ops) (Namespace.normalize ns.toList)) ∧
      (∀ k route, (k, route) ∈ (after ops).found → route = (after ops).lookup k) ∧
      (after ops).cachedRoutes = (resolvedSince ops).dedup.length := by
  have hcoherent := coherent_after ops
  refine ⟨entries_after ops, fun ns => ?_, hcoherent.sound, ?_⟩
  · rw [hcoherent.route, lookup, entries_after]
  · have hperm : ((after ops).found.map Prod.fst).Perm (resolvedSince ops).dedup := by
      refine (List.perm_ext_iff_of_nodup hcoherent.once (List.nodup_dedup _)).mpr fun k => ?_
      rw [hcoherent.keys, List.mem_dedup]
    rw [cachedRoutes, ← hperm.length_eq, List.length_map]

end Registry

end NamespaceLogging
