import NamespaceLogging.Config.Override

/-!
# The registry

Slots are registered for namespaces.  A namespace is routed to the slot that is registered for the
closest of itself and its ancestors; without one it falls through to the default handlers.

The route of a namespace is kept once it was found.  Every change of the registrations forgets all
routes, so a route that is kept is the one that would be found anew.

## Main definitions

* `Route`: what a namespace leads to.
* `Registry`: the registrations and the routes found since they changed last.
* `Registry.lookup`: the route of a namespace, found on the registrations alone.
* `Registry.resolve`: the same route, with the help of those found before.
* `Registry.register`, `Registry.unregister`, `Registry.clear`: the changes.
-/

set_option autoImplicit false

namespace NamespaceLogging

open Text

/-- The number of a slot.  Slots are numbered from one in the order of their making. -/
abbrev SlotId := Nat

/-- What a namespace leads to. -/
inductive Route where
  /-- The slot of a registered handler. -/
  | slot (id : SlotId)
  /-- The default handlers. -/
  | defaults
deriving DecidableEq, Repr

/-- The slot of a route, if it leads to one. -/
def Route.slotId? : Route → Option SlotId
  | slot id => some id
  | defaults => none

/-- The namespace without its last segment; nothing is above a single segment. -/
def Namespace.parent (ns : List Char) : List Char :=
  ((splitLast? [':', ':'] ns).map Prod.fst).getD []

/-- Registrations, and the routes found on them. -/
structure Registry where
  /-- The slot of each registered namespace; no namespace stands twice. -/
  entries : List (List Char × SlotId)
  /-- The route of each namespace that was resolved since the entries changed last. -/
  found : List (String × Route)
deriving DecidableEq, Repr

/-- What stands before the last separator is shorter than the text, since the separator has at least
one character. -/
theorem length_splitLast?_fst_lt {x : Char} {sep cs : List Char} {sides : List Char × List Char}
    (h : splitLast? (x :: sep) cs = some sides) : sides.1.length < cs.length := by
  induction cs generalizing sides with
  | nil => simp [splitLast?] at h
  | cons c cs ih =>
    simp only [splitLast?] at h
    split at h
    · rename_i inner heq
      cases h
      exact Nat.succ_lt_succ (ih heq)
    · rw [Option.map_eq_some_iff] at h
      obtain ⟨_, _, rfl⟩ := h
      simp

/-- An ancestor is shorter than what lies below it. -/
theorem Namespace.length_parent_lt {ns : List Char} (h : ns ≠ []) :
    (parent ns).length < ns.length := by
  unfold parent
  cases hs : splitLast? [':', ':'] ns with
  | none => simpa using List.length_pos_iff.mpr h
  | some sides => simpa using length_splitLast?_fst_lt hs

namespace Registry

/-- A registry without entries. -/
def empty : Registry := ⟨[], []⟩

/-- The route of a namespace, tried from the namespace itself towards its first segment. -/
def walk (entries : List (List Char × SlotId)) (ns : List Char) : Route :=
  if h : ns = [] then .defaults
  else
    match entries.lookup ns with
    | some id => .slot id
    | none =>
      have := Namespace.length_parent_lt h
      walk entries (Namespace.parent ns)
  termination_by ns.length

/-- The route of a namespace by the registrations in force. -/
def lookup (r : Registry) (ns : String) : Route := walk r.entries (Namespace.normalize ns.toList)

/-- The route of a namespace, and the registry that remembers it. -/
def resolve (r : Registry) (ns : String) : Route × Registry :=
  match r.found.lookup ns with
  | some route => (route, r)
  | none =>
    let route := r.lookup ns
    (route, { r with found := (ns, route) :: r.found })

/-- The entries with one more; an entry for the same namespace goes. -/
def insert (key : List Char) (id : SlotId) (entries : List (List Char × SlotId)) :
    List (List Char × SlotId) :=
  entries.filter (fun entry => entry.1 != key) ++ [(key, id)]

/-- Whether a namespace can be registered. -/
def accepts (ns : String) : Bool := !(Namespace.normalize ns.toList).isEmpty

/-- The registry with a slot for a namespace and all below it. -/
def register (ns : String) (id : SlotId) (r : Registry) : Except ConfigError Registry :=
  if accepts ns then
    .ok { entries := insert (Namespace.normalize ns.toList) id r.entries, found := [] }
  else .error (.emptyNamespace ns)

/-- The slot registered for exactly this namespace, and the registry without it. -/
def unregister (ns : String) (r : Registry) : Option SlotId × Registry :=
  let key := Namespace.normalize ns.toList
  (r.entries.lookup key,
    { entries := r.entries.filter fun entry => entry.1 != key, found := [] })

/-- All registered slots, and the registry without any. -/
def clear (r : Registry) : List SlotId × Registry := (r.entries.map Prod.snd, empty)

/-- Whether one registration stands before another in a listing. -/
def listedBefore (a b : String × SlotId) : Bool :=
  decide (a.1 < b.1) || (a.1 == b.1 && a.2 ≤ b.2)

/-- The registered namespaces with their slots, by namespace. -/
def registrations (r : Registry) : List (String × SlotId) :=
  (r.entries.map fun entry => (String.ofList entry.1, entry.2)).mergeSort listedBefore

/-- The number of routes that are kept. -/
def cachedRoutes (r : Registry) : Nat := r.found.length

end Registry

end NamespaceLogging
