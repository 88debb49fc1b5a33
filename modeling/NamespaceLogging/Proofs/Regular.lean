import NamespaceLogging.Proofs.Acts
import NamespaceLogging.Proofs.Balance

/-!
# Regular acts

An act is regular if it makes one change after the other, wherever it stops, and leaves everything in
balance when it is over.  Acts are put together from regular ones, and those that only read, or
change what no engine notices, are regular.

## Main definitions

* `Act.RegularAt`, `Act.Regular`: the act is regular in a state, or in all.
* `Act.Ends`, `Act.Leaves`: what an act leaves behind, with a value or by a panic.
* `Reentry.Regular`: the calls that scripts make back into the system are regular.

## Main results

* `Act.RegularAt.bind`, `Act.RegularAt.contain`, `Act.RegularAt.after`: regular acts are put together.
* `Act.Leaves.bind`: what one act after the other leaves behind.
-/

set_option autoImplicit false

namespace NamespaceLogging

namespace Act

variable {α β : Type} {s t : System} {act : Act α}

/-- In the state, the act makes one change after the other, and leaves everything in balance when it
is over. -/
def RegularAt (s : System) (act : Act α) : Prop :=
  s.Sound → s.Evolves (act.on s).2 ∧ (isOver (act.on s).1 = true → s.Balanced (act.on s).2)

/-- The act is regular in all states. -/
def Regular (act : Act α) : Prop := ∀ s, act.RegularAt s

/-! ## Acts put together -/

/-- An act that leaves the state as it is. -/
lemma regularAt_of_eq (h : (act.on s).2 = s) : act.RegularAt s := by
  intro _
  rw [h]
  exact ⟨.refl, fun _ => .refl s⟩

/-- An act that changes only what no engine notices. -/
lemma regularAt_of_quiet (h : System.Quiet s (act.on s).2) : act.RegularAt s :=
  fun _ => ⟨.single (.quiet h), fun _ => h.balanced⟩

/-- An act that only returns a value is regular. -/
@[simp]
lemma regular_pure (a : α) : (pure a : Act α).Regular := fun _ => regularAt_of_eq rfl

/-- An act that only stops is regular. -/
@[simp]
lemma regular_throw (stop : Stop) : (throw stop : Act α).Regular := fun _ => regularAt_of_eq rfl

/-- **One act after the other**, in a state: the second one has to be regular in the state in which
the first one ends. -/
lemma RegularAt.bind {f : α → Act β} (hact : act.RegularAt s)
    (hf : ∀ a t, act.on s = (.ok a, t) → (f a).RegularAt t) : (act >>= f).RegularAt s := by
  intro hsound
  obtain ⟨hevolves, hbalanced⟩ := hact hsound
  rcases hon : act.on s with ⟨stop | a, t⟩
  · rw [on_bind_of_error hon]
    rw [hon] at hevolves hbalanced
    exact ⟨hevolves, fun hover => hbalanced (by cases stop <;> exact hover)⟩
  · rw [on_bind_of_ok hon]
    rw [hon] at hevolves hbalanced
    obtain ⟨hevolves', hbalanced'⟩ := hf a t hon (hevolves.sound hsound)
    exact ⟨hevolves.trans hevolves', fun hover =>
      (hbalanced rfl).trans hevolves.lasts hevolves'.lasts (hbalanced' hover)⟩

/-- One regular act after the other is regular: the second one begins in a sound state if the first
one is over. -/
lemma Regular.bind {f : α → Act β} (hact : act.Regular) (hf : ∀ a, (f a).Regular) :
    (act >>= f).Regular :=
  fun s => (hact s).bind fun a t _ => hf a t

/-- What follows when the state is looked at. -/
lemma regularAt_get {f : System → Act β} (hf : (f s).RegularAt s) :
    ((get : Act System) >>= f).RegularAt s := by
  refine RegularAt.bind (regularAt_of_eq rfl) fun a t hon => ?_
  rw [on_get] at hon
  cases hon
  exact hf

/-- An act that begins by reading the state need only be regular in the state that it has read. -/
lemma regular_get {f : System → Act β} (hf : ∀ s, (f s).RegularAt s) :
    ((get : Act System) >>= f).Regular :=
  fun s => regularAt_get (hf s)

/-- A panic that becomes a value does not matter: the act was over. -/
lemma RegularAt.contain (hact : act.RegularAt s) : (act.contain).RegularAt s := by
  intro hsound
  obtain ⟨hevolves, hbalanced⟩ := hact hsound
  rw [on_contain]
  rcases hon : act.on s with ⟨(payload | _ | _ | _) | a, t⟩ <;> rw [hon] at hevolves hbalanced <;>
    exact ⟨hevolves, hbalanced⟩

/-- At the end of an act, something changes that leaves everything in balance. -/
lemma RegularAt.after {change : System → System} (hact : act.RegularAt s)
    (hchange : ∀ t : System, t.Evolves (change t) ∧ t.Balanced (change t)) :
    (act.after change).RegularAt s := by
  intro hsound
  obtain ⟨hevolves, hbalanced⟩ := hact hsound
  rw [on_after]
  split
  · rename_i hover
    obtain ⟨hstep, hlast⟩ := hchange (act.on s).2
    exact ⟨hevolves.trans hstep, fun _ => (hbalanced hover).trans hevolves.lasts hstep.lasts hlast⟩
  · exact ⟨hevolves, hbalanced⟩

/-- At the end of an act, something changes that no engine notices. -/
lemma RegularAt.after_quiet {change : System → System} (hact : act.RegularAt s)
    (hchange : ∀ t, System.Quiet t (change t)) : (act.after change).RegularAt s :=
  hact.after fun t => ⟨.single (.quiet (hchange t)), (hchange t).balanced⟩

/-- Containing the panics of a regular act keeps it regular. -/
lemma Regular.contain (hact : act.Regular) : (act.contain).Regular := fun s => (hact s).contain

/-- A quiet change behind a regular act keeps it regular. -/
lemma Regular.after_quiet {change : System → System} (hact : act.Regular)
    (hchange : ∀ t, System.Quiet t (change t)) : (act.after change).Regular :=
  fun s => (hact s).after_quiet hchange

/-- Asking for something that may be missing only reads, and stops if it is. -/
lemma regular_require (what : String) (o : Option α) : (require what o).Regular := by
  cases o with
  | none => exact regular_throw _
  | some a => exact regular_pure a

/-- A value that may have failed to be made is returned, or makes the act panic. -/
lemma regular_orPanic (value : Except RenderFault α) : (orPanic value).Regular := by
  cases value with
  | error fault => exact regular_throw _
  | ok a => exact regular_pure a

/-- Regular acts, one for each element of a list, are regular together.  The induction is on the
list. -/
lemma regular_mapM {f : α → Act β} :
    ∀ l : List α, (∀ a ∈ l, (f a).Regular) → (l.mapM f).Regular
  | [], _ => by
    rw [List.mapM_nil]
    exact regular_pure _
  | a :: l, hf => by
    rw [List.mapM_cons]
    refine (hf a List.mem_cons_self).bind fun b => ?_
    refine (regular_mapM l fun a ha => hf a (List.mem_cons_of_mem _ ha)).bind fun bs => ?_
    exact regular_pure _

/-- The same for acts without results. -/
lemma regular_forM {f : α → Act PUnit} :
    ∀ l : List α, (∀ a ∈ l, (f a).Regular) → (l.forM f).Regular
  | [], _ => regular_pure _
  | a :: l, hf => by
    rw [List.forM_eq_forM, List.forM_cons]
    refine (hf a List.mem_cons_self).bind fun _ => ?_
    exact regular_forM l fun a ha => hf a (List.mem_cons_of_mem _ ha)

/-! ## What acts leave behind -/

section Leaves

variable {P P' E E' : System → Prop}

/-- An act that began in `s` has come to a value or a stop, with the state then: it made one change
after the other, and `P` holds with a value, and `E` with a panic. -/
def Ends (s : System) (end? : Except Stop α × System) (P E : System → Prop) : Prop :=
  s.Evolves end?.2 ∧
    match end?.1 with
    | .ok _ => P end?.2
    | .error (.panicked _) => E end?.2
    | .error _ => True

/-- The act makes one change after the other; it leaves `P` behind when it gives a value, and `E` when
it panics. -/
def Leaves (s : System) (act : Act α) (P E : System → Prop) : Prop := Ends s (act.on s) P E

/-- What an act leaves behind may be said in a weaker way, normally and by a panic. -/
lemma Ends.mono {end? : Except Stop α × System} (h : Ends s end? P E)
    (hP : ∀ t, s.Evolves t → P t → P' t) (hE : ∀ t, s.Evolves t → E t → E' t) :
    Ends s end? P' E' := by
  obtain ⟨hevolves, hend⟩ := h
  refine ⟨hevolves, ?_⟩
  rcases end? with ⟨(payload | _ | _ | _) | a, t⟩
  · exact hE t hevolves hend
  · trivial
  · trivial
  · trivial
  · exact hP t hevolves hend

/-- An act that began even earlier. -/
lemma Ends.before {end? : Except Stop α × System} (hst : s.Evolves t) (h : Ends t end? P E) :
    Ends s end? P E :=
  ⟨hst.trans h.1, h.2⟩

/-- Something changes at the end of an act. -/
lemma Ends.after {change : System → System} (h : Ends s (act.on t) P E)
    (hP : ∀ u, s.Evolves u → P u → u.Evolves (change u) ∧ P' (change u))
    (hE : ∀ u, s.Evolves u → E u → u.Evolves (change u) ∧ E' (change u)) :
    Ends s ((act.after change).on t) P' E' := by
  obtain ⟨hevolves, hend⟩ := h
  rw [on_after]
  rcases hon : act.on t with ⟨(payload | _ | _ | _) | a, u⟩ <;> rw [hon] at hevolves hend
  · obtain ⟨hstep, hlast⟩ := hE u hevolves hend
    exact ⟨hevolves.trans hstep, hlast⟩
  · exact ⟨hevolves, trivial⟩
  · exact ⟨hevolves, trivial⟩
  · exact ⟨hevolves, trivial⟩
  · obtain ⟨hstep, hlast⟩ := hP u hevolves hend
    exact ⟨hevolves.trans hstep, hlast⟩

namespace Leaves

/-- The same for the act itself. -/
lemma mono (h : act.Leaves s P E) (hP : ∀ t, s.Evolves t → P t → P' t)
    (hE : ∀ t, s.Evolves t → E t → E' t) : act.Leaves s P' E' :=
  Ends.mono h hP hE

/-- An act that does the same as another one in a later state. -/
lemma of_on {act' : Act α} (hon : act.on s = act'.on t) (hst : s.Evolves t)
    (h : act'.Leaves t P E) : act.Leaves s P E := by
  rw [Leaves, hon]
  exact h.before hst

/-- An act that gives a value. -/
lemma of_ok {a : α} (hon : act.on s = (.ok a, t)) (hst : s.Evolves t) (h : P t) :
    act.Leaves s P E := by
  rw [Leaves, hon]
  exact ⟨hst, h⟩

/-- **One act after the other.** -/
lemma bind {f : α → Act β} (hact : act.Leaves s P E)
    (hf : ∀ a t, act.on s = (.ok a, t) → s.Evolves t → P t → (f a).Leaves t P' E')
    (hE : ∀ t, s.Evolves t → E t → E' t) : (act >>= f).Leaves s P' E' := by
  obtain ⟨hevolves, hend⟩ := hact
  rcases hon : act.on s with ⟨stop | a, t⟩ <;> rw [hon] at hevolves hend
  · rw [Leaves, on_bind_of_error hon]
    refine ⟨hevolves, ?_⟩
    cases stop with
    | panicked payload => exact hE t hevolves hend
    | _ => trivial
  · exact of_on (on_bind_of_ok hon f) hevolves (hf a t hon hevolves hend)

/-- A panic that becomes a value. -/
lemma contain (hact : act.Leaves s P P) : (act.contain).Leaves s P fun _ => False := by
  obtain ⟨hevolves, hend⟩ := hact
  rw [Leaves, on_contain]
  rcases hon : act.on s with ⟨(payload | _ | _ | _) | a, t⟩ <;> rw [hon] at hevolves hend <;>
    exact ⟨hevolves, hend⟩

end Leaves

/-- A regular act leaves everything in balance. -/
lemma RegularAt.leaves (hact : act.RegularAt s) (hsound : s.Sound) :
    act.Leaves s s.Balanced s.Balanced := by
  obtain ⟨hevolves, hbalanced⟩ := hact hsound
  refine ⟨hevolves, ?_⟩
  rcases hon : act.on s with ⟨(payload | _ | _ | _) | a, t⟩ <;> rw [hon] at hbalanced
  · exact hbalanced rfl
  · trivial
  · trivial
  · trivial
  · exact hbalanced rfl

/-- An act is regular where it leaves a balanced state behind, in whatever way it ends. -/
lemma regularAt_of_leaves (h : s.Sound → act.Leaves s s.Balanced s.Balanced) :
    act.RegularAt s := by
  intro hsound
  obtain ⟨hevolves, hend⟩ := h hsound
  refine ⟨hevolves, ?_⟩
  rcases hon : act.on s with ⟨(payload | _ | _ | _) | a, t⟩ <;> rw [hon] at hend <;>
    intro hover
  · exact hend
  · simp [isOver] at hover
  · simp [isOver] at hover
  · simp [isOver] at hover
  · exact hend

end Leaves

end Act

/-- The calls that scripts make back into the system are regular. -/
structure Reentry.Regular (calls : Reentry) : Prop where
  handle : ∀ h id, (calls.handle h id).Regular
  perform : ∀ step, (calls.perform step).Regular

end NamespaceLogging
