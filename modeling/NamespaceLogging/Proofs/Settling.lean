import NamespaceLogging.Proofs.Delivery

/-!
# Acts that come to an end

How deeply calls nest is not known in advance, and so the calls back into the system are given with a
bound.  An act settles if it comes to its end as soon as the bound is large enough, always in the same
way.  This module puts such acts together.

## Main definitions

* `Act.Settles`: the act comes to its end as soon as calls may nest deeply enough.

## Main results

* `Act.Settles.bind`: one act after the other.
* `System.settles_invoke`, `System.settles_invoke_serialized`: a slot calls a handler that comes to its
  end.
-/

set_option autoImplicit false

namespace NamespaceLogging

open Act

/-! ## Settling -/

namespace Act

variable {α β : Type} {act act' : Reentry → Act α} {s t : System} {result : Except Stop α}
  {P P' : Except Stop α → System → Prop} {Q : Except Stop β → System → Prop}

/-- If calls may nest deeply enough, the act comes to its end, with a value or by a panic.  The result
and the state then do not depend on the bound, and `P` holds of them. -/
def Settles (act : Reentry → Act α) (s : System) (P : Except Stop α → System → Prop) : Prop :=
  ∃ limit result t, (∀ depth, limit ≤ depth → (act (.upTo depth)).on s = (result, t)) ∧
    isOver result = true ∧ P result t

/-- An act that ends without a call back. -/
lemma settles_of_on (hon : ∀ calls, (act calls).on s = (result, t)) (hover : isOver result = true)
    (h : P result t) : Settles act s P :=
  ⟨0, result, t, fun _ _ => hon _, hover, h⟩

/-- An act that does the same as another one in another state. -/
lemma settles_of_eq (hon : ∀ calls, (act calls).on s = (act' calls).on t) (h : Settles act' t P) :
    Settles act s P := by
  obtain ⟨limit, result, u, hact, hover, hP⟩ := h
  exact ⟨limit, result, u, fun depth hdepth => (hon _).trans (hact depth hdepth), hover, hP⟩

namespace Settles

/-- An act that settles with some result settles with every result that follows from it. -/
lemma mono (h : Settles act s P) (himp : ∀ result t, P result t → P' result t) : Settles act s P' := by
  obtain ⟨limit, result, t, hact, hover, hP⟩ := h
  exact ⟨limit, result, t, hact, hover, himp result t hP⟩

/-- **One act after the other.** -/
lemma bind {f : Reentry → α → Act β} (hact : Settles act s P)
    (hvalue : ∀ a t, P (.ok a) t → Settles (fun calls => f calls a) t Q)
    (hpanic : ∀ payload t, P (.error (.panicked payload)) t → Q (.error (.panicked payload)) t) :
    Settles (fun calls => act calls >>= f calls) s Q := by
  obtain ⟨limit, result, t, hact, hover, hP⟩ := hact
  rcases result with (payload | _ | _ | _) | a
  · exact ⟨limit, _, t, fun depth hdepth => on_bind_of_error (hact depth hdepth) _, rfl,
      hpanic payload t hP⟩
  · simp [isOver] at hover
  · simp [isOver] at hover
  · simp [isOver] at hover
  · obtain ⟨limit', result, u, hf, hover', hQ⟩ := hvalue a t hP
    refine ⟨max limit limit', result, u, fun depth hdepth => ?_, hover', hQ⟩
    rw [on_bind_of_ok (hact depth (Nat.le_trans (Nat.le_max_left ..) hdepth))]
    exact hf depth (Nat.le_trans (Nat.le_max_right ..) hdepth)

/-- A panic becomes a value. -/
lemma contain (h : Settles act s P) : Settles (fun calls => (act calls).contain) s fun value t =>
    (∃ caught, value = .ok caught) ∧ ∃ result, P result t := by
  obtain ⟨limit, result, t, hact, hover, hP⟩ := h
  have hcontain : ∀ {depth}, limit ≤ depth → (act (.upTo depth)).contain.on s = _ :=
    fun hdepth => (on_contain _).trans (by rw [hact _ hdepth])
  rcases result with (payload | _ | _ | _) | a
  · exact ⟨limit, .ok (.error payload), t, fun _ => hcontain, rfl, ⟨_, rfl⟩, _, hP⟩
  · simp [isOver] at hover
  · simp [isOver] at hover
  · simp [isOver] at hover
  · exact ⟨limit, .ok (.ok a), t, fun _ => hcontain, rfl, ⟨_, rfl⟩, _, hP⟩

/-- At the end of the act, something changes. -/
lemma after {change : System → System} (h : Settles act s P) :
    Settles (fun calls => (act calls).after change) s fun result u =>
      ∃ t, u = change t ∧ P result t := by
  obtain ⟨limit, result, t, hact, hover, hP⟩ := h
  refine ⟨limit, result, change t, fun depth hdepth => ?_, hover, t, rfl, hP⟩
  rw [on_after]
  simp only [hact depth hdepth, hover, if_true]

end Settles

end Act

namespace System

variable {s : System} {k : RecordId} {id : SlotId} {x : Slot} {P : Except Stop Unit → System → Prop}

/-! ## Calls of handlers -/

/-- A handler that is called has one call less to make. -/
lemma settles_handle {h : HandlerRef} (hhandle : Settles (fun calls => handle calls h k) s P) :
    Settles (fun calls => calls.handle h k) s P := by
  obtain ⟨limit, result, t, hon, hover, hP⟩ := hhandle
  refine ⟨limit + 1, result, t, fun depth hdepth => ?_, hover, hP⟩
  cases depth with
  | zero => exact absurd hdepth (Nat.not_succ_le_zero limit)
  | succ depth => exact hon depth (Nat.le_of_succ_le_succ hdepth)

/-- A slot whose handler comes to its end, without a lock. -/
lemma settles_invoke (hslot : s.slot? id = some x)
    (hserial : (serializes x.handler).on (s.noted (.delivered id k)) =
      (.ok false, s.noted (.delivered id k)))
    (hcall : Settles (fun calls => handle calls x.handler k) (s.noted (.delivered id k)) P) :
    Settles (fun calls => invoke calls id k) s fun result t => result = .ok () ∧ ∃ ended, P ended t := by
  obtain ⟨limit, ended, t, hon, hover, hP⟩ := settles_handle hcall
  exact ⟨limit, .ok (), t, fun depth hdepth => on_invoke _ hslot hserial (hon depth hdepth) hover, rfl,
    rfl, ended, hP⟩

/-- A slot whose handler comes to its end, under the lock of the slot. -/
lemma settles_invoke_serialized (hslot : s.slot? id = some x)
    (hserial : (serializes x.handler).on (s.noted (.delivered id k)) =
      (.ok true, s.noted (.delivered id k)))
    (hfree : x.lock ∉ s.held)
    (hcall : Settles (fun calls => handle calls x.handler k)
      { s.noted (.delivered id k) with held := x.lock :: s.held } P) :
    Settles (fun calls => invoke calls id k) s fun result u =>
      result = .ok () ∧ ∃ ended t, P ended t ∧ u = { t with held := t.held.erase x.lock } := by
  obtain ⟨limit, ended, t, hon, hover, hP⟩ := settles_handle hcall
  exact ⟨limit, .ok (), _, fun depth hdepth =>
    on_invoke_serialized _ hslot hserial hfree (hon depth hdepth) hover, rfl, rfl, ended, t, hP, rfl⟩

end System

end NamespaceLogging
