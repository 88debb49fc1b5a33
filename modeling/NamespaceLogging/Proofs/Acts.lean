import NamespaceLogging.System.Act

/-!
# What acts do in a state

Equations for `Act.on`: an act is understood by what it gives in a state, and by the state
afterwards.

## Main results

* `Act.on_bind`: one act after the other.
* `Act.on_contain`, `Act.on_after`: panics that become values, and changes at the end of an act.
-/

set_option autoImplicit false

namespace NamespaceLogging

namespace Act

variable {α β : Type} {s : System}

/-- An act that only returns a value leaves the state as it is. -/
@[simp]
theorem on_pure (a : α) : (pure a : Act α).on s = (.ok a, s) := rfl

/-- An act that only stops leaves the state as it is. -/
@[simp]
theorem on_throw (stop : Stop) : (throw stop : Act α).on s = (.error stop, s) := rfl

/-- Reading the state returns it and leaves it as it is. -/
@[simp]
theorem on_get : (get : Act System).on s = (.ok s, s) := rfl

/-- Changing the state always ends normally, in the changed state. -/
@[simp]
theorem on_modify (f : System → System) : (modify f : Act Unit).on s = (.ok (), f s) := rfl

/-- Changing the state with a result ends normally, with the result and in the changed state. -/
@[simp]
theorem on_modifyGet (f : System → α × System) :
    (modifyGet f : Act α).on s = (.ok (f s).1, (f s).2) := rfl

/-- One act after the other: the second one begins where the first one ended, unless that has
stopped. -/
theorem on_bind (act : Act α) (f : α → Act β) :
    (act >>= f).on s =
      match act.on s with
      | (.ok a, t) => (f a).on t
      | (.error stop, t) => (.error stop, t) := by
  simp only [on, ExceptT.run_bind, StateT.run_bind]
  rcases act.run.run s with ⟨_ | _, t⟩ <;> rfl

/-- An act that gives a value is followed by the next one. -/
theorem on_bind_of_ok {act : Act α} {a : α} {t : System} (h : act.on s = (.ok a, t))
    (f : α → Act β) : (act >>= f).on s = (f a).on t := by
  rw [on_bind, h]

/-- An act that stops is not followed by anything. -/
theorem on_bind_of_error {act : Act α} {stop : Stop} {t : System} (h : act.on s = (.error stop, t))
    (f : α → Act β) : (act >>= f).on s = (.error stop, t) := by
  rw [on_bind, h]

/-- An act whose panics are contained: a panic becomes a result, in the state in which it happened;
all other stops go on. -/
theorem on_contain (act : Act α) :
    act.contain.on s =
      match act.on s with
      | (.ok a, t) => (.ok (.ok a), t)
      | (.error (.panicked payload), t) => (.ok (.error payload), t)
      | (.error stop, t) => (.error stop, t) := by
  simp only [contain, on, ExceptT.run_mk, StateT.run_bind]
  rcases act.run.run s with ⟨(_ | _ | _ | _) | _, t⟩ <;> rfl

/-- An act with a change behind it: the change is made when the act is over, by a panic as well, but
not when it has stalled. -/
theorem on_after (act : Act α) (change : System → System) :
    (act.after change).on s =
      ((act.on s).1, if isOver (act.on s).1 then change (act.on s).2 else (act.on s).2) := by
  obtain ⟨r, t, h⟩ : ∃ r t, act.run.run s = (r, t) := ⟨_, _, rfl⟩
  simp only [after, on, ExceptT.run_mk, StateT.run_bind, h]
  change StateT.run (if isOver r = true then _ else _) t = _
  split <;> rfl

/-- A value that is required is there, or the act stops; the state stays. -/
theorem on_require (what : String) (o : Option α) :
    (require what o).on s =
      match o with
      | some a => (.ok a, s)
      | none => (.error (.missing what), s) := by
  cases o <;> rfl

end Act

end NamespaceLogging
