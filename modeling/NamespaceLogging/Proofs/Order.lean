import NamespaceLogging.Proofs.Lives

/-!
# The order of what happens to an engine

An engine's sink can rely on the order in which its hooks are called, and so can whoever reads the
history of an engine: each entry about it is made only after certain others, and never after some.

## Main definitions

* `Engine.Due`: what must have happened, and what must not, when an entry about an engine is made.
* `Engine.Ordered`: every entry about an engine was due.

## Main results

* `Engine.Life.ordered`: at any time, everything that has happened to an engine was due.
-/

set_option autoImplicit false

namespace NamespaceLogging

open History

namespace Engine

variable {e : EngineId} {h : List Entry} {x y : Engine} {entry : Entry}

/-- What has happened to an engine, and what has not, when an entry about it is made; `h` is the
history up to then. -/
def Due (e : EngineId) (h : List Entry) : Entry → Prop
  -- the init hook is not called again after the engine was started
  | .hook _ .init => ∀ r id, Entry.activated e r id ∉ h
  -- a batch is not empty, and is handed over after the start, before the end, and not while another
  -- one is being processed
  | .hook _ (.batch objects) => objects ≠ [] ∧ (∃ r id, Entry.activated e r id ∈ h) ∧ Idle e h ∧
      Entry.hook e .shutdown ∉ h
  -- a batch is over only when it is being processed, and then it is the only one
  | .batchOver _ _ => (batches e h).length = (outcomes e h).length + 1
  -- the shutdown hook is called once, when the engine has ended
  | .hook _ .shutdown => (∃ why, Entry.deactivated e why ∈ h) ∧ Entry.hook e .shutdown ∉ h
  -- an engine is started once, after its init hook was called
  | .activated _ _ _ => Entry.hook e .init ∈ h ∧ ∀ r id, Entry.activated e r id ∉ h
  -- an engine ends once, after it was started
  | .deactivated _ _ => (∃ r id, Entry.activated e r id ∈ h) ∧ ∀ why, Entry.deactivated e why ∉ h
  -- objects are dropped only after the shutdown hook was called
  | .discarded _ _ => Entry.hook e .shutdown ∈ h
  -- an engine is disabled once, after it was closed
  | .disabled _ _ _ => Entry.closed e ∈ h ∧ ∀ n error, Entry.disabled e n error ∉ h
  | _ => True

/-- Every entry about the engine was due when it was made. -/
def Ordered (e : EngineId) (h : List Entry) : Prop :=
  ∀ before entry after, h = before ++ entry :: after → entry.engine? = some e → Due e before entry

/-- Nothing is out of order in an empty history. -/
lemma ordered_nil : Ordered e [] := by
  intro before entry after heq
  simp at heq

/-- A history in order goes on with an entry that is due. -/
lemma Ordered.concat (hordered : Ordered e h) (hdue : entry.engine? = some e → Due e h entry) :
    Ordered e (h ++ [entry]) := by
  intro before entry' after heq hentry
  rcases List.eq_nil_or_concat after with rfl | ⟨after, last, rfl⟩
  · obtain ⟨rfl, hlast⟩ := List.append_inj' heq rfl
    cases hlast
    exact hdue hentry
  · rw [List.concat_eq_append, ← List.cons_append, ← List.append_assoc] at heq
    exact hordered before entry' after (List.append_inj' heq rfl).1 hentry

/-- An engine that was disabled has announced its end once. -/
lemma Ordered.announced {before after : List Entry} {n : Nat} {error : AspectError}
    (hordered : Ordered e h) (heq : h = before ++ .disabled e n error :: after) :
    announced e h = [(n, error)] := by
  have hbefore : History.announced e before = [] :=
    announced_eq_nil_iff.mpr (hordered before _ after heq rfl).2
  have hafter : History.announced e after = [] := by
    refine announced_eq_nil_iff.mpr fun n' error' hmem => ?_
    obtain ⟨early, late, rfl⟩ := List.append_of_mem hmem
    have hdue := hordered (before ++ .disabled e n error :: early) (.disabled e n' error') late
      (by simp [heq]) rfl
    exact hdue.2 n error (by simp)
  rw [heq, List.append_cons, announced_append, announced_append, hbefore, hafter]
  simp

namespace Vital

/-- The shutdown hook of an engine that is not closed was not called. -/
lemma not_closing (hvital : Vital e h x) (hclosed : x.closed = false) :
    Entry.hook e .shutdown ∉ h := by
  rw [mem_shutdown_iff, hvital.closings, hclosed]
  simp

/-- An engine that is closed had its shutdown hook called. -/
lemma closing (hvital : Vital e h x) (hclosed : x.closed = true) : Entry.hook e .shutdown ∈ h := by
  rw [mem_shutdown_iff, hvital.closings, hclosed]
  simp

end Vital

/-- Whatever happens to an engine is due. -/
lemma Event.due (hevent : x.Event e h y entry) (hvital : Vital e h x) (hmarked : Marked e h x) :
    Due e h entry := by
  cases hevent with
  | init state starting => exact hmarked.not_started state
  | batch closed queue drainer idle =>
    have hstate : x.state ≠ .uninitialized := fun hstate => queue (hvital.unused hstate).1
    exact ⟨queue, hmarked.started.mp hstate, idle, hvital.not_closing closed⟩
  | succeeded busy => exact hvital.batches.resolve_left fun heq => busy heq.symm
  | failed error busy => exact hvital.batches.resolve_left fun heq => busy heq.symm
  | shutdown state closed => exact ⟨hmarked.ended.mp state, hvital.not_closing closed⟩
  | activated r id state starting init => exact ⟨init, hmarked.not_started state⟩
  | deactivated why state =>
    exact ⟨hmarked.started.mp (by simp [state]), hmarked.not_ended (by simp [state])⟩
  | discarded closed => exact hvital.closing closed
  | disabled errors error closed once => exact ⟨closed, once⟩
  | _ => trivial

/-- **At any time, everything that has happened to an engine was due.** -/
theorem Life.ordered {ms : List Moment} {o : Option Engine} (hlife : Life e ms o) :
    Ordered e (ms.map Moment.entry) := by
  induction hlife with
  | nobody => exact ordered_nil
  | elsewhere life about seen ih =>
    rw [List.map_append]
    exact ih.concat fun hentry => absurd hentry about
  | made life sink threshold ih => exact ih
  | shift life shift ih => exact ih
  | event life event seen ih =>
    rw [List.map_append]
    exact ih.concat fun _ => event.due life.vital life.marked

end Engine

end NamespaceLogging
