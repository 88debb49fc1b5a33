import NamespaceLogging.Proofs.RegularObjects

/-!
# Regular hooks

What the hooks of an engine's sink do is regular, whatever their scripts say: a script can only use
the system, and a built-in sink only changes itself and what was written.

## Main results

* `System.regular_runScript`: a script is regular if the calls back into the system are.
* `System.regular_runInit`, `System.regular_runBatch`, `System.regular_runShutdown`,
  `System.regular_runRecord`: the four hooks.
-/

set_option autoImplicit false

namespace NamespaceLogging

open Act

namespace System

variable {s t : System} {e : EngineId} {x y : Engine}

/-! ## Looking at an engine and changing it -/

/-- Looking an engine up returns it, or stops if there is no such engine. -/
lemma on_engine (e : EngineId) : (engine e).on s =
    match s.engines[e]? with
    | some x => (.ok x, s)
    | none => (.error (.missing "engine"), s) := by
  simp only [engine, on_bind, on_get]
  cases s.engines[e]? <;> rfl

/-- Looking up an engine that is there returns it and changes nothing. -/
lemma on_engine_of_some (hx : s.engines[e]? = some x) : (engine e).on s = (.ok x, s) := by
  rw [on_engine, hx]

/-- What follows when an engine is looked at. -/
lemma regularAt_engine {α : Type} {f : Engine → Act α}
    (hf : ∀ x, s.engines[e]? = some x → (f x).RegularAt s) : (engine e >>= f).RegularAt s := by
  refine (regular_engine e s).bind fun x t hon => ?_
  rw [on_engine] at hon
  cases hx : s.engines[e]? with
  | none => simp [hx] at hon
  | some z =>
    simp only [hx, Prod.mk.injEq, Except.ok.injEq] at hon
    obtain ⟨rfl, rfl⟩ := hon
    exact hf z hx

/-- Changing an engine always ends normally. -/
@[simp]
lemma on_updateEngine (e : EngineId) (f : Engine → Engine) :
    (updateEngine e f).on s = (.ok (), s.onEngine e f) := rfl

/-- Writing an entry down always ends normally. -/
@[simp]
lemma on_note (entry : Entry) : (note entry).on s = (.ok (), s.noted entry) := rfl

/-- An engine that does not exist cannot be changed. -/
lemma onEngine_of_none {f : Engine → Engine} (hx : s.engines[e]? = none) : s.onEngine e f = s := by
  have hsame : s.engines.modify e f = s.engines := by
    refine List.ext_getElem? fun i => ?_
    rw [List.getElem?_modify]
    split
    · rename_i heq
      rw [← heq, hx]
      rfl
    · simp
  simp [onEngine, hsame]

/-- All engines are in balance if one is, and all others are. -/
lemma balanced_of_but (hbut : BalancedBut e s t) (hx : s.engines[e]? = some x)
    (hy : t.engines[e]? = some y) (hxy : Engine.Balanced e s.history x t.history y) :
    s.Balanced t := by
  refine ⟨fun i => ?_, hbut.lists⟩
  by_cases hi : i = e
  · subst hi
    refine ⟨fun x' hx' => ?_, fun hnone => ?_⟩
    · obtain rfl : x = x' := Option.some.inj (hx.symm.trans hx')
      exact ⟨y, hy, hxy⟩
    · rw [hx] at hnone
      simp at hnone
  · exact hbut.others i hi

/-- A sink that changes by its own work, or a hook that is counted. -/
lemma regularAt_tune {f : Engine → Engine}
    (hf : ∀ x, s.engines[e]? = some x →
      ∃ sink calls, sink.name = x.sink.name ∧ f x = { x with sink := sink, calls := calls }) :
    (updateEngine e f).RegularAt s := by
  cases hx : s.engines[e]? with
  | none => exact regularAt_of_eq (onEngine_of_none hx)
  | some x =>
    intro _
    obtain ⟨sink, calls, hname, heq⟩ := hf x hx
    have hbut : BalancedBut e s (s.onEngine e f) :=
      balancedBut_onEngine hx (by rw [heq]) (by rw [heq]) (by rw [heq])
    refine ⟨.single (.shift f hx heq (.tune sink calls hname)), fun _ =>
      balanced_of_but hbut hx (engines_onEngine_self hx) ?_⟩
    rw [heq]
    exact .of_same rfl .rfl rfl rfl rfl rfl (fun h => h) (fun h => h) rfl

/-- A built-in sink has worked. -/
lemma regularAt_withStream {sink : StreamSink} (hx : s.engines[e]? = some x)
    (hname : sink.name = x.sink.name) : (updateEngine e (Engine.withStream sink)).RegularAt s := by
  refine regularAt_tune fun y hy => ?_
  obtain rfl : x = y := Option.some.inj (hx.symm.trans hy)
  exact ⟨.stream sink, x.calls, hname, rfl⟩

/-! ## Hooks -/

section Hooks

variable {calls : Reentry} (hcalls : calls.Regular)

include hcalls

/-- **A script is regular.** -/
lemma regular_runScript (name : String) : ∀ moves, (runScript calls name moves).Regular
  | [] => regular_pure _
  | .panic payload :: _ => regular_throw _
  | .fail error :: _ => regular_pure _
  | .take word step :: moves => by
    refine (hcalls.perform step).bind fun answer => (regular_note rfl).bind fun _ => ?_
    exact regular_runScript name moves

/-- The init hook runs the script of the sink, or opens its target. -/
lemma regular_runInit (e : EngineId) : (runInit calls e).Regular := by
  refine fun s => regularAt_engine fun x hx => ?_
  cases hsink : x.sink with
  | scripted behaviour =>
    refine (regularAt_tune fun y _ => ?_).bind fun _ t _ => regular_runScript hcalls _ _ t
    exact ⟨y.sink, _, rfl, rfl⟩
  | stream sink =>
    have hname : (sink.start s.media).2.1.name = x.sink.name := by
      rw [hsink]
      exact sink.name_start _
    refine regularAt_get ((regular_setMedia _ s).bind fun _ t hon => ?_)
    obtain rfl : { s with media := _ } = t := (Prod.mk.inj hon).2
    refine (regularAt_withStream ?_ hname).bind fun _ t _ => regular_pure _ t
    exact hx

/-- The batch hook runs the script of the sink, or writes the batch to its target. -/
lemma regular_runBatch (e : EngineId) (batch : List String) : (runBatch calls e batch).Regular := by
  refine fun s => regularAt_engine fun x hx => ?_
  cases hsink : x.sink with
  | scripted behaviour =>
    refine (regularAt_tune fun y _ => ?_).bind fun _ t _ => regular_runScript hcalls _ _ t
    exact ⟨y.sink, _, rfl, rfl⟩
  | stream sink =>
    have hname : (sink.process batch s.media).2.1.name = x.sink.name := by
      rw [hsink]
      exact sink.name_process _ _
    refine regularAt_get ((regular_setMedia _ s).bind fun _ t hon => ?_)
    obtain rfl : { s with media := _ } = t := (Prod.mk.inj hon).2
    refine (regularAt_withStream ?_ hname).bind fun _ t _ => regular_pure _ t
    exact hx

/-- The shutdown hook runs the script of the sink, or closes its target. -/
lemma regular_runShutdown (e : EngineId) : (runShutdown calls e).Regular := by
  refine fun s => regularAt_engine fun x hx => ?_
  cases hsink : x.sink with
  | scripted behaviour =>
    refine (regularAt_tune fun y _ => ?_).bind fun _ t _ =>
      ((regular_runScript hcalls _ _).bind fun _ => regular_pure _) t
    exact ⟨y.sink, _, rfl, rfl⟩
  | stream sink =>
    have hname : (sink.stop s.media).1.name = x.sink.name := by
      rw [hsink]
      exact sink.name_stop _
    refine regularAt_get ((regular_setMedia _ s).bind fun _ t hon => ?_)
    obtain rfl : { s with media := _ } = t := (Prod.mk.inj hon).2
    refine regularAt_withStream ?_ hname
    exact hx

/-- The hook that makes an object of a record runs the script of the sink, or lays the record
out. -/
lemma regular_runRecord (e : EngineId) (id : RecordId) : (runRecord calls e id).Regular := by
  refine fun s => regularAt_engine fun x _ => ((regular_record id).bind fun r => ?_) s
  cases x.sink with
  | scripted behaviour =>
    dsimp only
    split
    · exact regular_pure _
    · refine (regular_renderMessage id).bind fun r => ?_
      refine Regular.bind (fun s => regularAt_tune fun y _ => ⟨y.sink, _, rfl, rfl⟩) fun _ => ?_
      exact (regular_runScript hcalls _ _).bind fun _ => regular_pure _
  | stream sink =>
    refine (regular_orPanic _).bind fun line => ?_
    cases line with
    | none => exact regular_pure _
    | some line => exact (regular_updateRecord _ _).bind fun _ => regular_pure _

end Hooks

end System

end NamespaceLogging
