import NamespaceLogging.System.Basic

/-!
# What the journal says of one engine

The history of a system is the list of the entries of its journal, the oldest one first.  These
functions read from it what happened to one engine.

## Main definitions

* `Entry.engine?`: the engine that an entry is about.
* `History.pushed`, `History.discarded`: the objects that joined and left the queue.
* `History.batches`, `History.outcomes`, `History.failures`: the batches that were handed over, and
  how they ended.
* `History.closings`: the calls of the shutdown hook.
* `History.announced`: the announcement of an engine that failed too often.
* `History.Idle`: no batch is being processed.
-/

set_option autoImplicit false

namespace NamespaceLogging

/-- The engine that an entry is about. -/
def Entry.engine? : Entry → Option EngineId
  | hook e _ | batchOver e _ | closed e | crashed e | activated e _ _ | deactivated e _
  | disabled e _ _ | queued e _ | discarded e _ => some e
  | _ => none

namespace History

/-- The objects that joined the engine's queue, in order. -/
def pushed (e : EngineId) (h : List Entry) : List String :=
  h.filterMap fun
    | .queued engine object => if engine = e then some object else none
    | _ => none

/-- The batches that were handed to the engine's sink, in order. -/
def batches (e : EngineId) (h : List Entry) : List (List String) :=
  h.filterMap fun
    | .hook engine (.batch objects) => if engine = e then some objects else none
    | _ => none

/-- How the engine's batches ended, in order: each with an error, if it failed. -/
def outcomes (e : EngineId) (h : List Entry) : List (Option AspectError) :=
  h.filterMap fun
    | .batchOver engine error => if engine = e then some error else none
    | _ => none

/-- The objects that left the engine's queue without being handed over, in order. -/
def discarded (e : EngineId) (h : List Entry) : List String :=
  h.flatMap fun
    | .discarded engine objects => if engine = e then objects else []
    | _ => []

/-- The number of the engine's batches that failed. -/
def failures (e : EngineId) (h : List Entry) : Nat := (outcomes e h).countP Option.isSome

/-- The number of calls of the shutdown hook of the engine's sink. -/
def closings (e : EngineId) (h : List Entry) : Nat :=
  h.countP fun
    | .hook engine .shutdown => engine == e
    | _ => false

/-- What the engine announced at its end, if it failed too often: how many batches had failed, and the
last error. -/
def announced (e : EngineId) (h : List Entry) : List (Nat × AspectError) :=
  h.filterMap fun
    | .disabled engine errors error => if engine = e then some (errors, error) else none
    | _ => none

/-- Every batch that was handed to the engine's sink is over. -/
def Idle (e : EngineId) (h : List Entry) : Prop := (outcomes e h).length = (batches e h).length

/-! ## Histories that go on -/

variable {e : EngineId} {h h₁ h₂ : List Entry} {entry : Entry}

/-- What joined the queue in a history that goes on: first what joined it in the beginning, then the
rest. -/
@[simp]
theorem pushed_append : pushed e (h₁ ++ h₂) = pushed e h₁ ++ pushed e h₂ :=
  List.filterMap_append

/-- The batches of a history that goes on are those of its beginning, and then those of the rest. -/
@[simp]
theorem batches_append : batches e (h₁ ++ h₂) = batches e h₁ ++ batches e h₂ :=
  List.filterMap_append

/-- How batches ended in a history that goes on: first those of its beginning, then those of the
rest. -/
@[simp]
theorem outcomes_append : outcomes e (h₁ ++ h₂) = outcomes e h₁ ++ outcomes e h₂ :=
  List.filterMap_append

/-- What was dropped in a history that goes on: first what was dropped in its beginning, then the
rest. -/
@[simp]
theorem discarded_append : discarded e (h₁ ++ h₂) = discarded e h₁ ++ discarded e h₂ :=
  List.flatMap_append

/-- Failures add up when a history goes on. -/
@[simp]
theorem failures_append : failures e (h₁ ++ h₂) = failures e h₁ + failures e h₂ := by
  simp [failures]

/-- Calls of the shutdown hook add up when a history goes on. -/
@[simp]
theorem closings_append : closings e (h₁ ++ h₂) = closings e h₁ + closings e h₂ :=
  List.countP_append

/-- An entry for an object that joins the queue counts as that object alone. -/
@[simp]
theorem pushed_queued (object : String) : pushed e [.queued e object] = [object] := by
  simp [pushed]

/-- A call of the batch hook counts as the one batch that the hook is handed. -/
@[simp]
theorem batches_batch (objects : List String) :
    batches e [.hook e (.batch objects)] = [objects] := by
  simp [batches]

/-- An entry for the end of a batch counts as one outcome, which is its error or none. -/
@[simp]
theorem outcomes_batchOver (error : Option AspectError) :
    outcomes e [.batchOver e error] = [error] := by
  simp [outcomes]

/-- An entry for objects that are dropped counts as these objects, in their order. -/
@[simp]
theorem discarded_discarded (objects : List String) :
    discarded e [.discarded e objects] = objects := by
  simp [discarded]

/-- A call of the shutdown hook counts once. -/
@[simp]
theorem closings_shutdown : closings e [.hook e .shutdown] = 1 := by
  simp [closings]

/-- What an engine announced in a history that goes on: first what it announced in the beginning,
then the rest. -/
@[simp]
theorem announced_append : announced e (h₁ ++ h₂) = announced e h₁ ++ announced e h₂ :=
  List.filterMap_append

/-- The entry for a last record counts as one announcement, with its number and its error. -/
@[simp]
theorem announced_disabled (errors : Nat) (error : AspectError) :
    announced e [.disabled e errors error] = [(errors, error)] := by
  simp [announced]

/-- An engine has announced nothing just if no entry says that it was disabled, with whatever number
and error. -/
theorem announced_eq_nil_iff : announced e h = [] ↔ ∀ n error, Entry.disabled e n error ∉ h := by
  rw [announced, List.filterMap_eq_nil_iff]
  constructor
  · intro none n error mem
    simpa using none _ mem
  · intro none entry mem
    cases entry with
    | disabled engine n error =>
      have ne : engine ≠ e := by
        rintro rfl
        exact none n error mem
      simp [ne]
    | _ => rfl

/-- The shutdown hook stands in a history just if it was counted there at least once. -/
theorem mem_shutdown_iff : Entry.hook e .shutdown ∈ h ↔ 0 < closings e h := by
  rw [closings, List.countP_pos_iff]
  constructor
  · exact fun mem => ⟨_, mem, by simp⟩
  · rintro ⟨entry, mem, eq⟩
    cases entry with
    | hook engine called => cases called <;> simp_all
    | _ => simp at eq

/-- A history that tells nothing about an engine. -/
structure Silent (e : EngineId) (h : List Entry) : Prop where
  pushed : pushed e h = []
  batches : batches e h = []
  outcomes : outcomes e h = []
  discarded : discarded e h = []
  failures : failures e h = 0
  closings : closings e h = 0

/-- An entry about another engine, or about none, tells nothing about an engine. -/
theorem silent_singleton (ne : entry.engine? ≠ some e) : Silent e [entry] := by
  cases entry with
  | hook engine called =>
    cases called <;> constructor <;>
      simp_all [Entry.engine?, History.pushed, History.batches, History.outcomes,
        History.discarded, History.failures, History.closings]
  | _ =>
    constructor <;>
      simp_all [Entry.engine?, History.pushed, History.batches, History.outcomes,
        History.discarded, History.failures, History.closings]

/-- A history that is put together from two which tell nothing about an engine tells nothing about
it either. -/
theorem Silent.append (a : Silent e h₁) (b : Silent e h₂) : Silent e (h₁ ++ h₂) := by
  constructor <;> simp [a.pushed, a.batches, a.outcomes, a.discarded, a.failures, a.closings,
    b.pushed, b.batches, b.outcomes, b.discarded, b.failures, b.closings]

/-- A history tells nothing about an engine if none of its entries is about it. -/
theorem silent_of_forall : ∀ {h : List Entry}, (∀ entry ∈ h, entry.engine? ≠ some e) → Silent e h
  | [], _ => ⟨rfl, rfl, rfl, rfl, rfl, rfl⟩
  | _ :: _, ne =>
    (silent_singleton (ne _ List.mem_cons_self)).append
      (silent_of_forall fun entry mem => ne entry (List.mem_cons_of_mem _ mem))

end History

end NamespaceLogging
