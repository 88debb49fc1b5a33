import NamespaceLogging.Proofs.RegularRouters
import NamespaceLogging.Session.Perform

/-!
# Regular steps

Every step is regular, to any depth of nesting: whatever a program does, it makes one change after the
other, and when a step is over, all is in balance.

## Main results

* `System.regular_perform`: a step is regular if the calls back into the system are.
* `Reentry.regular_upTo`: these calls are regular, to any depth.
-/

set_option autoImplicit false

namespace NamespaceLogging

open Act

namespace System

/-! ## Names and values -/

/-- Looking an object up by its name only reads the state, and stops if there is none. -/
lemma regular_named {α : Type} (names : Names → List (String × α)) (name : String) :
    (named names name).Regular :=
  regular_get fun s => regular_require _ _ s

/-- Looking for the name of a router only reads the state. -/
lemma regular_routerName (r : RouterId) : (routerName r).Regular := by
  refine regular_get fun s => ?_
  split <;> exact regular_pure _ s

/-- The same for a router that there may be or not. -/
lemma regular_routerName? (r : Option RouterId) : (routerName? r).Regular := by
  cases r with
  | none => exact regular_pure _
  | some r => exact (regular_routerName r).bind fun _ => regular_pure _

/-- Giving a handler a name changes nothing but the names. -/
lemma regular_nameHandler (name : String) (h : HandlerRef) : (nameHandler name h).Regular :=
  regular_updateNames _

/-- What is done with a router that is looked up by name is regular if it is so for each router. -/
lemma regular_withNamed (name : String) {act : RouterId → Act Answer} (hact : ∀ r, (act r).Regular) :
    (withNamed name act).Regular :=
  (regular_named _ name).bind fun r => regular_keeping r (hact r)

/-- What is done with a memory handler that is looked up by name is regular if it is so for each
handler. -/
lemma regular_withMemory (name : String) {act : HandlerId → Act Answer}
    (hact : ∀ h, (act h).Regular) : (withMemory name act).Regular := by
  refine (regular_named _ name).bind fun h => ?_
  cases h with
  | plain h => exact hact h
  | engine e => exact regular_throw _

/-- Finding the record that a step names, or making a new one for it, changes no engine. -/
lemma regular_recordFor (argument : RecordArgument) : (recordFor argument).Regular := by
  cases argument with
  | named name => exact regular_named _ name
  | content content => exact regular_makeRecord _ _

/-- An act on a checked value is regular if it is so for each value; a problem is only reported. -/
lemma regular_orProblem {α : Type} (value : Except ConfigError α) {act : α → Act Answer}
    (hact : ∀ a, (act a).Regular) : (orProblem value act).Regular := by
  cases value with
  | error e => exact regular_pure _
  | ok a => exact hact a

section Steps

variable {calls : Reentry} (hcalls : calls.Regular)

include hcalls

/-! ## Routers -/

/-- The control of an attached engine asks the engine for its status, flushes it or stops it, which
all are regular. -/
lemma regular_control (r : RouterId) (index : Nat) (action : ControlAction) :
    (performRouter calls r (.control index action)).Regular := by
  refine (regular_router r).bind fun y => ?_
  split
  · exact regular_pure _
  · rename_i entry _
    cases action with
    | flush =>
      exact (regular_flush hcalls _).bind fun _ => (regular_engine _).bind fun _ => regular_pure _
    | shutdown =>
      refine (regular_stopEngine hcalls _).bind fun _ => ?_
      exact (regular_engine _).bind fun _ => regular_pure _

/-- **Every step at a router is regular**: there is one case for each step, and each of them is put
together from acts that are regular. -/
lemma regular_performRouter (r : RouterId) (step : RouterStep) :
    (performRouter calls r step).Regular := by
  cases step with
  | log call => exact (regular_log hcalls r call).bind fun _ => regular_pure _
  | dispatch argument =>
    refine (regular_recordFor argument).bind fun id => ?_
    exact (regular_dispatch hcalls r id).bind fun _ => regular_pure _
  | logLazily call => exact (regular_logLazily hcalls r call).bind fun _ => regular_pure _
  | isEnabled level => exact (regular_isEnabled r level).bind fun _ => regular_pure _
  | filter => exact (regular_levelFilter r).bind fun _ => regular_pure _
  | setFilter filter =>
    exact regular_orProblem _ fun set => (regular_setFilter r set).bind fun _ => regular_pure _
  | setCapture on =>
    exact (regular_updateRouter r (keeps_capture on)).bind fun _ => regular_pure _
  | register ns name =>
    refine (regular_named _ name).bind fun h => ?_
    exact (regular_register r ns h).bind fun _ => regular_pure _
  | unregister ns => exact (regular_unregister r ns).bind fun _ => regular_pure _
  | addDefault name =>
    refine (regular_named _ name).bind fun h => ?_
    exact (regular_addDefault r h).bind fun _ => regular_pure _
  | removeDefault id => exact (regular_removeDefault r id).bind fun _ => regular_pure _
  | resolve ns keep =>
    refine (regular_resolve r ns).bind fun destination => ?_
    cases keep <;> cases destination <;>
      first
      | exact regular_pure _
      | exact (regular_updateNames _).bind fun _ => regular_pure _
  | registrations => exact (regular_router r).bind fun _ => regular_pure _
  | cached => exact (regular_router r).bind fun _ => regular_pure _
  | clearRegistry => exact (regular_clearRegistry r).bind fun _ => regular_pure _
  | aspects =>
    refine (regular_router r).bind fun y => ?_
    exact (regular_mapM _ fun entry _ => regular_engine entry.2).bind fun _ => regular_pure _
  | control index action => exact regular_control hcalls r index action
  | shutdown => exact (regular_shutdown hcalls r).bind fun _ => regular_pure _
  | isShutDown => exact (regular_router r).bind fun _ => regular_pure _
  | install =>
    refine regular_get fun s => RegularAt.bind (regular_modify (fun s => ?_) s) fun _ t _ =>
      regular_routerName? _ t
    exact quiet_of_eq rfl rfl rfl rfl rfl

/-! ## Other objects -/

omit hcalls in
/-- A new handler is put behind the others and gets a name.  A gate needs a group, which is looked
up by its name or is that of a router. -/
lemma regular_makeHandler (name : String) (plan : HandlerPlan Step) :
    (makeHandler name plan).Regular := by
  cases plan with
  | memory =>
    refine (regular_newHandler _).bind fun h => ?_
    exact (regular_nameHandler name _).bind fun _ => regular_pure _
  | stderr layout =>
    refine regular_orProblem _ fun layout => (regular_newHandler _).bind fun h => ?_
    exact (regular_nameHandler name _).bind fun _ => regular_pure _
  | scripted behaviour =>
    refine (regular_newHandler _).bind fun h => ?_
    exact (regular_nameHandler name _).bind fun _ => regular_pure _
  | gate filter group routerName =>
    refine regular_orProblem _ fun set => ?_
    cases group with
    | some group =>
      refine (regular_named _ group).bind fun next => (regular_newHandler _).bind fun h => ?_
      exact (regular_nameHandler name _).bind fun _ => regular_pure _
    | none =>
      refine (regular_named _ routerName).bind fun r => (regular_router r).bind fun y => ?_
      refine (regular_pure _).bind fun next => (regular_newHandler _).bind fun h => ?_
      exact (regular_nameHandler name _).bind fun _ => regular_pure _

/-- A step at a handler passes it a record, tells it that the end is near, or looks at the records
that it keeps. -/
lemma regular_performHandler (name : String) (step : HandlerStep) :
    (performHandler calls name step).Regular := by
  cases step with
  | drain =>
    exact regular_withMemory name fun h => (regular_drainMemory h).bind fun _ => regular_pure _
  | size =>
    exact regular_withMemory name fun h => (regular_memoryRecords h).bind fun _ => regular_pure _
  | handle argument =>
    refine (regular_named _ name).bind fun h => (regular_recordFor argument).bind fun id => ?_
    exact (hcalls.handle h id).bind fun _ => regular_pure _
  | die =>
    refine (regular_named _ name).bind fun h => ?_
    exact (regular_prepareToDie hcalls h).bind fun _ => regular_pure _
  | serializes =>
    refine (regular_named _ name).bind fun h => ?_
    exact (regular_serializes h).bind fun _ => regular_pure _
  -- the records, or their stacks
  | _ =>
    exact regular_withMemory name fun h => (regular_inspectMemory h).bind fun _ => regular_pure _

/-- A step at a slot passes a record to its handler, tells the handler that the end is near, or asks
which one it is. -/
lemma regular_performSlot (id : SlotId) (step : SlotStep) : (performSlot calls id step).Regular := by
  cases step with
  | invoke argument =>
    refine (regular_recordFor argument).bind fun r => ?_
    exact (regular_invoke hcalls id r).bind fun _ => regular_pure _
  | die => exact (regular_dieSlot hcalls id).bind fun _ => regular_pure _
  | holds name =>
    refine (regular_slot id).bind fun slot => ?_
    exact (regular_named _ name).bind fun h => regular_pure _

/-- A step at a group adds a member, takes members out, or passes them a record. -/
lemma regular_performGroup (g : GroupId) (step : GroupStep) :
    (performGroup calls g step).Regular := by
  cases step with
  | add name shared =>
    refine (regular_named _ name).bind fun h => ?_
    cases shared with
    | true => exact regular_addShared g h
    | false => exact regular_addOwn g h
  | remove id => exact (regular_withdraw g id).bind fun _ => regular_pure _
  | dispatch argument =>
    refine (regular_recordFor argument).bind fun r => ?_
    exact (regular_dispatchGroup hcalls g r).bind fun _ => regular_pure _
  | clear => exact (regular_withdrawAll g).bind fun _ => regular_pure _
  | members => exact (regular_group g).bind fun _ => regular_pure _

omit hcalls in
/-- A new engine is put at the end of the engines and gets a name. -/
lemma regular_makeEngine (name : String) (threshold : Nat) (plan : SinkPlan Step) :
    (makeEngine name threshold plan).Regular := by
  have hmake : ∀ sink : Sink, (do
      let e ← newEngine (.make sink (.ofNat threshold))
      nameHandler name (.engine e)
      updateNames fun n => { n with engines := Names.bind name e n.engines }
      return .done : Act Answer).Regular := fun sink =>
    (regular_newEngine sink _).bind fun e => (regular_nameHandler name _).bind fun _ =>
      (regular_updateNames _).bind fun _ => regular_pure _
  cases plan with
  | scripted behaviour => exact hmake _
  | stream target layout filter =>
    exact regular_orProblem _ fun layout => regular_orProblem _ fun set => hmake _

/-- **Every step at an engine is regular**: it starts, drains, flushes or stops the engine, gives it
a record, or only looks at it. -/
lemma regular_performEngine (e : EngineId) (step : EngineStep) :
    (performEngine calls e step).Regular := by
  cases step with
  | init name =>
    exact regular_withNamed name fun r => (regular_initEngine hcalls e r).bind fun _ =>
      regular_pure _
  | stop => exact (regular_stopEngine hcalls e).bind fun _ => regular_pure _
  | flush => exact (regular_flush hcalls e).bind fun _ => regular_pure _
  | tryDrain => exact (regular_tryDrain hcalls e).bind fun _ => regular_pure _
  | report => exact (regular_engine e).bind fun _ => regular_pure _
  | debugText => exact (regular_engine e).bind fun _ => regular_pure _

omit hcalls in
/-- A stream sink that stands alone works, and what was written changes. -/
lemma regular_workStream {α : Type} (name : String)
    (work : StreamSink → Media → α × StreamSink × Media) (answer : α → Answer) :
    (do
      let id ← named Names.streams name
      let (result, sink, media) := work (← stream id) (← get).media
      setMedia media
      updateStream id fun _ => sink
      return answer result : Act Answer).Regular := by
  refine (regular_named _ name).bind fun id => (regular_stream id).bind fun sink => ?_
  exact regular_get fun s => ((regular_setMedia _).bind fun _ => (regular_updateStream _ _).bind
    fun _ => regular_pure _) s

omit hcalls in
/-- A step at a stream sink that belongs to no engine writes to its target, and touches no
engine. -/
lemma regular_performStream (name : String) (step : StreamStep) :
    (performStream name step).Regular := by
  cases step with
  | make target layout filter =>
    refine regular_orProblem _ fun layout => regular_orProblem _ fun set => ?_
    refine (regular_newStream _).bind fun id => ?_
    exact (regular_updateNames _).bind fun _ => regular_pure _
  | start => exact regular_workStream name (fun sink media => sink.start media) Answer.doneOr
  | process batch =>
    exact regular_workStream name (fun sink media => sink.process batch media) Answer.doneOr
  | line argument =>
    refine (regular_named _ name).bind fun id => (regular_stream id).bind fun sink => ?_
    refine (regular_recordFor argument).bind fun id => (regular_record id).bind fun r => ?_
    refine (regular_orPanic _).bind fun line => ?_
    cases line with
    | none => exact regular_pure _
    | some line => exact (regular_updateRecord _ _).bind fun _ => regular_pure _
  | stop =>
    exact regular_workStream name (fun sink media => ((), sink.stop media)) fun _ => .nothing
  | info =>
    refine (regular_named _ name).bind fun id => ?_
    exact (regular_stream id).bind fun _ => regular_pure _

omit hcalls in
/-- A step at a file changes the media alone. -/
lemma regular_performFile (step : FileStep) : (performFile step).Regular := by
  cases step with
  | read path => exact regular_get fun s => regular_pure _ s
  | write path text =>
    exact regular_get fun s => ((regular_setMedia _).bind fun _ => regular_pure _) s
  | load path =>
    refine regular_get fun s => ?_
    split <;> exact regular_pure _ s

omit hcalls in
/-- Taking the router of the whole program away leaves the router itself as it is. -/
lemma regular_takeGlobal : takeGlobal.Regular :=
  regular_modifyGet fun _ => quiet_of_eq rfl rfl rfl rfl rfl

/-- A step at the router of the whole program sets it, takes it away or logs through it. -/
lemma regular_performGlobal (step : GlobalStep) : (performGlobal calls step).Regular := by
  cases step with
  | current => exact regular_get fun s => regular_routerName? _ s
  | ifEnabled level =>
    refine regular_get fun s => ?_
    split
    · refine Regular.bind (regular_isEnabled _ level) (fun enabled => ?_) s
      split
      · exact regular_routerName? _
      · exact regular_pure _
    · exact regular_pure _ s
  | take => exact regular_takeGlobal.bind fun r => regular_routerName? r
  | shutdown =>
    refine regular_takeGlobal.bind fun r => ?_
    cases r with
    | some r =>
      exact (regular_keeping r (regular_shutdown hcalls r)).bind fun _ => regular_pure _
    | none => exact regular_pure _
  | logLazily call =>
    refine regular_get fun s => ?_
    split
    · exact regular_keeping _ ((regular_logLazily hcalls _ call).bind fun _ => regular_pure _) s
    · exact regular_pure _ s

/-! ## Logging from many threads -/

/-- Numbered log calls, one after the other, are regular.  The induction is on the numbers. -/
lemma regular_logNumbered (r : RouterId) (ns : String) (sender : Nat) :
    ∀ numbers, (logNumbered calls r ns sender numbers).Regular
  | [] => regular_pure _
  | _ :: numbers => (regular_log hcalls r _).bind fun _ => regular_logNumbered r ns sender numbers

/-- Log calls of several threads, taken one thread after the other, are regular.  The induction is
on the namespaces. -/
lemma regular_logFromThreads (r : RouterId) (each : Nat) :
    ∀ (sender : Nat) spaces, (logFromThreads calls r each sender spaces).Regular
  | _, [] => regular_pure _
  | sender, ns :: spaces =>
    (regular_onThread none (regular_logNumbered hcalls r ns sender _)).bind fun _ =>
      regular_logFromThreads r each (sender + 1) spaces

omit hcalls in
/-- Counting what a handler was given only reads the journal. -/
lemma regular_tallyOf (threads : Nat) (entries : List Entry) (before : HandlerId → Nat)
    (name : String) (h : HandlerRef) : (tallyOf threads entries before name h).Regular := by
  cases h with
  | engine e =>
    refine (regular_engine e).bind fun x => ?_
    split <;> exact regular_pure _
  | plain id =>
    refine (regular_handler id).bind fun x => ?_
    split
    · exact regular_pure _
    · exact (regular_mapM _ fun r _ => regular_renderMessage r).bind fun _ => regular_pure _
    · exact regular_pure _

/-- A step in which several threads log is regular, also if it ends with a panic since something
else happened than receipts. -/
lemma regular_performParallel (r : RouterId) (spaces : List String) (each : Nat) :
    (performParallel calls r spaces each).Regular := by
  refine regular_get fun s => Regular.bind (regular_note rfl) (fun _ => ?_) s
  have hlogging : (do
      logFromThreads calls r each 0 spaces
      s.names.engines.forM fun entry => flush calls entry.2 : Act Unit).Regular :=
    (regular_logFromThreads hcalls r each 0 spaces).bind fun _ =>
      regular_forM _ fun entry _ => regular_flush hcalls entry.2
  refine Regular.bind (fun t => (hlogging t).after fun u =>
    ⟨.single (.noted u .parallelEnds rfl), balanced_noted rfl⟩) fun _ => regular_get fun t => ?_
  simp only
  split
  · exact Regular.bind (regular_mapM _ fun entry _ => regular_tallyOf _ _ _ entry.1 entry.2)
      (fun _ => regular_pure _) t
  · exact regular_throw _ t

/-! ## All steps -/

/-- **A step is regular** if the calls back into the system are. -/
theorem regular_perform (step : Step) : (perform calls step).Regular := by
  cases step with
  | makeRouter name filter =>
    refine regular_orProblem _ fun set => (regular_newRouter set).bind fun r => ?_
    exact (regular_updateNames _).bind fun _ => regular_pure _
  | configure name config =>
    refine regular_orProblem _ fun c => (regular_configure hcalls c).bind fun result => ?_
    exact regular_orProblem _ fun r => (regular_updateNames _).bind fun _ => regular_pure _
  | dropRouter name =>
    exact regular_get fun s => ((regular_updateNames _).bind fun _ => regular_pure _) s
  | onRouter name step => exact regular_withNamed name fun r => regular_performRouter hcalls r step
  | dispatchRoute name argument =>
    refine (regular_named _ name).bind fun destination => ?_
    refine (regular_recordFor argument).bind fun id => ?_
    exact (regular_dispatchTo hcalls destination id).bind fun _ => regular_pure _
  | makeHandler name plan => exact regular_makeHandler name plan
  | onHandler name step => exact regular_performHandler hcalls name step
  | makeRecord name content =>
    refine (regular_makeRecord _ _).bind fun id => ?_
    exact (regular_updateNames _).bind fun _ => regular_pure _
  | isRendered argument =>
    refine (regular_recordFor argument).bind fun id => ?_
    exact (regular_record id).bind fun _ => regular_pure _
  | onSlot id step => exact regular_performSlot hcalls id step
  | makeGroup name =>
    exact regular_newGroup.bind fun g => (regular_updateNames _).bind fun _ => regular_pure _
  | onGroup group router step =>
    cases group with
    | some group =>
      exact (regular_named _ group).bind fun g => regular_performGroup hcalls g step
    | none =>
      exact regular_withNamed router fun r => (regular_router r).bind fun y =>
        regular_performGroup hcalls y.defaults step
  | makeEngine name threshold plan => exact regular_makeEngine name threshold plan
  | onEngine name step =>
    exact (regular_named _ name).bind fun e => regular_performEngine hcalls e step
  | onStream name step => exact regular_performStream name step
  | onFile step => exact regular_performFile step
  | onGlobal step => exact regular_performGlobal hcalls step
  | thread name steps =>
    refine regular_onThread name ?_
    exact (regular_mapM steps fun step _ => hcalls.perform step).bind fun _ => regular_pure _
  | parallel name spaces each =>
    exact regular_withNamed name fun r => regular_performParallel hcalls r spaces each

end Steps

end System

/-- **The calls back into the system are regular**, to any depth. -/
theorem Reentry.regular_upTo : ∀ depth, (Reentry.upTo depth).Regular
  | 0 => ⟨fun _ _ => regular_throw _, fun _ => regular_throw _⟩
  | depth + 1 =>
    ⟨System.regular_handle (regular_upTo depth), System.regular_perform (regular_upTo depth)⟩

end NamespaceLogging
