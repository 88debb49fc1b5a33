import NamespaceLogging.Proofs.EditingEngines
import NamespaceLogging.Proofs.Programs

/-!
# Steps that edit

Every step makes one edit after the other, to any depth of nesting.  So references are in order in all
states of a program, and in those that it passes through.

## Main definitions

* `System.Public`: nothing is secret.

## Main results

* `System.edits_perform`: a step edits if the calls back into the system do.
* `Reentry.edits_upTo`: these calls do, to any depth.
* `System.Runs.edited`, `System.Reachable.linked`: what programs do, and how they leave references.
-/

set_option autoImplicit false

namespace NamespaceLogging

open Act

namespace System

variable {α : Type} {secret : RecordId → Prop} {s t : System}

/-! ## Names and values -/

/-- Looking for the name of a router makes no edit. -/
lemma edits_routerName (r : RouterId) : (routerName r).Edits secret := by
  refine fun s => gives_get ?_
  split <;> exact gives_pure trivial

/-- The same for a router that there may be or not. -/
lemma edits_routerName? (r : Option RouterId) : (routerName? r).Edits secret := by
  cases r with
  | none => exact edits_pure _
  | some r => exact (edits_routerName r).bind fun _ => edits_pure _

/-- What is done with a router that is looked up by name edits if it does so for each router. -/
lemma edits_withNamed (name : String) {act : RouterId → Act Answer}
    (hact : ∀ r, (act r).Edits secret) : (withNamed name act).Edits secret :=
  edits_named fun r => edits_keeping r (hact r)

/-- What is done with a memory handler that is looked up by name edits if it does so for each
handler. -/
lemma edits_withMemory (name : String) {act : HandlerId → Act Answer}
    (hact : ∀ h, (act h).Edits secret) : (withMemory name act).Edits secret := by
  refine edits_named fun h => ?_
  cases h with
  | plain h => exact hact h
  | engine e => exact edits_throw _

/-- An act on a checked value edits if it does so for each value; a problem is only reported. -/
lemma edits_orProblem (value : Except ConfigError α) {act : α → Act Answer}
    (hact : ∀ a, (act a).Edits secret) : (orProblem value act).Edits secret := by
  cases value with
  | error e => exact edits_pure _
  | ok a => exact hact a

/-- What follows for the record that a step is about. -/
lemma edits_recordFor {β : Type} {f : RecordId → Act β} (argument : RecordArgument)
    (hf : ∀ id, ¬ secret id → (f id).Edits secret) : (recordFor argument >>= f).Edits secret :=
  fun _ => (gives_recordFor argument).bind fun id t _ hopen => hf id hopen t

/-- Names that no reference depends on. -/
lemma edits_updateNames {f : Names → Names}
    (hf : ∀ (s : System) (names : Names), s.Fits secret names → s.Fits secret (f names)) :
    (updateNames f).Edits secret :=
  fun s => gives_updateNames (hf s s.names)

section Steps

variable {calls : Reentry} (hcalls : calls.Edits secret)

include hcalls

/-! ## Routers -/

/-- The control of an attached engine edits, whether it asks for the status, flushes or stops the
engine. -/
lemma edits_control (r : RouterId) (index : Nat) (action : ControlAction) :
    (performRouter calls r (.control index action)).Edits secret := by
  refine fun s => gives_router fun y _ => ?_
  split
  · exact gives_pure trivial
  · rename_i entry _
    have hanswer : (do return .status (← engine entry.2).status : Act Answer).Edits secret :=
      (edits_engine entry.2).bind fun _ => edits_pure _
    cases action with
    | flush => exact ((edits_flush hcalls entry.2).bind fun _ => hanswer) s
    | shutdown => exact ((edits_stopEngine hcalls entry.2).bind fun _ => hanswer) s

/-- A step on a router. -/
lemma edits_performRouter (r : RouterId) (step : RouterStep) :
    (performRouter calls r step).Edits secret := by
  cases step with
  | log call => exact (edits_log hcalls r call).bind fun _ => edits_pure _
  | dispatch argument =>
    exact edits_recordFor argument fun id hopen => (edits_dispatch hcalls hopen r).bind fun _ =>
      edits_pure _
  | logLazily call => exact (edits_logLazily hcalls r call).bind fun _ => edits_pure _
  | isEnabled level => exact (edits_isEnabled r level).bind fun _ => edits_pure _
  | filter => exact (edits_levelFilter r).bind fun _ => edits_pure _
  | setFilter filter =>
    exact edits_orProblem _ fun set => (edits_setFilter r set).bind fun _ => edits_pure _
  | setCapture on =>
    refine Edits.bind (edits_updateRouter fun y => ?_) fun _ => edits_pure _
    exact Router.follows_of_same rfl rfl rfl rfl (.refl _)
  | register ns name =>
    exact fun s => gives_namedHandler fun h hknown => (gives_register ns hknown).bind fun _ _ _ _ =>
      gives_pure trivial
  | unregister ns => exact (edits_unregister r ns).bind fun _ => edits_pure _
  | addDefault name =>
    exact fun s => gives_namedHandler fun h hknown => (gives_addDefault hknown).bind fun _ _ _ _ =>
      gives_pure trivial
  | removeDefault id => exact (edits_removeDefault r id).bind fun _ => edits_pure _
  | resolve ns keep =>
    refine (edits_resolve r ns).bind fun destination => ?_
    have hnames : ∀ name, (updateNames fun n =>
        { n with routes := Names.bind name destination n.routes }).Edits secret :=
      fun name => edits_updateNames fun s names hfits =>
        ⟨hfits.handlers, hfits.engines, hfits.groups, hfits.records⟩
    cases keep <;> cases destination <;>
      first
      | exact edits_pure _
      | exact (hnames _).bind fun _ => edits_pure _
  | registrations => exact fun s => gives_router fun _ _ => gives_pure trivial
  | cached => exact fun s => gives_router fun _ _ => gives_pure trivial
  | clearRegistry => exact (edits_clearRegistry r).bind fun _ => edits_pure _
  | aspects =>
    exact fun s => gives_router fun y _ => Edits.bind (edits_mapM _ fun entry _ =>
      edits_engine entry.2) (fun _ => edits_pure _) s
  | control index action => exact edits_control hcalls r index action
  | shutdown => exact (edits_shutdown hcalls r).bind fun _ => edits_pure _
  | isShutDown => exact fun s => gives_router fun _ _ => gives_pure trivial
  | install =>
    refine fun s => gives_get (Edits.bind (edits_modify fun _ => ?_) (fun _ => edits_routerName? _) s)
    exact beside_of_eq rfl rfl rfl rfl rfl rfl rfl rfl rfl

/-! ## Other objects -/

omit hcalls in
/-- Making a handler and naming it edits: the group of a gate is looked up before. -/
lemma edits_makeHandler (name : String) (plan : HandlerPlan Step) :
    (makeHandler name plan).Edits secret := by
  -- a new handler gets a name
  have hmake : ∀ {s : System} {h : Handler} (answer : Answer),
      (∀ filter g, h = .gate filter g → g < s.groups.length) →
        (do
          nameHandler name (.plain (← newHandler h))
          return answer : Act Answer).Gives secret s fun _ _ => True := fun answer hgate =>
    (gives_newHandler hgate).bind fun n t _ hknown => (gives_nameHandler name hknown).bind
      fun _ _ _ _ => gives_pure trivial
  cases plan with
  | memory => exact fun s => hmake _ (by simp)
  | stderr layout => exact edits_orProblem _ fun layout s => hmake _ (by simp)
  | scripted behaviour => exact fun s => hmake _ (by simp)
  | gate filter group routerName =>
    refine edits_orProblem _ fun set => ?_
    cases group with
    | some group =>
      refine fun s => gives_namedGroup fun next hnext => hmake _ fun filter g heq => ?_
      cases heq
      exact hnext
    | none =>
      refine edits_named fun r s => gives_router fun y hy => gives_of_linked fun hlinked => ?_
      refine hmake _ fun filter g heq => ?_
      cases heq
      exact (hlinked.routers r y hy).defaults

/-- Every step at a handler edits; a record that it passes on is named, and so not secret. -/
lemma edits_performHandler (name : String) (step : HandlerStep) :
    (performHandler calls name step).Edits secret := by
  cases step with
  | drain =>
    exact edits_withMemory name fun h => (edits_drainMemory h).bind fun _ => edits_pure _
  | size =>
    exact edits_withMemory name fun h s => gives_memoryRecords fun _ _ => gives_pure trivial
  | handle argument =>
    exact edits_named fun h => edits_recordFor argument fun id hopen =>
      (hcalls.handle h id hopen).bind fun _ => edits_pure _
  | die => exact edits_named fun h => (edits_prepareToDie hcalls h).bind fun _ => edits_pure _
  | serializes => exact edits_named fun h => (edits_serializes h).bind fun _ => edits_pure _
  -- the records, or their stacks
  | _ => exact edits_withMemory name fun h => (edits_inspectMemory h).bind fun _ => edits_pure _

/-- Every step at a slot edits; a record that it passes on is named, and so not secret. -/
lemma edits_performSlot (id : SlotId) (step : SlotStep) :
    (performSlot calls id step).Edits secret := by
  cases step with
  | invoke argument =>
    exact edits_recordFor argument fun k hopen => (edits_invoke hcalls hopen id).bind fun _ =>
      edits_pure _
  | die => exact (edits_dieSlot hcalls id).bind fun _ => edits_pure _
  | holds name =>
    exact fun s => gives_slot fun slot _ => edits_named (fun _ => edits_pure _) s

/-- Every step at a group edits; a handler that is added is named, and so is there. -/
lemma edits_performGroup (g : GroupId) (step : GroupStep) :
    (performGroup calls g step).Edits secret := by
  cases step with
  | add name shared =>
    refine fun s => gives_namedHandler fun h hknown => ?_
    cases shared with
    | true => exact gives_addShared hknown
    | false => exact gives_addOwn hknown
  | remove id => exact (edits_withdraw g id).bind fun _ => edits_pure _
  | dispatch argument =>
    exact edits_recordFor argument fun k hopen => (edits_dispatchGroup hcalls hopen g).bind fun _ =>
      edits_pure _
  | clear => exact (edits_withdrawAll g).bind fun _ => edits_pure _
  | members => exact fun s => gives_group fun _ _ => gives_pure trivial

omit hcalls in
/-- Making an engine and naming it edits. -/
lemma edits_makeEngine (name : String) (threshold : Nat) (plan : SinkPlan Step) :
    (makeEngine name threshold plan).Edits secret := by
  have hmake : ∀ sink : Sink, (do
      let e ← newEngine (.make sink (.ofNat threshold))
      nameHandler name (.engine e)
      updateNames fun n => { n with engines := Names.bind name e n.engines }
      return .done : Act Answer).Edits secret := fun sink s => by
    refine (gives_newEngine _).bind fun e t _ hknown => ?_
    have hknown' : t.Knows (.engine e) := hknown
    refine (gives_nameHandler name hknown').bind fun _ u htu _ => ?_
    have hstill : e < u.engines.length := Nat.lt_of_lt_of_le hknown htu.upholds.engines
    refine Gives.bind (gives_updateNames fun hfits => ?_) fun _ _ _ _ => gives_pure trivial
    exact { hfits with
      engines := forall_bind (p := fun e => e < u.engines.length) name hfits.engines hstill }
  cases plan with
  | scripted behaviour => exact hmake _
  | stream target layout filter =>
    exact edits_orProblem _ fun layout => edits_orProblem _ fun set => hmake _

/-- Every step at an engine edits: it starts, drains, flushes or stops the engine, gives it a
record, or only looks at it. -/
lemma edits_performEngine (e : EngineId) (step : EngineStep) :
    (performEngine calls e step).Edits secret := by
  cases step with
  | init name =>
    exact edits_withNamed name fun r => (edits_initEngine hcalls e r).bind fun _ => edits_pure _
  | stop => exact (edits_stopEngine hcalls e).bind fun _ => edits_pure _
  | flush => exact (edits_flush hcalls e).bind fun _ => edits_pure _
  | tryDrain => exact (edits_tryDrain hcalls e).bind fun _ => edits_pure _
  | report => exact (edits_engine e).bind fun _ => edits_pure _
  | debugText => exact (edits_engine e).bind fun _ => edits_pure _

omit hcalls in
/-- A stream sink that stands alone works, and what was written changes. -/
lemma edits_workStream (name : String) (work : StreamSink → Media → α × StreamSink × Media)
    (answer : α → Answer) :
    (do
      let id ← named Names.streams name
      let (result, sink, media) := work (← stream id) (← get).media
      setMedia media
      updateStream id fun _ => sink
      return answer result : Act Answer).Edits secret := by
  refine edits_named fun id s => gives_stream fun sink _ => gives_get ?_
  exact ((edits_setMedia _).bind fun _ => (edits_updateStream _ _).bind fun _ => edits_pure _) s

omit hcalls in
/-- Every step at a stream sink that belongs to no engine edits. -/
lemma edits_performStream (name : String) (step : StreamStep) :
    (performStream name step).Edits secret := by
  cases step with
  | make target layout filter =>
    refine edits_orProblem _ fun layout => edits_orProblem _ fun set => ?_
    refine (edits_newStream _).bind fun id => Edits.bind (edits_updateNames ?_) fun _ => edits_pure _
    exact fun s names hfits => ⟨hfits.handlers, hfits.engines, hfits.groups, hfits.records⟩
  | start => exact edits_workStream name (fun sink media => sink.start media) Answer.doneOr
  | process batch =>
    exact edits_workStream name (fun sink media => sink.process batch media) Answer.doneOr
  | line argument =>
    refine edits_named fun id s => gives_stream fun sink _ => ?_
    refine edits_recordFor argument (fun k _ s => gives_record fun x hx => ?_) s
    refine gives_orPanic fun line hline => ?_
    cases line with
    | none => exact gives_pure trivial
    | some line =>
      exact (gives_updateRecord hx (level_line hline)).bind fun _ _ _ _ => gives_pure trivial
  | stop =>
    exact edits_workStream name (fun sink media => ((), sink.stop media)) fun _ => .nothing
  | info => exact edits_named fun id s => gives_stream fun _ _ => gives_pure trivial

omit hcalls in
/-- Every step at a file edits the media alone. -/
lemma edits_performFile (step : FileStep) : (performFile step).Edits secret := by
  cases step with
  | read path => exact fun s => gives_get (gives_pure trivial)
  | write path text =>
    exact fun s => gives_get (((edits_setMedia _).bind fun _ => edits_pure _) s)
  | load path =>
    refine fun s => gives_get ?_
    split <;> exact gives_pure trivial

omit hcalls in
/-- Taking the router of the whole program away is an edit. -/
lemma edits_takeGlobal : takeGlobal.Edits secret :=
  edits_modifyGet fun _ => beside_of_eq rfl rfl rfl rfl rfl rfl rfl rfl rfl

/-- Every step at the router of the whole program edits. -/
lemma edits_performGlobal (step : GlobalStep) : (performGlobal calls step).Edits secret := by
  cases step with
  | current => exact fun s => gives_get (edits_routerName? _ s)
  | ifEnabled level =>
    refine fun s => gives_get ?_
    split
    · refine Edits.bind (edits_isEnabled _ level) (fun enabled => ?_) s
      split
      · exact edits_routerName? _
      · exact edits_pure _
    · exact gives_pure trivial
  | take => exact edits_takeGlobal.bind fun r => edits_routerName? r
  | shutdown =>
    refine edits_takeGlobal.bind fun r => ?_
    cases r with
    | some r => exact (edits_keeping r (edits_shutdown hcalls r)).bind fun _ => edits_pure _
    | none => exact edits_pure _
  | logLazily call =>
    refine fun s => gives_get ?_
    split
    · exact edits_keeping _ ((edits_logLazily hcalls _ call).bind fun _ => edits_pure _) s
    · exact gives_pure trivial

/-! ## Logging from many threads -/

/-- Numbered log calls, one after the other, edit.  The induction is on the numbers. -/
lemma edits_logNumbered (r : RouterId) (ns : String) (sender : Nat) :
    ∀ numbers, (logNumbered calls r ns sender numbers).Edits secret
  | [] => edits_pure _
  | _ :: numbers => (edits_log hcalls r _).bind fun _ => edits_logNumbered r ns sender numbers

/-- Log calls of several threads, taken one thread after the other, edit.  The induction is on the
namespaces. -/
lemma edits_logFromThreads (r : RouterId) (each : Nat) :
    ∀ (sender : Nat) spaces, (logFromThreads calls r each sender spaces).Edits secret
  | _, [] => edits_pure _
  | sender, ns :: spaces =>
    (edits_onThread none (edits_logNumbered hcalls r ns sender _)).bind fun _ =>
      edits_logFromThreads r each (sender + 1) spaces

omit hcalls in
/-- Counting what a handler was given makes no edit. -/
lemma edits_tallyOf (threads : Nat) (entries : List Entry) (before : HandlerId → Nat)
    (name : String) (h : HandlerRef) : (tallyOf threads entries before name h).Edits secret := by
  cases h with
  | engine e =>
    refine fun s => gives_engine fun x _ => ?_
    split <;> exact gives_pure trivial
  | plain id =>
    refine fun s => gives_handler fun x _ => ?_
    split
    · exact gives_pure trivial
    · exact Edits.bind (edits_mapM _ fun r _ => edits_renderMessage r) (fun _ => edits_pure _) s
    · exact gives_pure trivial

/-- A step in which several threads log edits, also if it ends with a panic. -/
lemma edits_performParallel (r : RouterId) (spaces : List String) (each : Nat) :
    (performParallel calls r spaces each).Edits secret := by
  refine fun s => gives_get (Edits.bind (edits_note_other (by simp)) (fun _ => ?_) s)
  have hlogging : (do
      logFromThreads calls r each 0 spaces
      s.names.engines.forM fun entry => flush calls entry.2 : Act Unit).Edits secret :=
    (edits_logFromThreads hcalls r each 0 spaces).bind fun _ =>
      edits_forM _ fun entry _ => edits_flush hcalls entry.2
  have hends : ∀ u : System, u.Edited secret (u.noted .parallelEnds) :=
    fun u => .single (.noted u .parallelEnds (by simp))
  refine fun t => ((hlogging t).after fun u => ⟨hends u, rfl⟩).bind fun _ u _ _ => gives_get ?_
  simp only
  split
  · exact Edits.bind (edits_mapM _ fun entry _ => edits_tallyOf _ _ _ entry.1 entry.2)
      (fun _ => edits_pure _) u
  · exact gives_throw _

/-! ## All steps -/

/-- **A step edits** if the calls back into the system do. -/
theorem edits_perform (step : Step) : (perform calls step).Edits secret := by
  have hrouters : ∀ name (r : RouterId), (updateNames fun n =>
      { n with routers := Names.bind name r n.routers }).Edits secret := fun name r =>
    edits_updateNames fun s names hfits =>
      ⟨hfits.handlers, hfits.engines, hfits.groups, hfits.records⟩
  cases step with
  | makeRouter name filter =>
    refine edits_orProblem _ fun set => (edits_newRouter set).bind fun r => ?_
    exact (hrouters name r).bind fun _ => edits_pure _
  | configure name config =>
    refine edits_orProblem _ fun c => (edits_configure hcalls c).bind fun result => ?_
    exact edits_orProblem _ fun r => (hrouters name r).bind fun _ => edits_pure _
  | dropRouter name =>
    refine fun s => gives_get (Edits.bind (edits_updateNames ?_) (fun _ => edits_pure _) s)
    exact fun s names hfits => ⟨hfits.handlers, hfits.engines, hfits.groups, hfits.records⟩
  | onRouter name step => exact edits_withNamed name fun r => edits_performRouter hcalls r step
  | dispatchRoute name argument =>
    exact edits_named fun destination => edits_recordFor argument fun id hopen =>
      (edits_dispatchTo hcalls hopen destination).bind fun _ => edits_pure _
  | makeHandler name plan => exact edits_makeHandler name plan
  | onHandler name step => exact edits_performHandler hcalls name step
  | makeRecord name content =>
    refine fun s => Gives.bind (gives_makeRecord _ _) fun id t _ h => ?_
    refine Gives.bind (gives_updateNames fun hfits => ?_) fun _ _ _ _ => gives_pure trivial
    exact { hfits with
      records := forall_bind (p := fun id => id < t.records.size ∧ ¬ secret id) name hfits.records h }
  | isRendered argument =>
    exact edits_recordFor argument fun id _ s => gives_record fun _ _ => gives_pure trivial
  | onSlot id step => exact edits_performSlot hcalls id step
  | makeGroup name =>
    refine fun s => gives_newGroup.bind fun g t _ hknown => ?_
    refine Gives.bind (gives_updateNames fun hfits => ?_) fun _ _ _ _ => gives_pure trivial
    exact { hfits with
      groups := forall_bind (p := fun g => g < t.groups.length) name hfits.groups hknown }
  | onGroup group router step =>
    cases group with
    | some group => exact edits_named fun g => edits_performGroup hcalls g step
    | none =>
      exact edits_withNamed router fun r s => gives_router fun y _ =>
        edits_performGroup hcalls y.defaults step s
  | makeEngine name threshold plan => exact edits_makeEngine name threshold plan
  | onEngine name step => exact edits_named fun e => edits_performEngine hcalls e step
  | onStream name step => exact edits_performStream name step
  | onFile step => exact edits_performFile step
  | onGlobal step => exact edits_performGlobal hcalls step
  | thread name steps =>
    refine edits_onThread name ?_
    exact (edits_mapM steps fun step _ => hcalls.perform step).bind fun _ => edits_pure _
  | parallel name spaces each =>
    exact edits_withNamed name fun r => edits_performParallel hcalls r spaces each

end Steps

end System

/-- **The calls back into the system edit**, to any depth. -/
theorem Reentry.edits_upTo {secret : RecordId → Prop} : ∀ depth, (Reentry.upTo depth).Edits secret
  | 0 => ⟨fun _ _ _ => edits_throw _, fun _ => edits_throw _⟩
  | depth + 1 =>
    ⟨fun h _ hopen => System.edits_handle (edits_upTo depth) h hopen,
      System.edits_perform (edits_upTo depth)⟩

namespace System

variable {s t : System}

/-! ## Programs -/

/-- Nothing is secret. -/
def Public (_ : RecordId) : Prop := False

/-- In a system that has just begun there is no reference that could lead nowhere. -/
lemma linked_initial (machinery : String) (callStack : List Frame) (clock : Instant) :
    (initial machinery callStack clock).Linked Public := by
  constructor <;> simp [initial, Public]
  exact ⟨by simp, by simp, by simp, by simp⟩

/-- A step of a program edits, and keeps no record secret. -/
lemma Takes.edited (hlinked : s.Linked Public) (h : s.Takes t) : s.Edited Public t := by
  obtain ⟨depth, step, rfl⟩ := h
  exact (edits_perform (Reentry.edits_upTo depth) step s hlinked).1

/-- **A program makes one edit after the other.** -/
theorem Runs.edited (hlinked : s.Linked Public) (h : s.Runs t) : s.Edited Public t := by
  induction h with
  | refl => exact .refl s
  | tail _ htakes ih => exact ih.trans (htakes.edited (ih.linked hlinked))

/-- **References are in order** in every state of a program. -/
theorem Reachable.linked (hs : s.Reachable) : s.Linked Public := by
  obtain ⟨machinery, callStack, clock, hs⟩ := hs
  have hlinked := linked_initial machinery callStack clock
  exact (hs.edited hlinked).linked hlinked

end System

end NamespaceLogging
