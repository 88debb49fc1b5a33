import NamespaceLogging.Session.Perform

/-!
# Sessions

A session takes steps one after the other on a system that starts with nothing, and reports for each
step its answer, what scripted objects did meanwhile, and what was written.

## Main definitions

* `Session.events`: the events of a step.
* `Session.run`: the reports of a list of steps.
-/

set_option autoImplicit false

namespace NamespaceLogging

namespace Session

/-- The entries outside of all parallel logging; the number says how many of those have begun. -/
def orderly : Nat → List Entry → List Entry
  | _, [] => []
  | begun, .parallelBegins :: entries => orderly (begun + 1) entries
  | begun, .parallelEnds :: entries => orderly (begun - 1) entries
  | 0, entry :: entries => entry :: orderly 0 entries
  | begun + 1, _ :: entries => orderly (begun + 1) entries

/-- The handlers that were told of the end, in order. -/
def deaths (events : List Event) : List String :=
  events.filterMap fun
    | .died name => some name
    | _ => none

/-- The events with other names, in order, on those that tell a handler of the end. -/
def renameDeaths : List String → List Event → List Event
  | name :: names, .died _ :: events => .died name :: renameDeaths names events
  | names, event :: events => event :: renameDeaths names events
  | _, [] => []

/-- The events with the handlers that were told of the end listed by name, but for a number of them
at the beginning. -/
def sortDeaths (first : Nat) (events : List Event) : List Event :=
  let names := deaths events
  renameDeaths (names.take first ++ (names.drop first).mergeSort) events

/-- The number of scripted handlers in a list of slots. -/
def scriptedCount (s : System) (slots : List SlotId) : Nat :=
  slots.countP fun id =>
    match (s.slot? id).map Slot.handler with
    | some (.plain h) =>
      match s.handlers[h]? with
      | some (.scripted _ _ _) => true
      | _ => false
    | _ => false

/-- The number of scripted handlers among the default handlers of a router. -/
def scriptedDefaults (s : System) (name : String) : Nat :=
  match (s.names.routers.lookup name).bind fun r => s.routers[r]? with
  | some r => scriptedCount s (s.groups[r.defaults]?.getD [])
  | none => 0

/-- The events of a step, but for those of threads that logged at once.  When a router is shut down,
its registered handlers are told of the end in no particular order; they follow the default handlers
and are listed by name. -/
def events (step : Step) (before now : System) : List Event :=
  let all := (orderly 0 (before.historySince now)).filterMap (Entry.event? now)
  match step with
  | .onRouter name .shutdown => sortDeaths (scriptedDefaults before name) all
  | _ => all

/-- What is reported of a step. -/
structure Report where
  result : Except Stop Answer
  events : List Event
  /-- What was written to the standard streams. -/
  out : String
  err : String

/-- A text without a beginning. -/
def since (before now : String) : String := String.ofList (now.toList.drop before.length)

/-- Takes a step and reports it. -/
def take (step : Step) (s : System) : Report × System :=
  let (result, s') := (System.run step).on s
  ({ result := result
     events := events step s s'
     out := since s.media.stdout s'.media.stdout
     err := since s.media.stderr s'.media.stderr }, s')

/-- Takes steps one after the other. -/
def runFrom (s : System) : List Step → List Report
  | [] => []
  | step :: steps =>
    let (report, s) := take step s
    report :: runFrom s steps

/-- Runs a session on a system without objects.  The clock stands still, and every captured stack
is the given one, with the frames of the machinery in front. -/
def run (clock : Instant) (machinery : String) (callStack : List Frame) (steps : List Step) :
    List Report :=
  runFrom { machinery := machinery, callStack := callStack, clock := clock } steps

end Session

end NamespaceLogging
