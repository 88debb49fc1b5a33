import NamespaceLogging.System.Basic

/-!
# Events

What scripted objects did, as the journal tells it.

## Main definitions

* `Event`: what a scripted object did.
* `Entry.event?`: the event behind an entry of the journal.
* `Event.isReceipt`: whether an object received records.
-/

set_option autoImplicit false

namespace NamespaceLogging

/-- What a scripted object did. -/
inductive Event where
  | handled (name : String) (level : Level) (message ns : String) (cause : Option String)
  | died (name : String)
  | initialized (name : String)
  | batch (name : String) (objects : List String)
  | closed (name : String)
  | acted (name word : String) (answer : Answer)

/-- The event behind the call of a hook.  Making an object of a record is none. -/
def Hook.event? (name : String) : Hook → Option Event
  | init => some (.initialized name)
  | record _ => none
  | batch objects => some (.batch name objects)
  | shutdown => some (.closed name)

/-- The event behind an entry of the journal, if a scripted object was concerned. -/
def Entry.event? (s : System) : Entry → Option Event
  | handled name level message ns cause => some (.handled name level message ns cause)
  | died name => some (.died name)
  | hook engine called =>
    match (s.engines[engine]?).map Engine.sink with
    | some (.scripted behaviour) => called.event? behaviour.name
    | _ => none
  | acted name word answer => some (.acted name word answer)
  | _ => none

/-- Whether an object received records, one or a batch. -/
def Event.isReceipt : Event → Bool
  | handled _ _ _ _ _ | batch _ _ => true
  | _ => false

end NamespaceLogging
