import NamespaceLogging.System.Handling

/-!
# The life of a router

A router is built from settings, and shut down once.

## Main definitions

* `System.routerOf`: the router of settings.
* `System.shutdown`: shuts a router down.
* `System.takeGlobal`: takes the global router away.
-/

set_option autoImplicit false

namespace NamespaceLogging

namespace System

/-! ## From settings -/

/-- Registers a gate for each override that asks for more than the least level of the filter; the
router drops the rest itself. -/
def registerGates (r : RouterId) (least : Level) : List Override → Act (Except ConfigError Unit)
  | [] => return .ok ()
  | o :: os => do
    if least < o.level then
      let gate ← newHandler (.gate (.startingAt o.level) (← router r).defaults)
      match ← register r o.namespaceName (.plain gate) with
      | .error e => return .error e
      | .ok _ => registerGates r least os
    else registerGates r least os

/-- Gives a router the default handler that settings ask for: an engine around a stream sink, or
without a target a handler that writes to the standard error stream. -/
def addTarget (calls : Reentry) (r : RouterId) (s : Settings) : Act (Except ConfigError Unit) := do
  match s.target with
  | some target =>
    let sink := StreamSink.make target s.layout s.aspectFilter
    let e ← newEngine (.make (.stream sink) (.ofNat s.errorThreshold))
    return (← initEngine calls e r).mapError .aspect
  | none =>
    let h ← newHandler (.stderr s.layout)
    let _ ← addDefault r (.plain h)
    return .ok ()

/-- A router with settings. -/
def routerOf (calls : Reentry) (s : Settings) : Act (Except ConfigError RouterId) := do
  let r ← newRouter s.filter
  updateRouter r fun x => { x with capture := s.captureStack }
  keeping r do
    match ← registerGates r s.filter.minimum s.overrides with
    | .error e => return .error e
    | .ok () =>
      match ← addTarget calls r s with
      | .error e => return .error e
      | .ok () => return .ok r

/-- A router with a configuration, which is validated first. -/
def configure (calls : Reentry) (c : Configuration) : Act (Except ConfigError RouterId) :=
  match c.validate with
  | .error e => return .error e
  | .ok s => routerOf calls s

/-! ## Shutdown -/

/-- Shuts engines down, in order. -/
def stopAll (calls : Reentry) : List (SlotId × EngineId) → Act Unit
  | [] => return
  | entry :: entries => do
    stopEngine calls entry.2
    stopAll calls entries

/-- Shuts a router down: no level is enabled any more, every attached engine is shut down, the
default handlers and then the registered ones are told, and all routes go.  A second time it does
nothing. -/
def shutdown (calls : Reentry) (r : RouterId) : Act Unit := do
  let x ← router r
  if !x.shutDown then
    updateRouter r fun x => { x with shutDown := true, filter := none, aspects := [] }
    stopAll calls x.aspects
    let members ← takeMembers x.defaults
    note (.cleared r members)
    dieAll calls members
    dieAll calls (← clearRegistry r)

/-! ## The global router -/

/-- Takes the global router away. -/
def takeGlobal : Act (Option RouterId) :=
  modifyGet fun s => (s.global, { s with global := none })

end System

end NamespaceLogging
