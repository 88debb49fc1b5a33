import NamespaceLogging.Config.Override
import NamespaceLogging.Config.Target
import NamespaceLogging.Record.Layout

/-!
# Configuration

A configuration holds texts and numbers as they were written; settings hold what they mean.
Validation reads every field and reports every problem it finds.

## Main definitions

* `Configuration`: the fields as they were written, with their defaults.
* `Settings`: the validated form, from which a router is built.
* `Configuration.problems`, `Configuration.validate`: the problems, and the settings if there are
  none.
-/

set_option autoImplicit false

namespace NamespaceLogging

/-- A configuration as it was written. -/
structure Configuration where
  /-- The least level. -/
  level : String := "info"
  /-- The levels one by one; takes the place of `level`. -/
  levels : Option (List String) := none
  /-- Stricter levels for namespaces, each `namespace=LEVEL`. -/
  overrides : List String := []
  /-- Where lines go; without it they go to the standard error stream at once. -/
  target : Option String := none
  /-- The least level of the target. -/
  aspectLevel : Option String := none
  layout : String := Layout.defaultPattern
  timeFormat : String := Layout.defaultTimeFormat
  maxCauseFrames : Nat := Cause.defaultFrameCap
  errorThreshold : Nat := 5
  captureStack : Bool := true
deriving DecidableEq, Repr

/-- A validated configuration. -/
structure Settings where
  filter : LevelSet
  overrides : List Override
  target : Option Target
  aspectFilter : LevelSet
  layout : Layout
  errorThreshold : Nat
  captureStack : Bool
deriving DecidableEq, Repr

namespace Configuration

/-- The levels that are let through. -/
def filter (c : Configuration) : Except ConfigError LevelSet :=
  match c.levels with
  | some names => do LevelSet.ofNonempty (← names.mapM Level.parse)
  | none => (Level.parse c.level).map LevelSet.startingAt

/-- The levels that the target takes. -/
def aspectFilter (c : Configuration) : Except ConfigError LevelSet :=
  match c.aspectLevel with
  | some name => (Level.parse name).map LevelSet.startingAt
  | none => .ok (LevelSet.startingAt .trace)

/-- The layout, with the time format and the frame cap. -/
def checkedLayout (c : Configuration) : Except ConfigError Layout := do
  let layout ← Layout.parse c.layout
  let layout ← layout.withTimeFormat c.timeFormat
  layout.withFrameCap c.maxCauseFrames

/-- The error threshold. -/
def checkedThreshold (c : Configuration) : Except ConfigError Nat :=
  if c.errorThreshold = 0 then .error .invalidThreshold else .ok c.errorThreshold

/-- The problem of a field, if it has one. -/
def problemOf {α : Type} : Except ConfigError α → List ConfigError
  | .ok _ => []
  | .error e => [e]

/-- Every problem, by field. -/
def problems (c : Configuration) : List ConfigError :=
  problemOf c.filter ++
    (c.overrides.map Override.parse).flatMap problemOf ++
    problemOf c.aspectFilter ++
    problemOf c.checkedLayout ++
    problemOf c.checkedThreshold

/-- The settings; the first problem, if there is one, is the error. -/
def settings (c : Configuration) : Except ConfigError Settings := do
  let filter ← c.filter
  let overrides ← c.overrides.mapM Override.parse
  let aspectFilter ← c.aspectFilter
  let layout ← c.checkedLayout
  let errorThreshold ← c.checkedThreshold
  return {
    filter := filter
    overrides := overrides
    target := c.target.map Target.parse
    aspectFilter := aspectFilter
    layout := layout
    errorThreshold := errorThreshold
    captureStack := c.captureStack }

/-- The settings if there is no problem; a single problem is reported itself, several together. -/
def validate (c : Configuration) : Except ConfigError Settings :=
  match c.problems with
  | [] => c.settings
  | [problem] => .error problem
  | several => .error (.invalid several)

end Configuration

end NamespaceLogging
