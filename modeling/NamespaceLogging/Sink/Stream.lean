import NamespaceLogging.Config.Target
import NamespaceLogging.Record.Layout
import NamespaceLogging.Sink.Media

/-!
# The stream sink

The sink that appends lines to a standard stream or a file.  A record is laid out when it comes in;
a batch is written line by line and then flushed.

## Main definitions

* `Writer`: an opened outlet; on its way to a file, text waits in a buffer.
* `StreamSink`: the sink, which has a writer from its start to its end.
* `StreamSink.line?`: the line of a record that the sink's levels let through.
* `StreamSink.start`, `StreamSink.process`, `StreamSink.stop`: the sink at work.
-/

set_option autoImplicit false

namespace NamespaceLogging

/-! ## Writers -/

/-- An outlet with the text that waits to be written to it. -/
structure Writer where
  outlet : Outlet
  buffer : String
deriving DecidableEq, Repr

namespace Writer

/-- The number of bytes that the buffer can hold. -/
def capacity : Nat := 8192

/-- A writer with nothing waiting. -/
def make (outlet : Outlet) : Writer := ⟨outlet, ""⟩

/-- Whether text waits before it is written; the standard streams take it at once. -/
def isBuffered (w : Writer) : Bool := w.outlet != .stdout && w.outlet != .stderr

/-- Writes what waits.  If that fails, it goes on waiting. -/
def flush (w : Writer) (m : Media) : Except IoError Unit × Writer × Media :=
  if w.buffer.isEmpty then (.ok (), w, m)
  else
    match m.append w.outlet w.buffer with
    | (.ok (), m) => (.ok (), { w with buffer := "" }, m)
    | (.error e, m) => (.error e, w, m)

/-- Takes a text for which the buffer may have no room: what waits is written first, and a text
that fills the whole buffer does not wait itself. -/
def writeLarge (text : String) (w : Writer) (m : Media) : Except IoError Unit × Writer × Media :=
  let room := capacity - w.buffer.utf8ByteSize
  match if room < text.utf8ByteSize then w.flush m else (.ok (), w, m) with
  | (.error e, w, m) => (.error e, w, m)
  | (.ok (), w, m) =>
    if capacity ≤ text.utf8ByteSize then
      let (result, m) := m.append w.outlet text
      (result, w, m)
    else (.ok (), { w with buffer := w.buffer ++ text }, m)

/-- Takes a text. -/
def write (text : String) (w : Writer) (m : Media) : Except IoError Unit × Writer × Media :=
  if !w.isBuffered then
    let (result, m) := m.append w.outlet text
    (result, w, m)
  else if text.utf8ByteSize < capacity - w.buffer.utf8ByteSize then
    (.ok (), { w with buffer := w.buffer ++ text }, m)
  else w.writeLarge text m

/-- Takes texts in order until one fails. -/
def writeAll : List String → Writer → Media → Except IoError Unit × Writer × Media
  | [], w, m => (.ok (), w, m)
  | text :: texts, w, m =>
    match w.write text m with
    | (.ok (), w, m) => writeAll texts w m
    | (.error e, w, m) => (.error e, w, m)

end Writer

/-! ## The sink -/

/-- A sink that appends lines to its target. -/
structure StreamSink where
  target : Target
  layout : Layout
  /-- The levels that the sink takes. -/
  filter : LevelSet
  /-- The open target, between start and stop. -/
  writer : Option Writer
deriving DecidableEq, Repr

namespace StreamSink

/-- A sink that has not been started. -/
def make (target : Target) (layout : Layout) (filter : LevelSet) : StreamSink :=
  ⟨target, layout, filter, none⟩

/-- The name of the sink. -/
def name (sink : StreamSink) : String := sink.target.name

/-- The sink for diagnostics. -/
def debugText (sink : StreamSink) : String :=
  "StreamAspect \x7b name: " ++ Text.quote sink.name ++ ", target: " ++ sink.target.debugText ++
    ", filter: " ++ sink.filter.debugText ++
    ", open: Some(" ++ (if sink.writer.isSome then "true" else "false") ++ ") \x7d"

/-- The line of a record, and the record after it was laid out.  A record of a level that the sink
does not take is not looked at. -/
def line? (sink : StreamSink) (r : Record) : Except RenderFault (Option (String × Record)) :=
  if sink.filter.contains r.level then some <$> sink.layout.render r else .ok none

/-- The outlet of the target. -/
def openTarget (sink : StreamSink) (m : Media) : Except IoError Outlet × Media :=
  match sink.target with
  | .stderr => (.ok .stderr, m)
  | .stdout => (.ok .stdout, m)
  | .file path => m.openEnd path

/-- Opens the target. -/
def start (sink : StreamSink) (m : Media) : Except AspectError Unit × StreamSink × Media :=
  match sink.openTarget m with
  | (.ok outlet, m) => (.ok (), { sink with writer := some (.make outlet) }, m)
  | (.error e, m) => (.error (.io e), sink, m)

/-- The texts of a batch: each line and its line break. -/
def texts (batch : List String) : List String := batch.flatMap fun line => [line, "\n"]

/-- Writes a batch and flushes. -/
def process (batch : List String) (sink : StreamSink) (m : Media) :
    Except AspectError Unit × StreamSink × Media :=
  match sink.writer with
  | none => (.error .shutDown, sink, m)
  | some w =>
    match w.writeAll (texts batch) m with
    | (.error e, w, m) => (.error (.io e), { sink with writer := some w }, m)
    | (.ok (), w, m) =>
      let (result, w, m) := w.flush m
      (result.mapError .io, { sink with writer := some w }, m)

/-- Flushes and closes the target; a failure is passed over. -/
def stop (sink : StreamSink) (m : Media) : StreamSink × Media :=
  match sink.writer with
  | none => (sink, m)
  | some w => ({ sink with writer := none }, (w.flush m).2.2)

/-! ## The name of a sink at work -/

variable (sink : StreamSink) (m : Media)

/-- Starting a sink does not change its name, whether its target can be opened or not. -/
@[simp]
theorem name_start : (sink.start m).2.1.name = sink.name := by
  unfold start
  split <;> rfl

/-- Writing a batch does not change the name of a sink, whether all of it is written or not. -/
@[simp]
theorem name_process (batch : List String) : (sink.process batch m).2.1.name = sink.name := by
  unfold process
  repeat' split
  all_goals rfl

/-- Stopping a sink does not change its name. -/
@[simp]
theorem name_stop : (sink.stop m).1.name = sink.name := by
  unfold stop
  split <;> rfl

end StreamSink

end NamespaceLogging
