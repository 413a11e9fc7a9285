import JvmDeps.Report.Json
import JvmDeps.Report.Terminal

set_option autoImplicit false

/-! # Reporters

The two forms of a report: JSON text with an indent, and text that a printer writes for a terminal.
-/

namespace JvmDeps

/-- How a report is written. -/
inductive Reporter where
  /-- JSON, on one line or with an indent. -/
  | json (indent : Option Int)
  | terminal (printer : Printer) (t : Terminal)

namespace Reporter

/-- The report of a table. -/
def report : Reporter → DependencyTable → Except Fault String
  | json indent, table => .ok ((JsonValue.ofTable table).render indent)
  | terminal printer t, table => printer.printAll t.console (t.classCalls table)

/-- The report of a batch. -/
def reportBatch : Reporter → Batch → Except Fault String
  | json indent, b => .ok ((JsonValue.ofBatch b).render indent)
  | terminal printer t, b => printer.printAll t.console (t.batchCalls b)

end Reporter

end JvmDeps
