import VolumeMigration.Command.Basic
import VolumeMigration.Quiesce.Writer
import VolumeMigration.Text.Lowercase
/-!
# Quiescing and waiting

Once the controllers of a namespace are stopped, their pods end one after the
other. Copying is safe when no writer is left.
-/

namespace VolumeMigration

/-- Waits until no pod of a namespace may still write. -/
def awaitTermination (p : Patience) (what ns : String) : Command Cluster Unit :=
  Command.await p what (hasTerminated ns)

/-- Stops every workload controller of a namespace, and waits for the writers if the options say
so. The wait may take `timeout` seconds. -/
def quiesceAndWait (ns : String) (options : QuiesceOptions) (timeout : Option Nat) (horizon : Nat)
    (what : String) : Command Cluster QuiesceReport := do
  let report ← Command.attempt (quiesce ns)
  if options.wait then
    awaitTermination { interval := options.pollInterval * 1000, timeout, horizon } what ns
  return report

namespace QuiesceReport

/-- The lines that tell what was done, with a word for it. -/
def lines (verb : String) (r : QuiesceReport) : List String :=
  s!"{verb} namespace {r.ns}" ::
    (r.acted.map fun w => s!"  {Text.lowercase verb} {w.display}") ++
    (r.skipped.map fun w => s!"  skipped {w.display}") ++
    (if r.acted.isEmpty && r.skipped.isEmpty then ["  nothing to do"] else [])

end QuiesceReport

end VolumeMigration
