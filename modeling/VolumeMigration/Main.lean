import VolumeMigration.Command.Transfer
import VolumeMigration.CommandLine.Basic
/-!
# The program

Reads the command line and the configuration that it names. The program has no
connection to a cluster of its own: commands work on a `Cluster` that a caller
provides.
-/

namespace VolumeMigration

/-- The text of a file, if it can be read. -/
def readText? (path : String) : IO (Option String) := do
  try return some (← IO.FS.readFile path)
  catch _ => return none

/-- The file with the configuration of a request, if it needs one. -/
def Request.config? : Request → Option String
  | quiesce .. | unquiesce _ => none
  | transfer config .. | validate config => some config

/-- Ends the program with a message. -/
def giveUp (message : String) : IO UInt32 := do
  IO.eprintln message
  return 1

/-- Does what a command line asks for. -/
def runCommandLine (c : CommandLine) : IO UInt32 := do
  match c.request.config? with
  | none => giveUp "no cluster is connected"
  | some path =>
    match loadConfig path (← readText? path) with
    | .error failure => giveUp failure.message
    | .ok config => giveUp s!"no cluster is connected to copy {config.pairs.length} volume(s)"

end VolumeMigration

def main (words : List String) : IO UInt32 := do
  match VolumeMigration.CommandLine.parse words with
  | .ok c => VolumeMigration.runCommandLine c
  | .error fault =>
    IO.eprintln fault.message
    return 2
