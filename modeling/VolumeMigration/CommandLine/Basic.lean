import VolumeMigration.CommandLine.Words
import VolumeMigration.Quiesce.Writer
import VolumeMigration.Waiting
/-!
# Command lines

What the words of a command line ask for. Where the clusters are and how logs
look can be said before and after the name of the command; what is said after it
counts.
-/

namespace VolumeMigration

/-- What a command is to do. -/
inductive Request where
  | quiesce (ns : String) (options : QuiesceOptions) (timeout : Option Nat)
  | unquiesce (ns : String)
  /-- Intervals and timeouts are in seconds. -/
  | transfer (config : String) (pollInterval : Nat) (wait : Bool) (timeout : Option Nat)
  | validate (config : String)
deriving DecidableEq, Repr

structure CommandLine where
  request : Request
  logFormat : LogFormat
  /-- Where the cluster to copy from is described. -/
  sourceKubeconfig : Option String
  /-- Where the cluster to copy to is described. -/
  destinationKubeconfig : Option String
deriving DecidableEq, Repr

namespace CommandLine

/-- The options at every level. -/
def commonOptions : List CommandOption := [.help, .sourceKubeconfig, .destinationKubeconfig, .logFormat]

/-- The options before the name of a command. -/
def programOptions : List CommandOption := .version :: commonOptions

end CommandLine

/-- The options after the name of a command. -/
def CommandName.options (c : CommandName) : List CommandOption :=
  CommandLine.commonOptions ++ match c with
    | quiesce => [.ns, .noWait, .pollInterval, .timeout]
    | unquiesce => [.ns]
    | transfer => [.config, .pollInterval, .noWait, .timeout]
    | validate => [.config]
    | help => []

namespace Given

/-- The value of an option that has to be given. -/
def require (g : Given) (o : CommandOption) : Except UsageFault String :=
  match g.value? o with
  | some value => .ok value
  | none => .error (.missingOption o.display)

/-- The seconds that an option gives. -/
def seconds? (g : Given) (o : CommandOption) : Option Nat := (g.value? o).bind Text.readUInt64?

/-- The seconds between two checks. -/
def interval (g : Given) : Nat := (g.seconds? .pollInterval).getD (Patience.defaultInterval / 1000)

/-- Whether to wait. -/
def waits (g : Given) : Bool := (g.value? .noWait).isNone

end Given

namespace CommandLine

/-- What the words after `help` come to: help, on a command if one is named. -/
def helpFault : List String → UsageFault
  | [] => .helpWanted
  | [word] => if (CommandName.ofName? word).isSome then .helpWanted else .unknownCommand word
  | word :: next :: _ => .unknownCommand (if (CommandName.ofName? word).isSome then next else word)

/-- What a command is to do with the options after its name. -/
def requestOf (c : CommandName) (g : Given) : Except UsageFault Request := do
  match c with
  | .quiesce =>
    return .quiesce (← g.require .ns) { pollIntervalSeconds := g.interval, wait := g.waits } (g.seconds? .timeout)
  | .unquiesce => return .unquiesce (← g.require .ns)
  | .transfer => return .transfer (← g.require .config) g.interval g.waits (g.seconds? .timeout)
  | .validate => return .validate (← g.require .config)
  | .help => throw .helpWanted

/-- Reads the words of a command line, without the name of the program. -/
def parse (words : List String) : Except UsageFault CommandLine := do
  match ← Given.readWords .program programOptions {} words with
  | (before, none) =>
    throw (if (← before.settle).values.isEmpty then .nothingGiven else .missingCommand)
  | (_, some (.help, words)) => throw (helpFault words)
  | (before, some (command, words)) =>
    let behind ← (← Given.readWords .command command.options {} words).1.settle
    let request ← requestOf command behind
    let before ← before.settle
    let last (o : CommandOption) : Option String := (behind.value? o).orElse fun _ => before.value? o
    let format := (last .logFormat).bind fun s => (LogFormat.ofName s).toOption
    return {
      request
      logFormat := format.getD .text
      sourceKubeconfig := last .sourceKubeconfig
      destinationKubeconfig := last .destinationKubeconfig }

end CommandLine

end VolumeMigration
