/-!
# Wrong usage of the command line

Why the words of a command line are no command. A wish for help or for the
version ends the reading in the same way.
-/

namespace VolumeMigration

inductive UsageFault where
  /-- A word or an option that has no place here. -/
  | unknownArgument (word : String)
  | unknownCommand (word : String)
  /-- A value for an option that takes none. -/
  | needlessValue (option : String)
  /-- An option without its value, or with an empty one. -/
  | noValue (option : String)
  | illegalValue (option value : String)
  | repeatedOption (option : String)
  | missingOption (option : String)
  | missingCommand
  /-- A command line without any word. -/
  | nothingGiven
  | helpWanted
  | versionWanted
deriving DecidableEq, Repr

namespace UsageFault

def message : UsageFault → String
  | unknownArgument word => s!"unexpected argument '{word}'"
  | unknownCommand word => s!"unrecognized subcommand '{word}'"
  | needlessValue option => s!"option '{option}' takes no value"
  | noValue option => s!"option '{option}' needs a value"
  | illegalValue option value => s!"invalid value '{value}' for '{option}'"
  | repeatedOption option => s!"option '{option}' is given more than once"
  | missingOption option => s!"option '{option}' is required"
  | missingCommand | nothingGiven => "a subcommand is required"
  | helpWanted => "help wanted"
  | versionWanted => "version wanted"

end UsageFault

end VolumeMigration
