import VolumeMigration.CommandLine.LogFormat
import VolumeMigration.CommandLine.Usage
import VolumeMigration.Text.Cut
import VolumeMigration.Text.Number
/-!
# Words of a command line

The words are read level by level: those of the program itself up to the name of
a command, then those of the command. An option has a long name and maybe a
letter; its value is part of the word or the next word. The value of an option
in two words is looked at when the next option comes, or at the end.
-/

namespace VolumeMigration

inductive CommandOption where
  | help
  | version
  | ns
  | noWait
  | pollInterval
  | timeout
  | config
  | sourceKubeconfig
  | destinationKubeconfig
  | logFormat
deriving DecidableEq, Repr

namespace CommandOption

/-- The long name, after two dashes. -/
def longName : CommandOption → String
  | help => "help"
  | version => "version"
  | ns => "namespace"
  | noWait => "no-wait"
  | pollInterval => "poll-interval-seconds"
  | timeout => "timeout-seconds"
  | config => "config"
  | sourceKubeconfig => "source-kubeconfig"
  | destinationKubeconfig => "destination-kubeconfig"
  | logFormat => "log-format"

/-- The letter, after one dash. -/
def letter? : CommandOption → Option Char
  | help => some 'h'
  | version => some 'V'
  | ns => some 'n'
  | config => some 'f'
  | _ => none

def takesValue : CommandOption → Bool
  | help | version | noWait => false
  | _ => true

def display (o : CommandOption) : String := "--" ++ o.longName

/-- Why an option cannot be taken with a value. -/
def fault? (o : CommandOption) (value : String) : Option UsageFault :=
  match o with
  | help => some .helpWanted
  | version => some .versionWanted
  | ns | noWait => none
  | pollInterval | timeout =>
    if (Text.readUInt64? value).isNone then some (.illegalValue o.display value) else none
  | config | sourceKubeconfig | destinationKubeconfig =>
    if value.isEmpty then some (.noValue o.display) else none
  | logFormat =>
    match LogFormat.ofName value with
    | .ok _ => none
    | .error _ => some (.illegalValue o.display value)

end CommandOption

inductive CommandName where
  | quiesce
  | unquiesce
  | transfer
  | validate
  | help
deriving DecidableEq, Repr

namespace CommandName

def all : List CommandName := [quiesce, unquiesce, transfer, validate, help]

def name : CommandName → String
  | quiesce => "quiesce"
  | unquiesce => "unquiesce"
  | transfer => "transfer"
  | validate => "validate"
  | help => "help"

def ofName? (s : String) : Option CommandName := all.find? (·.name == s)

end CommandName

/-- A word by its form. -/
inductive Word where
  /-- Two dashes alone, after which no word is an option. -/
  | divider
  | long (name : String) (value : Option String)
  /-- Letters after a dash; what follows a letter may be its value. -/
  | letters (letters : List Char)
  | plain
deriving DecidableEq, Repr

def Word.ofString (s : String) : Word :=
  match s.toList with
  | ['-', '-'] => .divider
  | '-' :: '-' :: r =>
    match Text.cutFirst? '=' r with
    | some (name, value) => .long (String.ofList name) (some (String.ofList value))
    | none => .long (String.ofList r) none
  | '-' :: c :: r => .letters (c :: r)
  | _ => .plain

/-- The options of a level so far. -/
structure Given where
  values : List (CommandOption × String) := []
  /-- An option that is not looked at yet, with its value if it has come. -/
  pending : Option (CommandOption × Option String) := none
deriving DecidableEq, Repr

namespace Given

def value? (g : Given) (o : CommandOption) : Option String := (g.values.find? (·.1 == o)).map (·.2)

/-- Adds an option with its value, which is empty if it takes none. -/
def add (g : Given) (o : CommandOption) (value : String) : Except UsageFault Given :=
  if (g.value? o).isSome then .error (.repeatedOption o.display)
  else match o.fault? value with
    | some fault => .error fault
    | none => .ok { g with values := g.values ++ [(o, value)] }

/-- Looks at the option that is pending. -/
def settle (g : Given) : Except UsageFault Given :=
  match g.pending with
  | none => .ok g
  | some (o, none) => .error (.noValue o.display)
  | some (o, some value) => { g with pending := none }.add o value

/-- Looks at the pending option and then at another one. -/
def take (g : Given) (o : CommandOption) (value : String) : Except UsageFault Given := do
  (← g.settle).add o value

/-- Looks at the pending option and waits for the value of another one. -/
def expect (g : Given) (o : CommandOption) : Except UsageFault Given := do
  return { (← g.settle) with pending := some (o, none) }

/-- Takes an option by its long name. -/
def takeLong (g : Given) (options : List CommandOption) (name : String) (value : Option String) :
    Except UsageFault Given :=
  match options.find? (·.longName == name), value with
  | none, _ => .error (.unknownArgument ("--" ++ name))
  | some o, some value =>
    if o.takesValue then g.take o value else .error (.needlessValue o.display)
  | some o, none => if o.takesValue then g.expect o else g.take o ""

/-- Takes options by their letters. What follows the letter of an option with a value is the value,
after an equals sign or without one. -/
def takeLetters (options : List CommandOption) : Given → List Char → Except UsageFault Given
  | g, [] => .ok g
  | g, c :: r =>
    match options.find? (·.letter? == some c) with
    | none => .error (.unknownArgument (String.ofList ['-', c]))
    | some o =>
      if o.takesValue then
        match r with
        | [] => g.expect o
        | '=' :: value => g.take o (String.ofList value)
        | value => g.take o (String.ofList value)
      else do takeLetters options (← g.take o "") r

/-- The names at a level: those of all commands at the first, none at the second. -/
inductive Level where
  | program
  | command
deriving DecidableEq, Repr

/-- The command that a word names at a level. -/
def commandAt? (level : Level) (word : String) : Option CommandName :=
  match level with
  | .program => CommandName.ofName? word
  | .command => none

/-- A word that is neither an option, a value nor a command. -/
def stray (level : Level) (word : String) : UsageFault :=
  match level with
  | .program => .unknownCommand word
  | .command => .unknownArgument word

/-- A word after a divider, where even a command has no place. -/
def strayBehind (level : Level) (word : String) : UsageFault :=
  if (commandAt? level word).isSome then .unknownArgument word else stray level word

/-- Reads the words of a level with the given options, up to the name of a command. The command
and the words after its name come with the result. -/
def readWords (level : Level) (options : List CommandOption) :
    Given → List String → Except UsageFault (Given × Option (CommandName × List String))
  | g, [] => .ok (g, none)
  | g, word :: words =>
    match g.pending, commandAt? level word, Word.ofString word with
    | some (o, none), _, .plain => readWords level options { g with pending := some (o, some word) } words
    | some (_, some _), some command, _ | none, some command, _ => .ok (g, some (command, words))
    | _, _, .divider =>
      match words with
      | [] => .ok (g, none)
      | next :: _ => .error (strayBehind level next)
    | _, _, .long name value => do readWords level options (← g.takeLong options name value) words
    | _, _, .letters letters => do readWords level options (← takeLetters options g letters) words
    | _, none, .plain => .error (stray level word)

end Given

end VolumeMigration
