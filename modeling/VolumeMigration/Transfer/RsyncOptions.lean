import VolumeMigration.Failure
import VolumeMigration.Text.Blank
import VolumeMigration.Text.DecimalDigit
import VolumeMigration.Text.Number
/-!
# Options of rsync

What the rsync client is told to do. The options can be written as flags and
read back from them; a flag that is none of the named options is an extra.
-/

namespace VolumeMigration

/-- An option that is on or off. -/
inductive RsyncSwitch where
  | recursive
  | links
  | perms
  | devices
  | specials
  | owner
  | group
  | hardLinks
  | delete
  | partialFiles
  | humanReadable
deriving DecidableEq, Repr

namespace RsyncSwitch

/-- Every switch, in the order of the flags. -/
def all : List RsyncSwitch :=
  [recursive, links, perms, devices, specials, owner, group, hardLinks, delete, partialFiles, humanReadable]

theorem mem_all (s : RsyncSwitch) : s ∈ all := by cases s <;> decide

def flag : RsyncSwitch → String
  | recursive => "--recursive"
  | links => "--links"
  | perms => "--perms"
  | devices => "--devices"
  | specials => "--specials"
  | owner => "--owner"
  | group => "--group"
  | hardLinks => "--hard-links"
  | delete => "--delete"
  | partialFiles => "--partial"
  | humanReadable => "--human-readable"

def ofFlag? (s : String) : Option RsyncSwitch := all.find? (·.flag == s)

end RsyncSwitch

structure RsyncOptions where
  /-- Which switches are on. -/
  on : RsyncSwitch → Bool
  /-- The most kibibytes in a second. -/
  bwLimit : Option Int
  logFile : Option String
  /-- What the client reports. -/
  info : List String
  /-- Any other flags, passed on as they are. -/
  extras : List String

namespace RsyncOptions

instance : DecidableEq RsyncOptions := fun a b =>
  decidable_of_iff
    ((∀ s ∈ RsyncSwitch.all, a.on s = b.on s) ∧ a.bwLimit = b.bwLimit ∧ a.logFile = b.logFile ∧
      a.info = b.info ∧ a.extras = b.extras) (by
    constructor
    · rintro ⟨h, h₁, h₂, h₃, h₄⟩
      have h₀ : a.on = b.on := funext fun s => h s s.mem_all
      cases a; cases b; simp_all
    · rintro rfl; simp)

/-- Everything on, as for an archive. -/
def archive : RsyncOptions :=
  { on := fun _ => true
    bwLimit := some 1048576
    logFile := none
    info := ["COPY2", "DEL2", "REMOVE2", "SKIP2", "FLIST2", "PROGRESS2", "STATS2"]
    extras := [] }

/-- Nothing on and no limit set. -/
def bare : RsyncOptions := { on := fun _ => false, bwLimit := none, logFile := none, info := [], extras := [] }

/-- The options with a switch set. -/
def withSwitch (o : RsyncOptions) (s : RsyncSwitch) (value : Bool) : RsyncOptions :=
  { o with on := fun s' => if s' = s then value else o.on s' }

/-- What is wrong with options or flags. -/
inductive Fault where
  | noLimit
  | limitNotInteger (text : String)
  | limitNotPositive (limit : Int)
  | emptyLogFile
  | illegalInfo (flag : String)
  | illegalExtra (flag : String)
deriving DecidableEq, Repr

def Fault.message : Fault → String
  | noLimit => "rsync bandwidth limit is required"
  | limitNotInteger text => s!"rsync bandwidth limit '{text}' is not an integer"
  | limitNotPositive limit => s!"rsync bandwidth limit must be positive, got {limit}"
  | emptyLogFile => "rsync log file must not be empty"
  | illegalInfo flag => s!"rsync info flag '{flag}' must match [A-Z]+\\d?"
  | illegalExtra flag => s!"rsync extra flag '{flag}' must look like -x or --long-flag[=value]"

/-- Whether a text is capital letters and maybe one decimal digit. -/
def isInfoFlag (s : String) : Bool :=
  let rest := s.toList.dropWhile Char.isUpper
  !s.isEmpty && rest.length < s.toList.length && (rest.isEmpty || (rest.length == 1 && rest.all Text.isDecimalDigit))

/-- A character of a long flag's name. -/
def isNameChar (c : Char) : Bool := c.isDigit || c.isLower

/-- Whether a text is words of a long flag's name with single dashes between them. -/
def isLongName (cs : List Char) : Bool := (Text.cutAll '-' cs).all fun w => !w.isEmpty && w.all isNameChar

/-- Whether a text is one letter or digit after a dash, or a name after two dashes with maybe a
value without blanks. -/
def isExtraFlag (s : String) : Bool :=
  match s.toList with
  | ['-', c] => c.isAlphanum
  | '-' :: '-' :: r =>
    match Text.cutFirst? '=' r with
    | none => isLongName r
    | some (name, value) => isLongName name && !value.isEmpty && value.all fun c => !Text.isBlank c
  | _ => false

/-- What is wrong with the values that are set. -/
def valueFaults (o : RsyncOptions) : List Fault :=
  ((o.bwLimit.filter (· ≤ 0)).map .limitNotPositive).toList ++
  (if o.logFile == some "" then [.emptyLogFile] else []) ++
  (o.info.filter fun f => !isInfoFlag f).map .illegalInfo ++
  (o.extras.filter fun f => !isExtraFlag f).map .illegalExtra

/-- Everything that is wrong with the options. -/
def faults (o : RsyncOptions) : List Fault :=
  (if o.bwLimit.isNone then [.noLimit] else []) ++ o.valueFaults

/-- Passes if nothing is wrong with the options, and reports everything else. -/
def validate (o : RsyncOptions) : Result Unit :=
  Failure.checkValidation (o.faults.map (·.message))

/-! ## Flags -/

def limitStart : String := "--bwlimit="

def logFileStart : String := "--log-file="

def infoStart : String := "--info="

/-- The flags for the options: the switches, the values that are set, the extras. -/
def toFlags (o : RsyncOptions) : List String :=
  (RsyncSwitch.all.filter o.on).map (·.flag) ++
  (o.bwLimit.map fun n => limitStart ++ Int.repr n).toList ++
  (o.logFile.map fun path => logFileStart ++ path).toList ++
  (if o.info.isEmpty then [] else [infoStart ++ Text.join "," o.info]) ++
  o.extras

/-- The value of a flag that begins with `start`. -/
def flagValue? (start flag : String) : Option String :=
  (Text.afterStart? start.toList flag.toList).map String.ofList

/-- Adds one flag to options and to what is wrong with the flags so far. -/
def addFlag (s : RsyncOptions × List Fault) (flag : String) : RsyncOptions × List Fault :=
  let (o, faults) := s
  match RsyncSwitch.ofFlag? flag, flagValue? limitStart flag, flagValue? logFileStart flag,
    flagValue? infoStart flag with
  | some switch, _, _, _ => (o.withSwitch switch true, faults)
  | none, some text, _, _ =>
    match Text.readInt64? text with
    | some n => ({ o with bwLimit := some n }, faults)
    | none => (o, faults ++ [.limitNotInteger text])
  | none, none, some path, _ => ({ o with logFile := some path }, faults)
  | none, none, none, some text =>
    ({ o with info := o.info ++ (Text.pieces ',' text).filter (!·.isEmpty) }, faults)
  | none, none, none, none => ({ o with extras := o.extras ++ [flag] }, faults)

/-- The options that flags stand for, blanks around a flag left out. The limit may be missing. -/
def ofFlags (flags : List String) : Result RsyncOptions := do
  let (o, faults) := (flags.map Text.trim).foldl addFlag (bare, [])
  Failure.checkValidation ((faults ++ o.valueFaults).map (·.message))
  return o

end RsyncOptions

end VolumeMigration
