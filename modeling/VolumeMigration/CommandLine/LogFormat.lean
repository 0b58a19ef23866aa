import VolumeMigration.Text.Lowercase
/-!
# Log formats
-/

namespace VolumeMigration

/-- The form of log lines. -/
inductive LogFormat where
  | text
  | json
deriving DecidableEq, Repr

/-- A name that no log format has, in small letters. -/
structure UnknownLogFormat where
  name : String
deriving DecidableEq, Repr

def UnknownLogFormat.message (u : UnknownLogFormat) : String :=
  s!"unknown log format '{u.name}', expected 'json' or 'text'"

namespace LogFormat

/-- The format of a name, of which the case does not count. -/
def ofName (s : String) : Except UnknownLogFormat LogFormat :=
  match Text.lowercaseAscii s with
  | "text" => .ok text
  | "json" => .ok json
  | other => .error ⟨other⟩

end LogFormat

end VolumeMigration
