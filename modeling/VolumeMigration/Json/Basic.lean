/-!
# JSON values

Records list their members in the order in which they were given. Numbers that
are not integers of 64 bits are kept as written.
-/

namespace VolumeMigration

inductive Json where
  | null
  | bool (b : Bool)
  | int (n : Int)
  /-- A number that is no integer of 64 bits, as written. -/
  | decimal (literal : String)
  | str (s : String)
  | arr (items : List Json)
  | obj (members : List (String × Json))
deriving BEq, Repr, Inhabited

/-- Members of a record. -/
abbrev Fields := List (String × Json)

namespace Fields

/-- The value of a member, unless it is absent. -/
def get? (fs : Fields) (key : String) : Option Json := (fs.find? fun f => f.1 == key).map (·.2)

/-- The members with other keys. -/
def without (fs : Fields) (keys : List String) : Fields := fs.filter fun f => !keys.contains f.1

/-- Replaces the value of a member, or adds the member at the end. -/
def put (fs : Fields) (key : String) (v : Json) : Fields :=
  if fs.any (fun f => f.1 == key) then fs.map fun f => if f.1 == key then (key, v) else f
  else fs ++ [(key, v)]

/-- No member for an absent value. -/
def opt {α : Type} (key : String) (toJson : α → Json) : Option α → Fields
  | none => []
  | some v => [(key, toJson v)]

end Fields

namespace Json

def isNull : Json → Bool
  | null => true
  | _ => false

def str? : Json → Option String
  | str s => some s
  | _ => none

def bool? : Json → Option Bool
  | bool b => some b
  | _ => none

def int? : Json → Option Int
  | int n => some n
  | _ => none

def arr? : Json → Option (List Json)
  | arr l => some l
  | _ => none

def obj? : Json → Option Fields
  | obj fs => some fs
  | _ => none

/-- The value of a record's member. -/
def member? (j : Json) (key : String) : Option Json := j.obj?.bind (·.get? key)

/-- An absent value is null. -/
def ofOption {α : Type} (toJson : α → Json) : Option α → Json
  | none => null
  | some v => toJson v

end Json

end VolumeMigration
