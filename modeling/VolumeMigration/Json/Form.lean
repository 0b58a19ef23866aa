import VolumeMigration.Json.Basic
import VolumeMigration.SortedMap
/-!
# Values with a JSON form
-/

namespace VolumeMigration

/-- How the values of a type are written as JSON, and read back. -/
class JsonForm (α : Type) where
  toJson : α → Json
  ofJson? : Json → Option α

namespace JsonForm

instance : JsonForm Json := ⟨id, some⟩
instance : JsonForm String := ⟨.str, Json.str?⟩
instance : JsonForm Bool := ⟨.bool, Json.bool?⟩
instance : JsonForm Int := ⟨.int, Json.int?⟩

instance {α : Type} [JsonForm α] : JsonForm (List α) :=
  ⟨fun l => .arr (l.map toJson), fun j => j.arr?.bind (·.mapM ofJson?)⟩

/-- A map is a record with the entries as members. -/
instance {α : Type} [JsonForm α] : JsonForm (SortedMap String α) where
  toJson m := .obj (m.toList.map fun e => (e.1, toJson e.2))
  ofJson? j := (j.obj?.bind (·.mapM fun f => (ofJson? f.2).map (f.1, ·))).map SortedMap.ofList

end JsonForm

namespace Fields

open JsonForm

variable {α : Type} [JsonForm α]

/-- The member `key`, which has to be there. -/
def value? (fs : Fields) (key : String) : Option α := (fs.get? key).bind ofJson?

/-- The member `key`, if it is there. -/
def optional? (fs : Fields) (key : String) : Option (Option α) :=
  match fs.get? key with
  | none => some none
  | some j => (ofJson? j).map some

/-- A member for a value. -/
def member (key : String) (v : α) : Fields := [(key, toJson v)]

/-- A member for a value that is present. -/
def present (key : String) (v : Option α) : Fields := Fields.opt key toJson v

end Fields

end VolumeMigration
