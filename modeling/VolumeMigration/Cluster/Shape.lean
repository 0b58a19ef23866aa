import VolumeMigration.Json.Basic
import VolumeMigration.Text.Base64
import VolumeMigration.Text.Digest
import VolumeMigration.Text.Number
import VolumeMigration.Text.Timestamp
/-!
# Shapes of data

A shape says which values a field takes. `Shape.conform?` reads a value as a
cluster reads it: unknown fields are dropped, a missing field is treated as its
`Presence` says, and a value that does not fit is refused.
-/

namespace VolumeMigration

/-- What becomes of a field that is missing. -/
inductive Presence where
  /-- Missing or null, it is left out. -/
  | optional
  /-- Missing or null, it takes its empty value. -/
  | filled
  /-- It may be missing, but not null. -/
  | omittable
  /-- Without it the value is refused. -/
  | demanded
deriving DecidableEq, Repr, Inhabited

inductive Shape where
  /-- Any value, kept as it is. -/
  | any
  | text
  | flag
  | int32
  | int64
  /-- A 32-bit number or a text. -/
  | intOrText
  /-- Bytes in base64. -/
  | bytes
  /-- A point in time, written in universal time. -/
  | time
  | list (item : Shape)
  /-- Values of one shape under arbitrary keys. -/
  | map (value : Shape)
  /-- Named fields, each with what becomes of it if it is missing. -/
  | record (fields : List (String × Presence × Shape))
deriving Inhabited

namespace Shape

/-- A field that may be absent. -/
def field (name : String) (s : Shape) : String × Presence × Shape := (name, .optional, s)

/-- A field that is always written. -/
def filled (name : String) (s : Shape) : String × Presence × Shape := (name, .filled, s)

/-- A field that may be absent but not null. -/
def omittable (name : String) (s : Shape) : String × Presence × Shape := (name, .omittable, s)

/-- A field that has to be given. -/
def demanded (name : String) (s : Shape) : String × Presence × Shape := (name, .demanded, s)

mutual

/-- What a filled field holds if it is missing. -/
def blank : Shape → Json
  | any => .null
  | text | bytes | time => .str ""
  | flag => .bool false
  | int32 | int64 | intOrText => .int 0
  | list _ => .arr []
  | map _ => .obj []
  | record fields => .obj (blankFields fields)

def blankFields : List (String × Presence × Shape) → Fields
  | [] => []
  | (name, .filled, s) :: rest => (name, blank s) :: blankFields rest
  | _ :: rest => blankFields rest

end

mutual

/-- A value read as one of the shape. -/
def conform? : Shape → Json → Option Json
  | any, j => some j
  | text, .str s => some (.str s)
  | flag, .bool b => some (.bool b)
  | int32, .int n => (Text.within? Text.minInt32 Text.maxInt32 n).map .int
  | int64, .int n => (Text.within? Text.minInt64 Text.maxInt64 n).map .int
  | intOrText, .int n => (Text.within? Text.minInt32 Text.maxInt32 n).map .int
  | intOrText, .str s => some (.str s)
  | bytes, .str s =>
    (Text.Base64.decode? s.toList).map fun b => .str (String.ofList (Text.Base64.encode b))
  | time, .str s => (Text.Timestamp.read? s).map fun t => .str t.render
  | list item, .arr js => (js.mapM (conform? item)).map .arr
  | map value, .obj fs => (fs.mapM fun f => (conform? value f.2).map (f.1, ·)).map .obj
  | record fields, .obj fs => (conformFields? fields fs).map .obj
  | _, _ => none

def conformFields? : List (String × Presence × Shape) → Fields → Option Fields
  | [], _ => some []
  | (name, presence, s) :: rest, fs => do
    let others ← conformFields? rest fs
    match fs.get? name, presence with
    | none, .optional | some .null, .optional | none, .omittable => some others
    | none, .filled | some .null, .filled => some ((name, blank s) :: others)
    | none, .demanded => none
    | some j, _ => do
      let v ← conform? s j
      some ((name, v) :: others)

end

end Shape

end VolumeMigration
