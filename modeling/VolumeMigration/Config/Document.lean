import VolumeMigration.Json.Basic
import VolumeMigration.SortedMap
import VolumeMigration.Text.Cut
import VolumeMigration.Text.Number
import VolumeMigration.Yaml.Node
/-!
# Documents

A document is a value of JSON or YAML as options are read from it. A plain
scalar of YAML also counts as the text that it is written with, so that a name
may look like a number; where values are told apart by what they are, that text
is taken away (`Document.strict?`). A record may be given as a list of its
fields in order.
-/

namespace VolumeMigration

/-- What a scalar stands for. -/
inductive ScalarValue where
  | null
  | bool (b : Bool)
  | int (n : Int)
  /-- A number that is no integer of 64 bits. -/
  | number
  | text (s : String)
  /-- A value of a kind that nothing is read from. -/
  | unusable
deriving DecidableEq, Repr

inductive Document where
  /-- A scalar, with the text that it also counts as. -/
  | scalar (value : ScalarValue) (text : Option String)
  | list (items : List Document)
  | record (members : List (Document × Document))
  /-- A value that is marked as one of a kind of its own. -/
  | marked (d : Document)
deriving Repr, Inhabited

namespace ScalarValue

/-- Whether a scalar is digits of which the first does not count. -/
def hasLeadingZero (cs : List Char) : Bool :=
  let digits := match cs with
    | '-' :: r => r
    | '+' :: r => r
    | r => r
  1 < digits.length && digits.head? == some '0' && digits.all Char.isDigit

/-- The bases of integers and what they begin with. -/
def bases : List (List Char × Nat) := [(['0', 'x'], 16), (['0', 'o'], 8), (['0', 'b'], 2)]

/-- The digits of an integer without a sign, in any base. -/
def magnitude? (cs : List Char) : Option Nat :=
  let based := bases.findSome? fun b => (Text.afterStart? b.1 cs).bind (Text.digits? b.2)
  match based with
  | some n => some n
  | none => if hasLeadingZero cs then none else Text.digits? 10 cs

/-- The integer that a plain scalar spells. -/
def integer? (cs : List Char) : Option Int :=
  match cs with
  | '-' :: r => (magnitude? r).map fun n => -Int.ofNat n
  | '+' :: r => (magnitude? r).map Int.ofNat
  | r => (magnitude? r).map Int.ofNat

/-- Whether a text is an exponent of a number, or nothing. -/
def isExponent : List Char → Bool
  | [] => true
  | e :: r =>
    let digits := match r with
      | '+' :: ds => ds
      | '-' :: ds => ds
      | ds => ds
    (e == 'e' || e == 'E') && !digits.isEmpty && digits.all Char.isDigit

/-- Whether a text is digits, maybe with a point among them, and maybe an exponent. -/
def isDecimal (cs : List Char) : Bool :=
  let (whole, r) := (cs.takeWhile Char.isDigit, cs.dropWhile Char.isDigit)
  let (fraction, r) := match r with
    | '.' :: r => (r.takeWhile Char.isDigit, r.dropWhile Char.isDigit)
    | r => ([], r)
  !(whole ++ fraction).isEmpty && isExponent r

/-- Whether a plain scalar spells a number that is no integer. -/
def isNumber (cs : List Char) : Bool :=
  let s := String.ofList cs
  if ["-.inf", "-.Inf", "-.INF", ".nan", ".NaN", ".NAN"].contains s then true
  else
    let (signed, r) := match cs with
      | '+' :: r => (true, r)
      | '-' :: r => (true, r)
      | r => (false, r)
    let again := match r with
      | '+' :: _ => true
      | '-' :: _ => true
      | _ => false
    if signed && again then false
    else if [".inf", ".Inf", ".INF"].contains (String.ofList r) then true
    else isDecimal r

/-- An integer as a value; one of more than 64 bits is of no use. -/
def ofInteger (n : Int) : ScalarValue :=
  if Text.minInt64 ≤ n ∧ n ≤ Text.maxUInt64 then int n
  else if Text.minInt128 ≤ n ∧ n ≤ Text.maxUInt128 then unusable
  else number

/-- What a plain scalar stands for. -/
def ofPlain (s : String) : ScalarValue :=
  if ["", "null", "Null", "NULL", "~"].contains s then null
  else if ["true", "True", "TRUE"].contains s then bool true
  else if ["false", "False", "FALSE"].contains s then bool false
  else match integer? s.toList with
    | some n => ofInteger n
    | none => if !hasLeadingZero s.toList && isNumber s.toList then number else text s

/-- What a scalar with a tag stands for. -/
def ofTagged (tag s : String) : ScalarValue :=
  let value := ofPlain s
  match tag with
  | "tag:yaml.org,2002:null" => if value == null && !s.isEmpty then null else unusable
  | "tag:yaml.org,2002:bool" => match value with
    | bool b => bool b
    | _ => unusable
  | "tag:yaml.org,2002:int" => match value with
    | int n => int n
    | _ => unusable
  | "tag:yaml.org,2002:float" => match value with
    | number | int _ => number
    | _ => unusable
  | _ => text s

end ScalarValue

namespace Document

/-! ## Documents of JSON and YAML -/

mutual

def ofJson : Json → Document
  | .null => scalar .null none
  | .bool b => scalar (.bool b) none
  | .int n => scalar (.int n) none
  | .decimal _ => scalar .number none
  | .str s => scalar (.text s) none
  | .arr items => list (ofItems items)
  | .obj members => record (ofMembers members)

def ofItems : List Json → List Document
  | [] => []
  | j :: js => ofJson j :: ofItems js

def ofMembers : List (String × Json) → List (Document × Document)
  | [] => []
  | (k, v) :: r => (scalar (.text k) none, ofJson v) :: ofMembers r

end

/-- Marks a document that has a tag of its own. -/
def mark (tag : Option String) (d : Document) : Document :=
  if tag.any fun t => t.startsWith "!" then marked d else d

/-- A scalar of YAML. -/
def ofScalar (tag : Option String) (plain : Bool) (s : String) : Document :=
  let value := match tag with
    | some t => if t.startsWith "!" && plain then ScalarValue.ofPlain s else ScalarValue.ofTagged t s
    | none => if plain then ScalarValue.ofPlain s else .text s
  scalar value (some s)

mutual

def ofNode : Yaml.Node → Document
  | .scalar tag plain s => mark tag (ofScalar tag plain s)
  | .sequence tag items => mark tag (list (ofNodes items))
  | .mapping tag entries => mark tag (record (ofEntries entries))

def ofNodes : List Yaml.Node → List Document
  | [] => []
  | n :: ns => ofNode n :: ofNodes ns

def ofEntries : List (Yaml.Node × Yaml.Node) → List (Document × Document)
  | [] => []
  | (k, v) :: r => (ofNode k, ofNode v) :: ofEntries r

end

mutual

/-- The document in which a scalar counts as nothing but its value. A marked value, or one of no
use, makes the whole document unusable. -/
def strict? : Document → Option Document
  | scalar .unusable _ => none
  | scalar value _ => some (scalar value none)
  | list items => (strictItems? items).map list
  | record members => (strictMembers? members).map record
  | marked _ => none

def strictItems? : List Document → Option (List Document)
  | [] => some []
  | d :: ds => do some ((← strict? d) :: (← strictItems? ds))

def strictMembers? : List (Document × Document) → Option (List (Document × Document))
  | [] => some []
  | (k, v) :: r => do some ((← strict? k, ← strict? v) :: (← strictMembers? r))

end

mutual

/-- How many lists and records are within each other. -/
def depth : Document → Nat
  | scalar .. => 0
  | list items => depthOfItems items + 1
  | record members => depthOfMembers members + 1
  | marked d => depth d

def depthOfItems : List Document → Nat
  | [] => 0
  | d :: ds => max (depth d) (depthOfItems ds)

def depthOfMembers : List (Document × Document) → Nat
  | [] => 0
  | (k, v) :: r => max (max (depth k) (depth v)) (depthOfMembers r)

end

/-! ## Reading values -/

/-- The document without its mark. -/
def plain : Document → Document
  | marked d => plain d
  | d => d

/-- A text, which every scalar of YAML is. -/
def text? (d : Document) : Option String :=
  match d.plain with
  | scalar (.text s) _ => some s
  | scalar _ text => text
  | _ => none

def bool? (d : Document) : Option Bool :=
  match d.plain with
  | scalar (.bool b) _ => some b
  | _ => none

/-- An integer between two bounds. -/
def int? (lo hi : Int) (d : Document) : Option Int :=
  match d.plain with
  | scalar (.int n) _ => Text.within? lo hi n
  | _ => none

/-- A number without a sign, up to a bound. -/
def nat? (hi : Int) (d : Document) : Option Nat := (d.int? 0 hi).map Int.toNat

def isNull (d : Document) : Bool :=
  match d.plain with
  | scalar .null _ => true
  | _ => false

/-- A value that may be null. -/
def optional? {α : Type} (read : Document → Option α) (d : Document) : Option (Option α) :=
  if d.isNull then some none else (read d).map some

/-- The items of a list. YAML writes an empty list as nothing at all. -/
def items? (d : Document) : Option (List Document) :=
  match d.plain with
  | list items => some items
  | scalar .null (some _) => some []
  | _ => none

/-- A list of values. -/
def list? {α : Type} (read : Document → Option α) (d : Document) : Option (List α) :=
  d.items?.bind (·.mapM read)

/-- A map from texts to texts, of whose entries with one key the last counts. YAML writes an empty
map as nothing at all. -/
def stringMap? (d : Document) : Option StringMap :=
  match d.plain with
  | record members =>
    (members.mapM fun (m : Document × Document) => do some (← m.1.text?, ← m.2.text?)).map SortedMap.ofList
  | scalar .null (some _) => some .empty
  | _ => none

/-! ## Records -/

/-- The given ones of a record's fields. -/
abbrev Members := List (String × Document)

/-- The field that a key names. A number names the field in its place, and an unknown name none. -/
def fieldOf? (names : List String) (key : Document) : Option (Option String) :=
  match key.text?, key.plain with
  | some s, _ => some (names.find? (· == s))
  | none, scalar (.int n) none => if 0 ≤ n then some names[n.toNat]? else none
  | none, _ => none

/-- The given fields of a record, none of which may be given twice. -/
def members? (names : List String) : List (Document × Document) → Option Members
  | [] => some []
  | (k, v) :: r => do
    let field ← fieldOf? names k
    let rest ← members? names r
    match field with
    | none => some rest
    | some name => if rest.any (·.1 == name) then none else some ((name, v) :: rest)

/-- The fields of a record, by name or in the given order. -/
def fields? (names : List String) (d : Document) : Option Members :=
  match d.plain with
  | list items => if items.length ≤ names.length then some (names.zip items) else none
  | record members => members? names members
  | _ => none

namespace Members

def get? (ms : Members) (name : String) : Option Document := (ms.find? (·.1 == name)).map (·.2)

/-- The value of a field, which has to be given. -/
def value? {α : Type} (ms : Members) (name : String) (read : Document → Option α) : Option α :=
  (ms.get? name).bind read

/-- The value of a field, or a default if it is not given. -/
def valueOr? {α : Type} (ms : Members) (name : String) (default : α) (read : Document → Option α) : Option α :=
  match ms.get? name with
  | none => some default
  | some d => read d

end Members

end Document

end VolumeMigration
