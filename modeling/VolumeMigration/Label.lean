import VolumeMigration.SortedMap
import VolumeMigration.Text.Blank
import VolumeMigration.Text.Cut
/-!
# Labels and label selectors

Labels mark the objects of one transfer. A selector is a text that names label
requirements; `Selector.parse` reads it and `Label.selector` writes the one that
asks for every entry of a label map.
-/

namespace VolumeMigration

namespace Label

/-- Who manages an object. -/
def managedBy : String := "app.kubernetes.io/managed-by"

/-- The value of `managedBy` on every object that this program creates. -/
def manager : String := "ferry"

/-- The part that an object plays in a transfer. -/
def component : String := "app.kubernetes.io/component"

/-- The transfer that an object belongs to. -/
def transfer : String := "ferry.dev/transfer"

/-- The most bytes that a label value has. -/
def maxValueLength : Nat := 63

/-- What is wrong with a label value. -/
inductive ValueFault where
  | tooLong (length : Nat)
  | badEnds
  | badCharacter (c : Char)
deriving DecidableEq, Repr

def ValueFault.message (value : String) : ValueFault → String
  | tooLong length => s!"label value '{value}' is {length} characters, must be at most {maxValueLength}"
  | badEnds => s!"label value '{value}' must begin and end with an alphanumeric character"
  | badCharacter c => s!"label value '{value}' contains invalid character '{c}'"

/-- The first thing that is wrong with a label value: its length in bytes, its ends, a character. -/
def valueFault? (value : String) : Option ValueFault :=
  let cs := value.toList
  match cs.head?, cs.getLast? with
  | some first, some last =>
    if maxValueLength < value.utf8ByteSize then some (.tooLong value.utf8ByteSize)
    else if !first.isAlphanum || !last.isAlphanum then some .badEnds
    else (cs.find? fun c => !(c.isAlphanum || c == '-' || c == '_' || c == '.')).map .badCharacter
  | _, _ => none

/-- The selector that asks for every entry of a label map. -/
def selector (labels : StringMap) : String :=
  Text.join "," (labels.toList.map fun e => e.1 ++ "=" ++ e.2)

/-- The labels of an object that this program manages. -/
def withManager (labels : StringMap) : StringMap := labels.insert managedBy manager

end Label

/-- What a label selector asks of an object. -/
inductive Requirement where
  | equals (key value : String)
  | has (key : String)
deriving DecidableEq, Repr

namespace Requirement

def Holds (r : Requirement) (labels : StringMap) : Prop :=
  match r with
  | equals key value => labels.get? key = some value
  | has key => (labels.get? key).isSome

instance (r : Requirement) (labels : StringMap) : Decidable (r.Holds labels) := by
  unfold Holds; split <;> infer_instance

end Requirement

namespace Selector

/-- One term of a selector: `key=value`, cut at the first sign, or a bare key. -/
def term (text : List Char) : Requirement :=
  match Text.cutFirst? '=' text with
  | some (key, value) =>
    .equals (String.ofList (Text.trimChars key)) (String.ofList (Text.trimChars value))
  | none => .has (String.ofList text)

/-- The requirements between the commas of a selector; blank ones do not count. -/
def parse (selector : String) : List Requirement :=
  (((Text.cutAll ',' selector.toList).map Text.trimChars).filter (!·.isEmpty)).map term

/-- Whether labels meet every requirement of a selector. -/
def Matches (selector : String) (labels : StringMap) : Prop :=
  ∀ r ∈ parse selector, r.Holds labels

instance (selector : String) (labels : StringMap) : Decidable (Matches selector labels) := by
  unfold Matches; infer_instance

end Selector

end VolumeMigration
