import VolumeMigration.Json.Form
import VolumeMigration.ObjectName
/-!
# Object metadata

What every object carries besides its content. Fields that a migration does not
look at are kept in `rest`.
-/

namespace VolumeMigration

/-- An object that another object belongs to. -/
structure OwnerReference where
  kind : String
  rest : Fields := []
deriving BEq, Repr

structure Metadata where
  name : Option String := none
  /-- The beginning of a name that the cluster completes. -/
  generateName : Option String := none
  ns : Option String := none
  labels : Option StringMap := none
  annotations : Option StringMap := none
  resourceVersion : Option String := none
  owners : Option (List OwnerReference) := none
  rest : Fields := []
deriving BEq, Repr, Inhabited

namespace OwnerReference

instance : JsonForm OwnerReference where
  toJson o := .obj (Fields.member "kind" o.kind ++ o.rest)
  ofJson? j := do
    let fs ← j.obj?
    some { kind := ← fs.value? "kind", rest := fs.without ["kind"] }

end OwnerReference

namespace Metadata

/-- The name that an object is looked up by. -/
def lookupName (m : Metadata) : String := (m.name.orElse fun _ => m.generateName).getD ""

/-- The labels; none if there is no label map. -/
def labelMap (m : Metadata) : StringMap := m.labels.getD .empty

/-- The value of an annotation. -/
def annotation? (m : Metadata) (key : String) : Option String := m.annotations.bind (·.get? key)

/-- The metadata with an annotation set. -/
def annotate (m : Metadata) (key value : String) : Metadata :=
  { m with annotations := some ((m.annotations.getD .empty).insert key value) }

/-- The metadata without an annotation. -/
def unannotate (m : Metadata) (key : String) : Metadata :=
  { m with annotations := m.annotations.map (·.erase key) }

/-- The metadata with a label set. -/
def label (m : Metadata) (key value : String) : Metadata :=
  { m with labels := some (m.labelMap.insert key value) }

def keys : List String :=
  ["name", "generateName", "namespace", "labels", "annotations", "resourceVersion", "ownerReferences"]

instance : JsonForm Metadata where
  toJson m := .obj
    (Fields.present "name" m.name ++ Fields.present "generateName" m.generateName ++
      Fields.present "namespace" m.ns ++ Fields.present "labels" m.labels ++
      Fields.present "annotations" m.annotations ++ Fields.present "resourceVersion" m.resourceVersion ++
      Fields.present "ownerReferences" m.owners ++ m.rest)
  ofJson? j := do
    let fs ← j.obj?
    some {
      name := ← fs.optional? "name"
      generateName := ← fs.optional? "generateName"
      ns := ← fs.optional? "namespace"
      labels := ← fs.optional? "labels"
      annotations := ← fs.optional? "annotations"
      resourceVersion := ← fs.optional? "resourceVersion"
      owners := ← fs.optional? "ownerReferences"
      rest := fs.without keys }

end Metadata

end VolumeMigration
