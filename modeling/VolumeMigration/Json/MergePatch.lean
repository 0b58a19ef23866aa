import VolumeMigration.Json.Basic
/-!
# Merge patches

A patch that is a record changes the members it names: a null removes a member,
anything else is merged into it. Every other patch replaces the value.
-/

namespace VolumeMigration.Json

mutual

/-- `target` changed by `patch`. -/
def mergePatch (target patch : Json) : Json :=
  match patch with
  | obj members => obj (mergeMembers (target.obj?.getD []) members)
  | other => other

/-- The members of a record after those of a patch. -/
def mergeMembers (base : Fields) : List (String × Json) → Fields
  | [] => base
  | (k, null) :: rest => mergeMembers (base.without [k]) rest
  | (k, v) :: rest => mergeMembers (base.put k (mergePatch ((base.get? k).getD null) v)) rest

end

end VolumeMigration.Json
