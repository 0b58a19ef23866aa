import VolumeMigration.Text.Cut
/-!
# Directories of file paths

Paths use slashes. Empty parts and `.` parts after the first do not count.
-/

namespace VolumeMigration.Text

/-- The start of a path that is no ordinary part: the root, or a leading `.`. -/
def pathHead : List Char → List Char × List Char
  | '/' :: r => (['/'], r)
  | ['.'] => (['.'], [])
  | '.' :: '/' :: r => (['.'], '/' :: r)
  | cs => ([], cs)

/-- The parts without those at the end that do not count. -/
def dropTrivialParts (parts : List (List Char)) : List (List Char) :=
  (parts.reverse.dropWhile fun p => p == [] || p == ['.']).reverse

/-- The directory that holds the file: the path without its last part, and the root where
nothing is left. -/
def directoryOf (file : String) : String :=
  let (head, body) := pathHead file.toList
  match (dropTrivialParts (cutAll '/' body)).reverse with
  | [] => "/"
  | _ :: rest =>
    let dir := head ++ joinChars '/' (dropTrivialParts rest.reverse)
    if dir.isEmpty then "/" else String.ofList dir

end VolumeMigration.Text
