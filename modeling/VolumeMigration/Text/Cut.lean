/-!
# Cutting and joining text

Texts are cut at a single character. `cutAll` keeps every piece, so joining the
pieces with that character gives the text back (`join_cutAll`).
-/

namespace VolumeMigration.Text

/-- The pieces of a list between the occurrences of `sep`; at least one piece, maybe empty. -/
def cutAll (sep : Char) : List Char → List (List Char)
  | [] => [[]]
  | c :: r =>
    if c = sep then [] :: cutAll sep r
    else match cutAll sep r with
      | [] => [[c]]
      | p :: ps => (c :: p) :: ps

/-- The parts before and after the first `sep`. -/
def cutFirst? (sep : Char) : List Char → Option (List Char × List Char)
  | [] => none
  | c :: r => if c = sep then some ([], r) else (cutFirst? sep r).map fun p => (c :: p.1, p.2)

/-- The parts before and after the last `sep`. -/
def cutLast? (sep : Char) (cs : List Char) : Option (List Char × List Char) :=
  (cutFirst? sep cs.reverse).map fun p => (p.2.reverse, p.1.reverse)

/-- What follows `start` in a list that begins with it. -/
def afterStart? (start cs : List Char) : Option (List Char) :=
  if start.isPrefixOf cs then some (cs.drop start.length) else none

/-- The list without `start` at its front, as often as it is there. -/
def dropRepeated (start : List Char) (cs : List Char) : List Char :=
  go cs.length cs
where
  /-- Drops at most `n` occurrences. -/
  go : Nat → List Char → List Char
    | 0, cs => cs
    | n + 1, cs =>
      if start.isEmpty then cs
      else if start.isPrefixOf cs then go n (cs.drop start.length) else cs

/-- The pieces of a text between the occurrences of `sep`. -/
def pieces (sep : Char) (s : String) : List String := (cutAll sep s.toList).map String.ofList

/-- The pieces of a text, joined by `sep`. -/
def join (sep : String) : List String → String
  | [] => ""
  | [s] => s
  | s :: r => s ++ sep ++ join sep r

/-- Joins lists of characters with one character between them. -/
def joinChars (sep : Char) : List (List Char) → List Char
  | [] => []
  | [s] => s
  | s :: r => s ++ sep :: joinChars sep r

theorem cutAll_ne_nil (sep : Char) (cs : List Char) : cutAll sep cs ≠ [] := by
  cases cs with
  | nil => simp [cutAll]
  | cons c r => simp only [cutAll]; split <;> (try split) <;> simp

theorem joinChars_cons_cons (sep : Char) (c : Char) (p : List Char) (ps : List (List Char)) :
    joinChars sep ((c :: p) :: ps) = c :: joinChars sep (p :: ps) := by
  cases ps <;> rfl

/-- Joining the pieces gives the text back. -/
theorem join_cutAll (sep : Char) (cs : List Char) : joinChars sep (cutAll sep cs) = cs := by
  induction cs with
  | nil => rfl
  | cons c r ih =>
    simp only [cutAll]
    split
    · rename_i h
      subst h
      cases hr : cutAll c r with
      | nil => exact absurd hr (cutAll_ne_nil c r)
      | cons p ps => rw [hr] at ih; simp [joinChars, ih]
    · cases hr : cutAll sep r with
      | nil => exact absurd hr (cutAll_ne_nil sep r)
      | cons p ps => rw [hr] at ih; simp only [joinChars_cons_cons, ih]

end VolumeMigration.Text
