import VolumeMigration.Json.Basic
import VolumeMigration.Text.Digest
/-!
# Writing JSON

Compact text. In a string the quote, the backslash and the control characters
are escaped and every other character stands for itself.
-/

namespace VolumeMigration.Json

/-- A character within a string. -/
def escapeChar (c : Char) : List Char :=
  if c = '"' then ['\\', '"']
  else if c = '\\' then ['\\', '\\']
  else if c = '\n' then ['\\', 'n']
  else if c = '\t' then ['\\', 't']
  else if c = '\r' then ['\\', 'r']
  else if c.toNat = 8 then ['\\', 'b']
  else if c.toNat = 12 then ['\\', 'f']
  else if c.toNat < 32 then
    ['\\', 'u', '0', '0', Text.hexDigit (c.toNat / 16), Text.hexDigit (c.toNat % 16)]
  else [c]

/-- A string in quotes. -/
def writeString (s : String) : List Char := '"' :: s.toList.flatMap escapeChar ++ ['"']

mutual

def write : Json → List Char
  | null => "null".toList
  | bool b => (if b then "true" else "false").toList
  | int n => (Int.repr n).toList
  | decimal literal => literal.toList
  | str s => writeString s
  | arr [] => ['[', ']']
  | arr (j :: js) => '[' :: write j ++ writeItems js ++ [']']
  | obj [] => ['{', '}']
  | obj ((k, v) :: fs) => '{' :: writeString k ++ ':' :: write v ++ writeMembers fs ++ ['}']

/-- The items after the first. -/
def writeItems : List Json → List Char
  | [] => []
  | j :: js => ',' :: write j ++ writeItems js

/-- The members after the first. -/
def writeMembers : List (String × Json) → List Char
  | [] => []
  | (k, v) :: fs => ',' :: writeString k ++ ':' :: write v ++ writeMembers fs

end

/-- A value as compact text. -/
def render (j : Json) : String := String.ofList j.write

end VolumeMigration.Json
