import VolumeMigration.Json.Basic
import VolumeMigration.Text.Cut
import VolumeMigration.Text.Number
/-!
# Reading JSON

A text holds one value with blanks around it. An escaped surrogate needs its
other half next to it.
-/

namespace VolumeMigration.Json

/-- The blanks between tokens. -/
def isGap (c : Char) : Bool := c == ' ' || c == '\n' || c == '\t' || c == '\r'

def skipGap (cs : List Char) : List Char := cs.dropWhile isGap

/-- What a string is spelled with: a character, or half of a surrogate pair. -/
inductive Unit16 where
  | char (c : Char)
  | high (n : Nat)
  | low (n : Nat)

/-- The unit that four hexadecimal digits spell. -/
def escapedUnit? (digits : List Char) : Option Unit16 :=
  (Text.digits? 16 digits).map fun n =>
    if 0xD800 ≤ n ∧ n < 0xDC00 then .high (n - 0xD800)
    else if 0xDC00 ≤ n ∧ n < 0xE000 then .low (n - 0xDC00)
    else .char (Char.ofNat n)

/-- The characters that units spell, unless half of a pair stands alone. -/
def joinUnits? : List Unit16 → Option (List Char)
  | [] => some []
  | .char c :: r => (joinUnits? r).map (c :: ·)
  | .high h :: .low l :: r => (joinUnits? r).map (Char.ofNat (0x10000 + h * 1024 + l) :: ·)
  | _ => none

/-- The character that a short escape stands for. -/
def shortEscape? (c : Char) : Option Char :=
  if c = '"' then some '"'
  else if c = '\\' then some '\\'
  else if c = '/' then some '/'
  else if c = 'b' then some (Char.ofNat 8)
  else if c = 'f' then some (Char.ofNat 12)
  else if c = 'n' then some '\n'
  else if c = 'r' then some '\r'
  else if c = 't' then some '\t'
  else none

/-- The units up to the closing quote, and what follows the quote. -/
def readUnits? : List Char → Option (List Unit16 × List Char)
  | [] => none
  | '"' :: r => some ([], r)
  | '\\' :: 'u' :: a :: b :: c :: d :: r => do
    let u ← escapedUnit? [a, b, c, d]
    let (us, rest) ← readUnits? r
    some (u :: us, rest)
  | '\\' :: c :: r => do
    let c ← shortEscape? c
    let (us, rest) ← readUnits? r
    some (.char c :: us, rest)
  | c :: r =>
    if c.toNat < 32 ∨ c = '\\' then none
    else do
      let (us, rest) ← readUnits? r
      some (.char c :: us, rest)

/-- The string after its opening quote. -/
def readString? (cs : List Char) : Option (String × List Char) := do
  let (us, rest) ← readUnits? cs
  let s ← joinUnits? us
  some (String.ofList s, rest)

/-- The digits at the front. -/
def spanDigits (cs : List Char) : List Char × List Char := (cs.takeWhile Char.isDigit, cs.dropWhile Char.isDigit)

/-- The fraction of a number: nothing, or a point and at least one digit. -/
def readFraction? : List Char → Option (List Char × List Char)
  | '.' :: r =>
    let (ds, rest) := spanDigits r
    if ds.isEmpty then none else some ('.' :: ds, rest)
  | r => some ([], r)

/-- The exponent of a number: nothing, or a letter, a sign or none, and at least one digit. -/
def readExponent? (cs : List Char) : Option (List Char × List Char) :=
  match cs with
  | [] => some ([], [])
  | e :: r =>
    if e = 'e' ∨ e = 'E' then
      let (sign, r) := match r with
        | '+' :: r' => (['+'], r')
        | '-' :: r' => (['-'], r')
        | r' => ([], r')
      let (ds, rest) := spanDigits r
      if ds.isEmpty then none else some (e :: sign ++ ds, rest)
    else some ([], cs)

/-- The integer that a sign and digits spell, if 64 bits hold it; `-0` is none. -/
def integer? (negative : Bool) (ds : List Char) : Option Int := do
  let n ← Text.digits? 10 ds
  if negative then if n = 0 then none else Text.within? Text.minInt64 (-1) (-Int.ofNat n)
  else Text.within? 0 Text.maxUInt64 (Int.ofNat n)

def readNumber? (cs : List Char) : Option (Json × List Char) := do
  let (negative, r) := match cs with
    | '-' :: r => (true, r)
    | r => (false, r)
  let (ds, r) := spanDigits r
  if ds.isEmpty ∨ (ds.head? = some '0' ∧ 1 < ds.length) then none
  else
    let (fraction, r) ← readFraction? r
    let (exponent, r) ← readExponent? r
    let literal := (if negative then ['-'] else []) ++ ds ++ fraction ++ exponent
    match fraction ++ exponent, integer? negative ds with
    | [], some n => some (.int n, r)
    | _, _ => some (.decimal (String.ofList literal), r)

mutual

/-- The value at the front of a text without a gap before it. -/
def readValue? : Nat → List Char → Option (Json × List Char)
  | 0, _ => none
  | _, [] => none
  | n + 1, '{' :: r => match skipGap r with
    | '}' :: r => some (.obj [], r)
    | r => (readMembers? n r).map fun p => (.obj p.1, p.2)
  | n + 1, '[' :: r => match skipGap r with
    | ']' :: r => some (.arr [], r)
    | r => (readItems? n r).map fun p => (.arr p.1, p.2)
  | _, '"' :: r => (readString? r).map fun p => (.str p.1, p.2)
  | _, c :: r =>
    if c = 't' then (Text.afterStart? "rue".toList r).map fun r => (.bool true, r)
    else if c = 'f' then (Text.afterStart? "alse".toList r).map fun r => (.bool false, r)
    else if c = 'n' then (Text.afterStart? "ull".toList r).map fun r => (.null, r)
    else readNumber? (c :: r)

/-- The items up to the closing bracket. -/
def readItems? : Nat → List Char → Option (List Json × List Char)
  | 0, _ => none
  | n + 1, cs => do
    let (v, r) ← readValue? n cs
    match skipGap r with
    | ',' :: r => do
      let (vs, r) ← readItems? n (skipGap r)
      some (v :: vs, r)
    | ']' :: r => some ([v], r)
    | _ => none

/-- The members up to the closing brace. -/
def readMembers? : Nat → List Char → Option (Fields × List Char)
  | n + 1, '"' :: r => do
    let (k, r) ← readString? r
    match skipGap r with
    | ':' :: r => do
      let (v, r) ← readValue? n (skipGap r)
      match skipGap r with
      | ',' :: r => do
        let (fs, r) ← readMembers? n (skipGap r)
        some ((k, v) :: fs, r)
      | '}' :: r => some ([(k, v)], r)
      | _ => none
    | _ => none
  | _, _ => none

end

/-- The value that a text holds, with every member as it was given. -/
def parseVerbatim? (s : String) : Option Json := do
  let cs := skipGap s.toList
  let (v, r) ← readValue? (cs.length + 1) cs
  if (skipGap r).isEmpty then some v else none

mutual

/-- The value in which the last of several members with one key counts. -/
def lastWins : Json → Json
  | arr js => arr (lastWinsItems js)
  | obj fs => obj (lastWinsMembers fs)
  | j => j

def lastWinsItems : List Json → List Json
  | [] => []
  | j :: js => lastWins j :: lastWinsItems js

def lastWinsMembers : List (String × Json) → Fields
  | [] => []
  | (k, v) :: fs =>
    let rest := lastWinsMembers fs
    if rest.any (·.1 == k) then rest else (k, lastWins v) :: rest

end

/-- The value that a text holds. Of several members with one key the last counts. -/
def parse? (s : String) : Option Json := (parseVerbatim? s).map lastWins

end VolumeMigration.Json
