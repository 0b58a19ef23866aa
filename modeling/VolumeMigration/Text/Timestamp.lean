import VolumeMigration.Text.Number
/-!
# Points in time

A date and time with an offset, read from text and written in universal time
with whole seconds. Days are counted in the proleptic Gregorian calendar.
-/

namespace VolumeMigration.Text

/-- A point in time: the days since 0000-03-01 and the seconds of the day. -/
structure Timestamp where
  day : Int
  second : Nat
deriving DecidableEq, Repr

namespace Timestamp

def isLeapYear (y : Nat) : Bool := y % 4 == 0 && (y % 100 != 0 || y % 400 == 0)

def daysInMonth (y m : Nat) : Nat :=
  if m = 2 then if isLeapYear y then 29 else 28
  else if m = 4 ∨ m = 6 ∨ m = 9 ∨ m = 11 then 30 else 31

/-- The days from 0000-03-01 to a date. A year is taken to begin in March. -/
def dayNumber (y m d : Nat) : Int :=
  let y' : Int := if m ≤ 2 then (y : Int) - 1 else y
  let m' : Int := if m ≤ 2 then (m : Int) + 9 else (m : Int) - 3
  365 * y' + Int.fdiv y' 4 - Int.fdiv y' 100 + Int.fdiv y' 400 + Int.fdiv (153 * m' + 2) 5 + (d : Int) - 1

/-- Year, month and day of the month. -/
def date (day : Int) : Int × Nat × Nat :=
  let era := Int.fdiv day 146097
  let dayOfEra := (day - era * 146097).toNat
  let yearOfEra := (dayOfEra - dayOfEra / 1460 + dayOfEra / 36524 - dayOfEra / 146096) / 365
  let dayOfYear := dayOfEra - (365 * yearOfEra + yearOfEra / 4 - yearOfEra / 100)
  let m' := (5 * dayOfYear + 2) / 153
  let d := dayOfYear - (153 * m' + 2) / 5 + 1
  let m := if m' < 10 then m' + 3 else m' - 9
  ((yearOfEra : Int) + era * 400 + (if m ≤ 2 then 1 else 0), m, d)

/-- `n` digits at the front, as a number, and the rest. -/
def takeDigits? (n : Nat) (cs : List Char) : Option (Nat × List Char) :=
  if (cs.take n).length = n then (digits? 10 (cs.take n)).map fun v => (v, cs.drop n) else none

/-- One of the given characters at the front. -/
def takeOne? (allowed cs : List Char) : Option (List Char) :=
  match cs with
  | c :: r => if allowed.contains c then some r else none
  | [] => none

/-- A fraction of a second, which is dropped. -/
def skipFraction? : List Char → Option (List Char)
  | '.' :: r => if (r.takeWhile Char.isDigit).isEmpty then none else some (r.dropWhile Char.isDigit)
  | r => some r

/-- The offset from universal time in seconds: `Z`, or a sign, hours and minutes. -/
def readOffset? : List Char → Option Int
  | ['Z'] | ['z'] => some 0
  | sign :: r => do
    let (h, r) ← takeDigits? 2 r
    let r ← takeOne? [':'] r
    let (m, r) ← takeDigits? 2 r
    if !r.isEmpty || h > 23 || m > 59 then none
    else if sign = '+' then some ((h * 60 + m : Nat) * 60)
    else if sign = '-' then some (-((h * 60 + m : Nat) * 60))
    else none
  | [] => none

def read? (s : String) : Option Timestamp := do
  let (y, r) ← takeDigits? 4 s.toList
  let (m, r) ← takeDigits? 2 (← takeOne? ['-'] r)
  let (d, r) ← takeDigits? 2 (← takeOne? ['-'] r)
  let (h, r) ← takeDigits? 2 (← takeOne? ['T', 't', ' '] r)
  let (min, r) ← takeDigits? 2 (← takeOne? [':'] r)
  let (sec, r) ← takeDigits? 2 (← takeOne? [':'] r)
  let offset ← readOffset? (← skipFraction? r)
  if m < 1 || 12 < m || d < 1 || daysInMonth y m < d || 23 < h || 59 < min || 59 < sec then none
  else
    let total := dayNumber y m d * 86400 + ((h * 60 + min : Nat) * 60 + sec : Nat) - offset
    some { day := Int.fdiv total 86400, second := (Int.fmod total 86400).toNat }

/-- A number with at least `width` digits. -/
def padded (width n : Nat) : String :=
  let ds := Nat.toDigits 10 n
  String.ofList (List.replicate (width - ds.length) '0' ++ ds)

def render (t : Timestamp) : String :=
  let (y, m, d) := date t.day
  padded 4 y.toNat ++ "-" ++ padded 2 m ++ "-" ++ padded 2 d ++ "T" ++ padded 2 (t.second / 3600) ++ ":" ++
    padded 2 (t.second / 60 % 60) ++ ":" ++ padded 2 (t.second % 60) ++ "Z"

end Timestamp

end VolumeMigration.Text
