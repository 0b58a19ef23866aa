/-!
# Decimal numbers in text

Numbers are read from ASCII digits with an optional sign, and only if they lie
within the bounds asked for.
-/

namespace VolumeMigration.Text

def minInt32 : Int := -2147483648
def maxInt32 : Int := 2147483647
def minInt64 : Int := -9223372036854775808
def maxInt64 : Int := 9223372036854775807
def maxUInt64 : Int := 18446744073709551615
def minInt128 : Int := -170141183460469231731687303715884105728
def maxUInt128 : Int := 340282366920938463463374607431768211455
def maxUInt32 : Int := 4294967295
def maxUInt16 : Int := 65535

/-- The value of a digit in a base up to 36. -/
def digitValue? (base : Nat) (c : Char) : Option Nat :=
  let v :=
    if '0' ≤ c ∧ c ≤ '9' then some (c.toNat - 48)
    else if 'a' ≤ c ∧ c ≤ 'z' then some (c.toNat - 87)
    else if 'A' ≤ c ∧ c ≤ 'Z' then some (c.toNat - 55)
    else none
  v.filter (· < base)

/-- The number that `cs` goes on to spell after the digits with the value `acc`. -/
def digitsFrom? (base acc : Nat) : List Char → Option Nat
  | [] => some acc
  | c :: r => match digitValue? base c with
    | some d => digitsFrom? base (base * acc + d) r
    | none => none

/-- The number that a nonempty list of digits spells. -/
def digits? (base : Nat) (cs : List Char) : Option Nat :=
  if cs.isEmpty then none else digitsFrom? base 0 cs

/-- A decimal number with an optional sign. -/
def signed? : List Char → Option Int
  | '+' :: r => (digits? 10 r).map Int.ofNat
  | '-' :: r => (digits? 10 r).map fun n => -Int.ofNat n
  | r => (digits? 10 r).map Int.ofNat

/-- A decimal number without a minus sign. -/
def unsigned? : List Char → Option Int
  | '+' :: r => (digits? 10 r).map Int.ofNat
  | r => (digits? 10 r).map Int.ofNat

def within? (lo hi n : Int) : Option Int := if lo ≤ n ∧ n ≤ hi then some n else none

/-- A 32-bit signed number. -/
def readInt32? (s : String) : Option Int := (signed? s.toList).bind (within? minInt32 maxInt32)

/-- A 64-bit signed number. -/
def readInt64? (s : String) : Option Int := (signed? s.toList).bind (within? minInt64 maxInt64)

/-- A 64-bit unsigned number. -/
def readUInt64? (s : String) : Option Nat :=
  ((unsigned? s.toList).bind (within? 0 maxUInt64)).map Int.toNat

/-- A 16-bit unsigned number, as ports are. -/
def readUInt16? (s : String) : Option Nat :=
  ((unsigned? s.toList).bind (within? 0 maxUInt16)).map Int.toNat

end VolumeMigration.Text
