/-!
# Positions in a YAML text

A cursor is what is left of a text, with the line and the column reached.
-/

namespace VolumeMigration.Yaml

/-- The characters that a YAML text may hold. -/
def isAllowed (c : Char) : Bool :=
  let n := c.toNat
  n == 0x09 || n == 0x0A || n == 0x0D || (0x20 ≤ n && n ≤ 0x7E) || n == 0x85 || (0xA0 ≤ n && n ≤ 0xD7FF) ||
    (0xE000 ≤ n && n ≤ 0xFFFD && n != 0xFEFF) || 0x10000 ≤ n

/-- A character that ends a line. -/
def isBreak (c : Char) : Bool :=
  c == '\n' || c == '\r' || c.toNat == 0x85 || c.toNat == 0x2028 || c.toNat == 0x2029

/-- A character between the words of a line. -/
def isSpace (c : Char) : Bool := c == ' ' || c == '\t'

/-- A character that ends a word. -/
def isGap (c : Char) : Bool := isSpace c || isBreak c

/-- A character of a name. -/
def isNameChar (c : Char) : Bool := c.isAlphanum || c == '_' || c == '-'

structure Cursor where
  rest : List Char
  index : Nat := 0
  line : Nat := 0
  column : Nat := 0

namespace Cursor

/-- A text from its beginning, without a byte order mark. -/
def ofChars : List Char → Cursor
  | c :: r => if c.toNat = 0xFEFF then { rest := r } else { rest := c :: r }
  | [] => { rest := [] }

def peek? (c : Cursor) : Option Char := c.rest.head?

/-- Whether the text goes on with a character that satisfies `p`. -/
def sees (c : Cursor) (p : Char → Bool) : Bool := c.rest.head?.any p

/-- Whether a word ends after `n` more characters. -/
def gapAfter (c : Cursor) (n : Nat) : Bool := (c.rest.drop n).head?.all isGap

/-- Whether the line, or the text, ends here. -/
def atLineEnd (c : Cursor) : Bool := c.rest.head?.all isBreak

/-- The cursor after `n` more characters of the line. -/
def skip (c : Cursor) (n : Nat := 1) : Cursor :=
  { c with rest := c.rest.drop n, index := c.index + n, column := c.column + n }

/-- The characters up to the first that does not satisfy `p`, and the cursor there. The
characters are none that end a line. -/
def takeWhile (c : Cursor) (p : Char → Bool) : List Char × Cursor :=
  let taken := c.rest.takeWhile p
  (taken, c.skip taken.length)

def skipWhile (c : Cursor) (p : Char → Bool) : Cursor := (c.takeWhile p).2

/-- The characters of a line break, as they count in a text, and the cursor after it. -/
def takeBreak (c : Cursor) : List Char × Cursor :=
  let after (r : List Char) (n : Nat) : Cursor := { rest := r, index := c.index + n, line := c.line + 1, column := 0 }
  match c.rest with
  | '\r' :: '\n' :: r => (['\n'], after r 2)
  | b :: r =>
    if isBreak b then (if b.toNat == 0x2028 || b.toNat == 0x2029 then [b] else ['\n'], after r 1) else ([], c)
  | [] => ([], c)

def skipBreak (c : Cursor) : Cursor := c.takeBreak.2

/-- The cursor at the end of the line. -/
def skipLine (c : Cursor) : Cursor := c.skipWhile fun ch => !isBreak ch

/-- Whether a line begins here with a marker between documents. -/
def atMarker (c : Cursor) (marker : List Char) : Bool :=
  c.column == 0 && marker.isPrefixOf c.rest && c.gapAfter marker.length

/-- Whether a line begins here with the start or the end of a document. -/
def atDocument (c : Cursor) : Bool := c.atMarker ['-', '-', '-'] || c.atMarker ['.', '.', '.']

end Cursor

end VolumeMigration.Yaml
