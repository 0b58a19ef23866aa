import VolumeMigration.Text.Number
import VolumeMigration.Yaml.Cursor
/-!
# Scalars of a YAML text

How the text of a scalar is read: between quotes, plain, or as a block of
indented lines. A line break within a scalar is folded to a space, and empty
lines stand for line breaks. Reading gives up on a text that is no scalar.
-/

namespace VolumeMigration.Yaml

/-- The gap between two words of a scalar. -/
structure Fold where
  /-- The spaces, if the gap lies within a line. -/
  spaces : List Char := []
  /-- The first line break, if there is one. -/
  first : List Char := []
  /-- The further line breaks. -/
  further : List Char := []
  /-- Whether the gap ends on another line than it begins. -/
  broken : Bool := false

namespace Fold

/-- The characters that a gap stands for. -/
def text (f : Fold) : List Char :=
  if f.broken then
    if f.first == ['\n'] then (if f.further.isEmpty then [' '] else f.further) else f.first ++ f.further
  else f.spaces

/-- A gap with a line break added. -/
def addBreak (f : Fold) (b : List Char) : Fold :=
  if f.broken then { f with further := f.further ++ b } else { spaces := [], first := b, broken := true }

/-- A gap with a space added, which counts only within a line. -/
def addSpace (f : Fold) (c : Char) : Fold := if f.broken then f else { f with spaces := f.spaces ++ [c] }

end Fold

/-- The gap at a cursor, for at most `n` characters. A tab may not stand before the column `indent`
of a further line. -/
def readGap? (indent : Nat) : Nat → Fold → Cursor → Option (Fold × Cursor)
  | 0, f, c => some (f, c)
  | n + 1, f, c =>
    match c.peek? with
    | none => some (f, c)
    | some ch =>
      if isSpace ch then
        if f.broken && c.column < indent && ch == '\t' then none
        else readGap? indent n (f.addSpace ch) c.skip
      else if isBreak ch then
        let (b, c) := c.takeBreak
        readGap? indent n (f.addBreak b) c
      else some (f, c)

/-! ## Quoted scalars -/

/-- The character that a short escape stands for. -/
def shortEscape? (c : Char) : Option Char :=
  (([('0', 0), ('a', 7), ('b', 8), ('t', 9), ('\t', 9), ('n', 10), ('v', 11), ('f', 12), ('r', 13), ('e', 27),
    (' ', 32), ('"', 34), ('/', 47), ('\\', 92), ('N', 0x85), ('_', 0xA0), ('L', 0x2028), ('P', 0x2029)] :
    List (Char × Nat)).find? (·.1 == c)).map fun e => Char.ofNat e.2

/-- The number of digits after the letter of a numeric escape. -/
def escapeLength? (c : Char) : Option Nat :=
  if c == 'x' then some 2 else if c == 'u' then some 4 else if c == 'U' then some 8 else none

/-- The character of an escape after its backslash, and the cursor after it. -/
def readEscape? (c : Cursor) : Option (Char × Cursor) := do
  let letter ← c.peek?
  match escapeLength? letter with
  | some n =>
    let digits := (c.rest.drop 1).take n
    let code ← if digits.length = n then Text.digits? 16 digits else none
    if (0xD800 ≤ code ∧ code ≤ 0xDFFF) ∨ 0x10FFFF < code then none
    else some (Char.ofNat code, c.skip (n + 1))
  | none => (shortEscape? letter).map fun ch => (ch, c.skip)

/-- The rest of a scalar up to its closing quote, in reverse after what was read, within `n`
characters. -/
def readQuoted? (quote : Char) : Nat → List Char → Cursor → Option (List Char × Cursor)
  | 0, _, _ => none
  | n + 1, acc, c =>
    if c.atDocument then none
    else match c.rest with
      | [] => none
      | ch :: next =>
        if isGap ch then do
          let (f, c) ← readGap? 0 (n + 1) {} c
          readQuoted? quote n (f.text.reverse ++ acc) c
        else if ch == quote then
          if quote == '\'' && next.head? == some '\'' then readQuoted? quote n ('\'' :: acc) (c.skip 2)
          else some (acc.reverse, c.skip)
        else if quote == '"' && ch == '\\' then
          if next.head?.any isBreak then do
            let (f, c) ← readGap? 0 (n + 1) { broken := true } c.skip.skipBreak
            readQuoted? quote n (f.text.reverse ++ acc) c
          else do
            let (e, c) ← readEscape? c.skip
            readQuoted? quote n (e :: acc) c
        else readQuoted? quote n (ch :: acc) c.skip

/-! ## Plain scalars -/

/-- A character that ends a plain scalar in a flow collection. -/
def isFlowIndicator (c : Char) : Bool := c == ',' || c == '[' || c == ']' || c == '{' || c == '}'

/-- The characters of a word of a plain scalar, within `n` characters. In a flow collection a colon
before an indicator is refused. -/
def readWord? (inFlow : Bool) : Nat → List Char → Cursor → Option (List Char × Cursor)
  | 0, acc, c => some (acc.reverse, c)
  | n + 1, acc, c =>
    match c.rest with
    | [] => some (acc.reverse, c)
    | ch :: next =>
      if isGap ch then some (acc.reverse, c)
      else if inFlow && ch == ':' && next.head?.any (fun x => isFlowIndicator x || x == '?') then none
      else if (ch == ':' && c.gapAfter 1) || (inFlow && isFlowIndicator ch) then some (acc.reverse, c)
      else readWord? inFlow n (ch :: acc) c.skip

/-- The words of a plain scalar after a gap, within `n` words. Also says whether the scalar ended on
another line. -/
def readWords? (inFlow : Bool) (indent : Nat) : Nat → List Char → Fold → Cursor →
    Option (List Char × Bool × Cursor)
  | 0, _, _, _ => none
  | n + 1, acc, f, c =>
    if c.atDocument || c.sees (· == '#') then some (acc, f.broken, c)
    else do
      let size := c.rest.length
      let (word, c) ← readWord? inFlow size [] c
      if word.isEmpty then some (acc, f.broken, c)
      else
        let acc := acc ++ f.text ++ word
        if !c.sees isGap then some (acc, false, c)
        else
          let (f, c) ← readGap? indent size {} c
          if !inFlow && c.column < indent then some (acc, f.broken, c)
          else readWords? inFlow indent n acc f c

/-! ## Block scalars -/

/-- What becomes of the line breaks at the end of a block. -/
inductive Chomping where
  | strip
  | clip
  | keep
deriving DecidableEq

/-- The header of a block: how its end is treated, and how far it is indented. -/
def readBlockHeader? (c : Cursor) : Option (Chomping × Option Nat × Cursor) :=
  let chomping (c : Cursor) : Option (Chomping × Cursor) :=
    match c.peek? with
    | some '+' => some (.keep, c.skip)
    | some '-' => some (.strip, c.skip)
    | _ => none
  let digit (c : Cursor) : Option (Option (Nat × Cursor)) :=
    match c.peek? with
    | some d =>
      if d == '0' then none
      else if d.isDigit then some (some (d.toNat - 48, c.skip)) else some none
    | none => some none
  match chomping c with
  | some (ch, c) => do
    match ← digit c with
    | some (d, c) => some (ch, some d, c)
    | none => some (ch, none, c)
  | none => do
    match ← digit c with
    | some (d, c) =>
      match chomping c with
      | some (ch, c) => some (ch, some d, c)
      | none => some (.clip, some d, c)
    | none => some (.clip, none, c)

/-- The empty lines at a cursor, within `n` characters. Without an indentation it is found out from
the lines: `widest` is the widest so far. -/
def readEmptyLines? (indent : Option Nat) : Nat → Nat → List Char → Cursor → Option (Nat × List Char × Cursor)
  | 0, widest, breaks, c => some (widest, breaks, c)
  | n + 1, widest, breaks, c =>
    let within (c : Cursor) : Bool := indent.all (c.column < ·)
    match c.peek? with
    | none => some (max widest c.column, breaks, c)
    | some ch =>
      if within c && ch == ' ' then readEmptyLines? indent n widest breaks c.skip
      else if within c && ch == '\t' then none
      else if isBreak ch then
        let widest := max widest c.column
        let (b, c) := c.takeBreak
        readEmptyLines? indent n widest (breaks ++ b) c
      else some (max widest c.column, breaks, c)

/-- A block as far as it was read: its text, the break after the last line, the empty lines after
that, and whether the last line began with a space. -/
structure Block where
  text : List Char := []
  lastBreak : List Char := []
  empty : List Char := []
  spaced : Bool := false

/-- The lines of a block with a given indentation, within `n` lines. -/
def readLines? (literal : Bool) (indent : Nat) : Nat → Block → Cursor → Option (Block × Cursor)
  | 0, b, c => some (b, c)
  | n + 1, b, c =>
    if c.column != indent || c.rest.isEmpty then some (b, c)
    else do
      let spaced := c.sees isSpace
      let gap :=
        if !literal && b.lastBreak == ['\n'] && !b.spaced && !spaced then
          (if b.empty.isEmpty then [' '] else b.empty)
        else b.lastBreak ++ b.empty
      let (line, c) := c.takeWhile fun ch => !isBreak ch
      let (lastBreak, c) := c.takeBreak
      let (_, empty, c) ← readEmptyLines? (some indent) c.rest.length 0 [] c
      readLines? literal indent n { text := b.text ++ gap ++ line, lastBreak, empty, spaced } c

/-- A block after its indicator, within lines that are indented by more than `parent`. -/
def readBlock? (literal : Bool) (parent : Int) (c : Cursor) : Option (List Char × Cursor) := do
  let (chomping, increment, c) ← readBlockHeader? c
  let c := c.skipWhile isSpace
  let c := if c.sees (· == '#') then c.skipLine else c
  if !c.atLineEnd then none
  else
    let c := c.skipBreak
    let size := c.rest.length
    let given := increment.map fun i => if 0 ≤ parent then parent.toNat + i else i
    let (widest, empty, c) ← readEmptyLines? given size 0 [] c
    let indent := given.getD (max widest (max (parent + 1).toNat 1))
    let (b, c) ← readLines? literal indent (size + 1) { empty } c
    let text := b.text ++ (if chomping = .strip then [] else b.lastBreak) ++ (if chomping = .keep then b.empty else [])
    some (text, c)

end VolumeMigration.Yaml
