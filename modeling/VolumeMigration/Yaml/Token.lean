import VolumeMigration.Yaml.Scalar
/-!
# Tokens of a YAML text

The text is read into tokens, among them the beginnings and the ends of blocks,
which indentation gives. Whether a scalar is a key shows only at the colon after
it: the place of a possible key is remembered, and the tokens for it are put
there later. Such a key stands on one line and has at most 1024 characters.
-/

namespace VolumeMigration.Yaml

inductive Token where
  /-- The version that a document is written for. -/
  | version (major minor : Nat)
  /-- A short form for the beginning of tags. -/
  | tagHandle (handle start : String)
  | documentStart
  | documentEnd
  | blockSequenceStart
  | blockMappingStart
  | blockEnd
  | flowSequenceStart
  | flowSequenceEnd
  | flowMappingStart
  | flowMappingEnd
  | blockEntry
  | flowEntry
  | key
  | value
  | reference (name : String)
  | anchor (name : String)
  | tag (handle suffix : String)
  | scalar (plain : Bool) (text : String)
deriving DecidableEq, Repr

/-- Where a key may have begun. -/
structure PossibleKey where
  /-- The number of tokens before it. -/
  position : Nat
  /-- Whether nothing else can stand there. -/
  required : Bool
  line : Nat
  column : Nat
  index : Nat

/-- The state of reading tokens. -/
structure Scanner where
  cursor : Cursor
  tokens : Array Token := #[]
  /-- The column of the current block, and those of the blocks around it. -/
  indent : Int := -1
  indents : List Int := []
  /-- Whether a key may begin here. -/
  keyAllowed : Bool := true
  /-- The possible key of the block, or of each open flow collection, the innermost first. -/
  keys : List (Option PossibleKey) := [none]

namespace Scanner

/-- Whether the cursor is within a flow collection. -/
def inFlow (s : Scanner) : Bool := 1 < s.keys.length

def push (s : Scanner) (t : Token) : Scanner := { s with tokens := s.tokens.push t }

/-- Puts a token at an earlier place. -/
def insertAt (s : Scanner) (position : Nat) (t : Token) : Scanner :=
  { s with tokens := s.tokens.insertIdxIfInBounds position t }

/-- Begins a block at a column, if it is further to the right than the current one. -/
def openBlock (s : Scanner) (column : Nat) (position : Nat) (t : Token) : Scanner :=
  if s.inFlow || Int.ofNat column ≤ s.indent then s
  else ({ s with indents := s.indent :: s.indents, indent := column } : Scanner).insertAt position t

/-- Ends the blocks further to the right than a column. -/
def closeBlocks (s : Scanner) (column : Int) : Scanner :=
  if s.inFlow then s else go s.indents.length s
where
  /-- Ends at most `n` blocks. -/
  go : Nat → Scanner → Scanner
    | 0, s => s
    | n + 1, s =>
      if s.indent ≤ column then s
      else match s.indents with
        | i :: is => go n { s.push .blockEnd with indent := i, indents := is }
        | [] => s

/-- Gives up the possible key, unless it was required. -/
def dropKey? (s : Scanner) : Option Scanner :=
  match s.keys with
  | some k :: ks => if k.required then none else some { s with keys := none :: ks }
  | _ => some s

/-- Remembers that a key may begin here. -/
def saveKey? (s : Scanner) : Option Scanner :=
  if s.keyAllowed then do
    let s ← s.dropKey?
    let c := s.cursor
    let k : PossibleKey :=
      { position := s.tokens.size
        required := !s.inFlow && s.indent == Int.ofNat c.column
        line := c.line, column := c.column, index := c.index }
    some { s with keys := some k :: s.keys.drop 1 }
  else some s

/-- The possible key, unless it is too far back. A required key may not be. -/
def takeKey? (s : Scanner) : Option (Option PossibleKey) :=
  match s.keys with
  | some k :: _ =>
    if k.line < s.cursor.line || k.index + 1024 < s.cursor.index then
      if k.required then none else some none
    else some (some k)
  | _ => some none

/-- The scanner at the next token, for at most `n` gaps. -/
def skipGaps : Nat → Scanner → Scanner
  | 0, s => s
  | n + 1, s =>
    let c := s.cursor.skipWhile fun ch => ch == ' ' || ((s.inFlow || !s.keyAllowed) && ch == '\t')
    let c := if c.sees (· == '#') then c.skipLine else c
    if c.sees isBreak then
      skipGaps n { s with cursor := c.skipBreak, keyAllowed := s.keyAllowed || !s.inFlow }
    else { s with cursor := c }

/-- Reads a token of `n` characters. -/
def single (s : Scanner) (n : Nat) (t : Token) : Scanner := { s with cursor := s.cursor.skip n }.push t

/-! ## Directives and tags -/

/-- A number of at most nine digits. -/
def readVersionNumber? (c : Cursor) : Option (Nat × Cursor) :=
  let (ds, c) := c.takeWhile Char.isDigit
  if 9 < ds.length then none else (Text.digits? 10 ds).map fun n => (n, c)

/-- The beginning of a tag up to its second exclamation mark, if it has one. -/
def readHandle? (c : Cursor) : Option (List Char × Cursor) :=
  if !c.sees (· == '!') then none
  else
    let (name, c) := c.skip.takeWhile isNameChar
    if c.sees (· == '!') then some ('!' :: name ++ ['!'], c.skip) else some ('!' :: name, c)

/-- A character of a tag. -/
def isTagChar (verbatim : Bool) (c : Char) : Bool :=
  isNameChar c || ";/?:@&=+$.!~*'()".toList.contains c || (verbatim && ",[]".toList.contains c)

/-- The rest of a tag, within `n` characters. Escaped bytes are written out. -/
def readTagChars? (verbatim : Bool) : Nat → List Char → Cursor → Option (List Char × Cursor)
  | 0, acc, c => some (acc.reverse, c)
  | n + 1, acc, c =>
    match c.rest with
    | '%' :: a :: b :: _ => do
      let code ← Text.digits? 16 [a, b]
      readTagChars? verbatim n (Char.ofNat code :: acc) (c.skip 3)
    | ch :: _ =>
      if ch == '%' then none
      else if isTagChar verbatim ch then readTagChars? verbatim n (ch :: acc) c.skip
      else some (acc.reverse, c)
    | [] => some (acc.reverse, c)

/-- The rest of a tag after its beginning, at least one character altogether. -/
def readTag? (verbatim : Bool) (start : List Char) (c : Cursor) : Option (List Char × Cursor) := do
  let (cs, c) ← readTagChars? verbatim c.rest.length [] c
  if start.isEmpty && cs.isEmpty then none else some (start ++ cs, c)

/-- A tag from its exclamation mark on. -/
def scanTag? (s : Scanner) : Option Scanner := do
  let c := s.cursor
  let (token, c) ←
    if (c.rest.drop 1).head? == some '<' then do
      let (suffix, c) ← readTag? true [] (c.skip 2)
      if c.sees (· == '>') then some (Token.tag "" (String.ofList suffix), c.skip) else none
    else do
      let (handle, c) ← readHandle? c
      if 1 < handle.length && handle.getLast? == some '!' then do
        let (suffix, c) ← readTag? false [] c
        some (Token.tag (String.ofList handle) (String.ofList suffix), c)
      else do
        let (cs, c) ← readTagChars? false c.rest.length [] c
        let suffix := handle.drop 1 ++ cs
        if suffix.isEmpty then some (Token.tag "" "!", c) else some (Token.tag "!" (String.ofList suffix), c)
  if c.gapAfter 0 || (s.inFlow && c.sees (· == ',')) then some ({ s with cursor := c }.push token) else none

/-- A directive from its percent sign on. -/
def scanDirective? (s : Scanner) : Option Scanner := do
  let (name, c) := s.cursor.skip.takeWhile isNameChar
  if !c.gapAfter 0 then none
  else
    let c := c.skipWhile isSpace
    let (token, c) ←
      if name == "YAML".toList then do
        let (major, c) ← readVersionNumber? c
        if !c.sees (· == '.') then none
        else
          let (minor, c) ← readVersionNumber? c.skip
          some (Token.version major minor, c)
      else if name == "TAG".toList then do
        let (handle, c) ← readHandle? c
        if handle.length != 1 && handle.getLast? != some '!' then none
        else if !c.sees isSpace then none
        else
          let (start, c) ← readTag? true [] (c.skipWhile isSpace)
          if c.gapAfter 0 then some (Token.tagHandle (String.ofList handle) (String.ofList start), c) else none
      else none
    let c := c.skipWhile isSpace
    let c := if c.sees (· == '#') then c.skipLine else c
    if c.atLineEnd then some ({ s with cursor := c.skipBreak }.push token) else none

/-- The name after the sign of an anchor or a reference. -/
def scanName? (s : Scanner) (token : String → Token) : Option Scanner :=
  let (name, c) := s.cursor.skip.takeWhile isNameChar
  if name.isEmpty || !(c.gapAfter 0 || c.sees ("?:,]\x7d%@".toList ++ [Char.ofNat 96]).contains) then none
  else some ({ s with cursor := c }.push (token (String.ofList name)))

/-! ## Tokens -/

/-- Ends everything before a directive or a document. -/
def endDocument? (s : Scanner) : Option Scanner := do
  let s ← (s.closeBlocks (-1)).dropKey?
  some { s with keyAllowed := false }

def scanFlowStart? (s : Scanner) (t : Token) : Option Scanner := do
  let s ← s.saveKey?
  some ({ s with keys := none :: s.keys, keyAllowed := true }.single 1 t)

def scanFlowEnd? (s : Scanner) (t : Token) : Option Scanner := do
  let s ← s.dropKey?
  let keys := if s.inFlow then s.keys.drop 1 else s.keys
  some ({ s with keys, keyAllowed := false }.single 1 t)

def scanFlowEntry? (s : Scanner) : Option Scanner := do
  let s ← s.dropKey?
  some ({ s with keyAllowed := true }.single 1 .flowEntry)

/-- Begins a block at the cursor, where that is allowed. -/
def openHere? (s : Scanner) (t : Token) : Option Scanner :=
  if s.inFlow then some s
  else if s.keyAllowed then some (s.openBlock s.cursor.column s.tokens.size t) else none

def scanBlockEntry? (s : Scanner) : Option Scanner := do
  let s ← (← s.openHere? .blockSequenceStart).dropKey?
  some ({ s with keyAllowed := true }.single 1 .blockEntry)

def scanKey? (s : Scanner) : Option Scanner := do
  let s ← (← s.openHere? .blockMappingStart).dropKey?
  some ({ s with keyAllowed := !s.inFlow }.single 1 .key)

def scanValue? (s : Scanner) : Option Scanner := do
  match ← s.takeKey? with
  | some k =>
    let s := (s.insertAt k.position .key).openBlock k.column k.position .blockMappingStart
    some ({ s with keys := none :: s.keys.drop 1, keyAllowed := false }.single 1 .value)
  | none =>
    let s ← ({ s with keys := none :: s.keys.drop 1 } : Scanner).openHere? .blockMappingStart
    some ({ s with keyAllowed := !s.inFlow }.single 1 .value)

def scanBlockScalar? (s : Scanner) (literal : Bool) : Option Scanner := do
  let s ← s.dropKey?
  let (text, c) ← readBlock? literal s.indent s.cursor.skip
  some ({ s with cursor := c, keyAllowed := true }.push (.scalar false (String.ofList text)))

def scanQuoted? (s : Scanner) (quote : Char) : Option Scanner := do
  let s ← s.saveKey?
  let (text, c) ← readQuoted? quote s.cursor.rest.length [] s.cursor.skip
  some ({ s with cursor := c, keyAllowed := false }.push (.scalar false (String.ofList text)))

def scanPlain? (s : Scanner) : Option Scanner := do
  let s ← s.saveKey?
  let indent := (s.indent + 1).toNat
  let (text, broken, c) ← readWords? s.inFlow indent (s.cursor.rest.length + 1) [] {} s.cursor
  some ({ s with cursor := c, keyAllowed := broken }.push (.scalar true (String.ofList text)))

/-- Whether a plain scalar may begin with a character, where the word goes on after it or not. -/
def beginsPlain (s : Scanner) (ch : Char) : Bool :=
  let indicators := "-?:,[]{}#&*!|>'\"%@".toList ++ [Char.ofNat 96]
  (!indicators.contains ch && !isGap ch) ||
    (ch == '-' && !(s.cursor.rest.drop 1).head?.any isSpace) ||
    (!s.inFlow && (ch == '?' || ch == ':') && !s.cursor.gapAfter 1)

/-- Reads the token at the cursor. -/
def scanToken? (s : Scanner) (ch : Char) : Option Scanner :=
  let c := s.cursor
  if c.column == 0 && ch == '%' then s.endDocument?.bind scanDirective?
  else if c.atMarker ['-', '-', '-'] then s.endDocument?.map (·.single 3 .documentStart)
  else if c.atMarker ['.', '.', '.'] then s.endDocument?.map (·.single 3 .documentEnd)
  else if ch == '[' then s.scanFlowStart? .flowSequenceStart
  else if ch == '{' then s.scanFlowStart? .flowMappingStart
  else if ch == ']' then s.scanFlowEnd? .flowSequenceEnd
  else if ch == '}' then s.scanFlowEnd? .flowMappingEnd
  else if ch == ',' then s.scanFlowEntry?
  else if ch == '-' && c.gapAfter 1 then s.scanBlockEntry?
  else if ch == '?' && (s.inFlow || c.gapAfter 1) then s.scanKey?
  else if ch == ':' && (s.inFlow || c.gapAfter 1) then s.scanValue?
  else if ch == '*' then s.saveKey?.bind fun s => { s with keyAllowed := false }.scanName? .reference
  else if ch == '&' then s.saveKey?.bind fun s => { s with keyAllowed := false }.scanName? .anchor
  else if ch == '!' then s.saveKey?.bind fun s => { s with keyAllowed := false }.scanTag?
  else if (ch == '|' || ch == '>') && !s.inFlow then s.scanBlockScalar? (ch == '|')
  else if ch == '\'' || ch == '"' then s.scanQuoted? ch
  else if s.beginsPlain ch then s.scanPlain?
  else none

/-- Reads at most `n` tokens, up to the end of the text. -/
def scanAll? : Nat → Scanner → Option (Array Token)
  | 0, _ => none
  | n + 1, s =>
    let s := s.skipGaps (s.cursor.rest.length + 1)
    let s := s.closeBlocks s.cursor.column
    match s.cursor.peek? with
    | none => (s.endDocument?).map (·.tokens)
    | some ch => (s.scanToken? ch).bind (scanAll? n)

end Scanner

/-- The tokens of a text. -/
def tokens? (text : String) : Option (List Token) :=
  let c := Cursor.ofChars text.toList
  if c.rest.all isAllowed then (Scanner.scanAll? (c.rest.length + 1) { cursor := c }).map (·.toList) else none

end VolumeMigration.Yaml
