import VolumeMigration.Yaml.Token
/-!
# Nodes of a YAML text

A document is one node. References are resolved while nodes are read, so that
one node may stand at several places.
-/

namespace VolumeMigration.Yaml

inductive Node where
  | scalar (tag : Option String) (plain : Bool) (text : String)
  | sequence (tag : Option String) (items : List Node)
  | mapping (tag : Option String) (entries : List (Node × Node))
deriving Repr, Inhabited

namespace Node

/-- What stands where a node is left out. -/
def missing : Node := scalar none true ""

/-- The node with a tag. -/
def withTag (tag : Option String) : Node → Node
  | scalar _ plain text => scalar tag plain text
  | sequence _ items => sequence tag items
  | mapping _ entries => mapping tag entries

end Node

/-- The state of reading nodes. -/
structure Reader where
  tokens : List Token
  /-- The nodes with a name, the latest first. -/
  anchors : List (String × Node) := []
  /-- The short forms of tags. -/
  handles : List (String × String) := []

/-- Reading nodes, which gives up on a text that holds none. -/
abbrev Reading := StateT Reader Option

namespace Reading

def peek : Reading (Option Token) := do return (← get).tokens.head?

def advance : Reading Unit := modify fun r => { r with tokens := r.tokens.drop 1 }

def giveUp {α : Type} : Reading α := StateT.lift none

/-- Whether the next token is one of the given ones; the end of the text is none. -/
def sees (ts : List Token) : Reading Bool := do
  match ← peek with
  | some t => return ts.contains t
  | none => return false

/-- Whether the next token was the given one, which is then read. -/
def accept (t : Token) : Reading Bool := do
  if ← sees [t] then
    advance
    return true
  else return false

/-- The short forms that every document knows. -/
def knownHandles : List (String × String) := [("!", "!"), ("!!", "tag:yaml.org,2002:")]

/-- The tag that a handle and a suffix make. -/
def resolveTag (handle suffix : String) : Reading String := do
  if handle.isEmpty then return suffix
  else match ((← get).handles ++ knownHandles).find? (·.1 == handle) with
    | some h => return h.2 ++ suffix
    | none => giveUp

/-- The anchor and the tag of a node, in either order. -/
def properties : Reading (Option String × Option String) := do
  let anchor : Reading (Option String) := do
    match ← peek with
    | some (.anchor name) => advance; return some name
    | _ => return none
  let tag : Reading (Option String) := do
    match ← peek with
    | some (.tag handle suffix) => advance; return some (← resolveTag handle suffix)
    | _ => return none
  let a ← anchor
  let t ← tag
  let a ← if a.isSome then pure a else anchor
  return (a, t)

mutual

/-- A node, within `n` steps. A block is one only where blocks may stand, and a sequence without
indentation only where a mapping goes around it. -/
def node (block indentless : Bool) : Nat → Reading Node
  | 0 => giveUp
  | n + 1 => do
    match ← peek with
    | some (.reference name) =>
      advance
      match (← get).anchors.find? (·.1 == name) with
      | some a => return a.2
      | none => giveUp
    | _ =>
      let (anchor, tag) ← properties
      let found ← do
        match ← peek with
        | some (.scalar plain text) => advance; pure (Node.scalar none plain text)
        | some .flowSequenceStart => advance; pure (Node.sequence none (← flowSequence true n))
        | some .flowMappingStart => advance; pure (Node.mapping none (← flowMapping true n))
        | some .blockSequenceStart =>
          if block then
            advance
            pure (Node.sequence none (← blockSequence n))
          else missingFor anchor tag
        | some .blockMappingStart =>
          if block then
            advance
            pure (Node.mapping none (← blockMapping n))
          else missingFor anchor tag
        | some .blockEntry =>
          if indentless then pure (Node.sequence none (← indentlessSequence n)) else missingFor anchor tag
        | _ => missingFor anchor tag
      let found := found.withTag tag
      match anchor with
      | some name => modify fun r => { r with anchors := (name, found) :: r.anchors }
      | none => pure ()
      return found

/-- A node may be left out after an anchor or a tag. -/
def missingFor (anchor tag : Option String) : Reading Node :=
  if anchor.isSome || tag.isSome then pure Node.missing else giveUp

/-- A node, unless one of the given tokens shows that it is left out. -/
def nodeUnless (block indentless : Bool) (ends : List Token) : Nat → Reading Node
  | 0 => giveUp
  | n + 1 => do if (← peek).isNone || (← sees ends) then pure Node.missing else node block indentless n

/-- The entries of a sequence up to the end of its block. -/
def blockSequence : Nat → Reading (List Node)
  | 0 => giveUp
  | n + 1 => do
    if ← accept .blockEntry then
      let item ← nodeUnless true false [.blockEntry, .blockEnd] n
      return item :: (← blockSequence n)
    else if ← accept .blockEnd then return []
    else giveUp

/-- The entries of a sequence that ends with its last entry. -/
def indentlessSequence : Nat → Reading (List Node)
  | 0 => giveUp
  | n + 1 => do
    if ← accept .blockEntry then
      let item ← nodeUnless true false [.blockEntry, .key, .value, .blockEnd] n
      return item :: (← indentlessSequence n)
    else return []

/-- The entries of a mapping up to the end of its block. -/
def blockMapping : Nat → Reading (List (Node × Node))
  | 0 => giveUp
  | n + 1 => do
    if ← accept .key then
      let k ← nodeUnless true true [.key, .value, .blockEnd] n
      let v ← if ← accept .value then nodeUnless true true [.key, .value, .blockEnd] n else pure Node.missing
      return (k, v) :: (← blockMapping n)
    else if ← accept .blockEnd then return []
    else giveUp

/-- The value of a pair in a flow collection, which may be left out. -/
def flowValue (last : Token) : Nat → Reading Node
  | 0 => giveUp
  | n + 1 => do
    if ← accept .value then nodeUnless false false [.flowEntry, last] n else pure Node.missing

/-- The entries of a flow sequence up to its bracket. -/
def flowSequence (first : Bool) : Nat → Reading (List Node)
  | 0 => giveUp
  | n + 1 => do
    if ← accept .flowSequenceEnd then return []
    else
      if !first && !(← accept .flowEntry) then giveUp
      if ← accept .key then
        let k ← nodeUnless false false [.value, .flowEntry, .flowSequenceEnd] n
        let v ← flowValue .flowSequenceEnd n
        return Node.mapping none [(k, v)] :: (← flowSequence false n)
      else if ← accept .flowSequenceEnd then return []
      else
        let item ← node false false n
        return item :: (← flowSequence false n)

/-- The entries of a flow mapping up to its brace. -/
def flowMapping (first : Bool) : Nat → Reading (List (Node × Node))
  | 0 => giveUp
  | n + 1 => do
    if ← accept .flowMappingEnd then return []
    else
      if !first && !(← accept .flowEntry) then giveUp
      if ← accept .key then
        let k ← nodeUnless false false [.value, .flowEntry, .flowMappingEnd] n
        let v ← flowValue .flowMappingEnd n
        return (k, v) :: (← flowMapping false n)
      else if ← accept .flowMappingEnd then return []
      else
        let k ← node false false n
        return (k, Node.missing) :: (← flowMapping false n)

end

/-- The directives before a document, within `n` tokens. -/
def directives (versioned : Bool) : Nat → Reading Unit
  | 0 => pure ()
  | n + 1 => do
    match ← peek with
    | some (.version major minor) =>
      if versioned || major != 1 || (minor != 1 && minor != 2) then giveUp
      advance
      directives true n
    | some (.tagHandle handle start) =>
      if (← get).handles.any (·.1 == handle) then giveUp
      modify fun r => { r with handles := r.handles ++ [(handle, start)] }
      advance
      directives versioned n
    | _ => pure ()

/-- Skips the ends of documents, within `n` tokens. -/
def skipEnds : Nat → Reading Unit
  | 0 => pure ()
  | n + 1 => do if ← accept .documentEnd then skipEnds n

/-- What a document may begin with if it has a marker. -/
def isDirective : Option Token → Bool
  | some (.version ..) | some (.tagHandle ..) | some .documentStart => true
  | _ => false

/-- The node of a document, which has a marker unless it is the first. -/
def document (first : Bool) (n : Nat) : Reading Node := do
  modify fun r => { r with anchors := [], handles := [] }
  let content ←
    if first && !isDirective (← peek) then node true false n
    else
      directives false n
      if ← accept .documentStart then
        if isDirective (← peek) || (← peek).isNone || (← sees [.documentEnd]) then pure Node.missing
        else node true false n
      else giveUp
  if ← accept .documentEnd then pure ()
  return content

/-- The nodes of all documents, within `n` documents. -/
def documents (size : Nat) : Bool → Nat → Reading (List Node)
  | _, 0 => giveUp
  | first, n + 1 => do
    if !first then skipEnds size
    if (← peek).isNone then return []
    else
      let d ← document first size
      return d :: (← documents size false n)

end Reading

/-- The documents of a text. -/
def documents? (text : String) : Option (List Node) := do
  let tokens ← tokens? text
  let size := 4 * tokens.length + 4
  let (ds, _) ← (Reading.documents size true size).run { tokens }
  some ds

end VolumeMigration.Yaml
