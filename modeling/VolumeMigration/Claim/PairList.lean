import VolumeMigration.Claim.Pair
import VolumeMigration.Failure
import VolumeMigration.Label
/-!
# Lists of pairs

A `PairList` is a list of pairs without a fault, so that whatever takes one
needs no further check. `PairList.faults` finds every fault of a list.
-/

namespace VolumeMigration

/-- What is wrong with a list of pairs. -/
inductive PairingFault where
  | noPairs
  | severalSourceNamespaces (namespaces : List String)
  | severalDestinationNamespaces (namespaces : List String)
  | noClaimName (pair : PairName)
  | noClaimNamespace (pair : PairName)
  | illegalIdentity (pair : PairName) (identity : String) (fault : Label.ValueFault)
  | inconsistentPair (pair : PairName)
  | repeatedSource (claim : ObjectName)
  | repeatedDestination (claim : ObjectName)
  /-- Pairs of both ways of copying, counted. -/
  | mixedPairs (devices fileSystems : Nat)
deriving DecidableEq, Repr

namespace PairingFault

def message : PairingFault → String
  | noPairs => "pvc list is empty"
  | severalSourceNamespaces l => "pvc list spans source namespaces " ++ Text.join ", " l
  | severalDestinationNamespaces l => "pvc list spans destination namespaces " ++ Text.join ", " l
  | noClaimName pair => s!"pair {pair}: claim name is empty"
  | noClaimNamespace pair => s!"pair {pair}: claim namespace is empty"
  | illegalIdentity pair identity fault => s!"pair {pair}: " ++ fault.message identity
  | inconsistentPair pair => s!"pair {pair}: cannot pair a block or VM-disk volume with a filesystem volume"
  | repeatedSource claim => s!"source {claim} appears more than once"
  | repeatedDestination claim => s!"destination {claim} appears more than once"
  | mixedPairs devices fileSystems =>
    s!"pvc list mixes {devices} block or VM-disk pairs with {fileSystems} filesystem pairs"

end PairingFault

namespace PairList

/-- The faults of one claim of a pair. -/
def claimFaults (pair : PairName) (c : Claim) : List PairingFault :=
  (if c.name.isEmpty then [.noClaimName pair] else []) ++
  (if c.ns.isEmpty then [.noClaimNamespace pair] else []) ++
  ((Label.valueFault? c.identity).map (.illegalIdentity pair c.identity)).toList

/-- The faults of one pair, whose claims must not be those of the pairs before it. -/
def pairFaults (before : List Pair) (p : Pair) : List PairingFault :=
  claimFaults p.name p.source ++ claimFaults p.name p.destination ++
  (if p.isConsistent then [] else [.inconsistentPair p.name]) ++
  (if before.any (·.source.objectName == p.source.objectName) then
    [.repeatedSource p.source.objectName] else []) ++
  (if before.any (·.destination.objectName == p.destination.objectName) then
    [.repeatedDestination p.destination.objectName] else [])

/-- The faults of pairs that stand after others. -/
def faultsAfter (before : List Pair) : List Pair → List PairingFault
  | [] => []
  | p :: r => pairFaults before p ++ faultsAfter (before ++ [p]) r

/-- The consistent pairs that are copied as devices. -/
def devices (pairs : List Pair) : List Pair := pairs.filter fun p => p.isConsistent && p.isDevice

/-- The consistent pairs that are copied as trees of files. -/
def fileSystems (pairs : List Pair) : List Pair := pairs.filter fun p => p.isConsistent && !p.isDevice

/-- Every fault of a list of pairs: of the namespaces, of each pair in order, of the mixture. -/
def faults (pairs : List Pair) : List PairingFault :=
  if pairs.isEmpty then [.noPairs]
  else
    let sources := SortedMap.distinct (pairs.map (·.source.ns))
    let destinations := SortedMap.distinct (pairs.map (·.destination.ns))
    let deviceCount := (devices pairs).length
    let fileSystemCount := (fileSystems pairs).length
    (if 1 < sources.length then [.severalSourceNamespaces sources] else []) ++
    (if 1 < destinations.length then [.severalDestinationNamespaces destinations] else []) ++
    faultsAfter [] pairs ++
    (if 0 < deviceCount ∧ 0 < fileSystemCount then [.mixedPairs deviceCount fileSystemCount] else [])

end PairList

/-- Pairs without a fault, in order. -/
structure PairList where
  pairs : List Pair
  sound : PairList.faults pairs = []

namespace PairList

/-- The list of the given pairs, or every fault of it. -/
def ofPairs (pairs : List Pair) : Result PairList :=
  match h : faults pairs with
  | [] => .ok { pairs, sound := h }
  | fs => .error (.validation (fs.map (·.message)))

theorem pairs_ne_nil (l : PairList) : l.pairs ≠ [] := fun h => by
  have := l.sound
  simp [faults, h] at this

def first (l : PairList) : Pair := l.pairs.head l.pairs_ne_nil

/-- The one namespace of the source claims. -/
def sourceNamespace (l : PairList) : String := l.first.source.ns

/-- The one namespace of the destination claims. -/
def destinationNamespace (l : PairList) : String := l.first.destination.ns

/-- The identity of the first pair, after which a transfer of the list is named. -/
def transferId (l : PairList) : String := l.first.identity

def length (l : PairList) : Nat := l.pairs.length

/-- Whether every pair is copied as a device. -/
def isDevice (l : PairList) : Bool := l.pairs.all (·.isDevice)

/-- The pair with a source claim of the given name. -/
def bySource? (l : PairList) (name : String) : Option Pair := l.pairs.find? (·.source.name == name)

/-- The pair with a destination claim of the given name. -/
def byDestination? (l : PairList) (name : String) : Option Pair :=
  l.pairs.find? (·.destination.name == name)

/-- The source claims in order. -/
def sources (l : PairList) : List Claim := l.pairs.map (·.source)

/-- The destination claims in order. -/
def destinations (l : PairList) : List Claim := l.pairs.map (·.destination)

end PairList

end VolumeMigration
