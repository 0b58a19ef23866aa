import VolumeMigration.Claim.Basic
/-!
# Pairs of claims

A pair is a source claim and the destination claim that takes its contents.
-/

namespace VolumeMigration

/-- The names of both claims of a pair. -/
structure PairName where
  source : ObjectName
  destination : ObjectName
deriving DecidableEq, Repr

def PairName.display (n : PairName) : String := n.source.display ++ " -> " ++ n.destination.display

instance : ToString PairName := ⟨PairName.display⟩

structure Pair where
  source : Claim
  destination : Claim
deriving BEq, Repr

namespace Pair

/-- Pairs a source with a destination. Without a destination the source is its own, and a
destination takes an empty part of its name from the source. -/
def ofClaims (source : Claim) (destination : Option Claim) : Pair :=
  match destination with
  | none => { source, destination := source }
  | some d =>
    if d.name.isEmpty || d.ns.isEmpty then
      let n : ObjectName :=
        { ns := if d.ns.isEmpty then source.ns else d.ns
          name := if d.name.isEmpty then source.name else d.name }
      { source, destination := d.renamed n }
    else { source, destination := d }

def name (p : Pair) : PairName := ⟨p.source.objectName, p.destination.objectName⟩

def display (p : Pair) : String := p.name.display

/-- The identity of the source claim. -/
def identity (p : Pair) : String := p.source.identity

/-- Whether the pair is copied as a device. -/
def isDevice (p : Pair) : Bool := p.source.isDevice

/-- Whether both claims are copied in the same way. -/
def isConsistent (p : Pair) : Bool := p.source.isDevice == p.destination.isDevice

end Pair

end VolumeMigration
