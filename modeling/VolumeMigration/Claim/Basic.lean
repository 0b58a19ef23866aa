import VolumeMigration.Cluster.Object
import VolumeMigration.Text.Digest
/-!
# Volume claims

A claim names a volume. Its identity, the hash of its name, is always a legal
label value, so that everything a transfer creates can be named after it.
-/

namespace VolumeMigration

/-- A claim of a volume, with its state in `rest`. -/
structure Claim where
  metadata : Metadata
  spec : Option ClaimSpec := none
  rest : Fields := []
deriving BEq, Repr

namespace Claim

/-- The annotation that says what a volume contains. -/
def contentTypeKey : String := "cdi.kubevirt.io/storage.contentType"

/-- The content type of the disk of a virtual machine. -/
def vmDiskContent : String := "kubevirt"

/-- The volume mode of a raw block device. -/
def blockMode : String := "Block"

def ofObject? (o : Object) : Option Claim :=
  match o.content with
  | .claim spec => some { metadata := o.metadata, spec, rest := o.rest }
  | _ => none

def toObject (c : Claim) : Object := { metadata := c.metadata, content := .claim c.spec, rest := c.rest }

/-- A claim of a file system, of which only the name is known. -/
def named (n : ObjectName) : Claim := { metadata := { name := some n.name, ns := some n.ns } }

/-- The namespace, empty if none is set, and the name. -/
def objectName (c : Claim) : ObjectName := ⟨c.metadata.ns.getD "", c.metadata.lookupName⟩

def ns (c : Claim) : String := c.objectName.ns

def name (c : Claim) : String := c.objectName.name

/-- A hash of the claim's name, in characters that a label value may have. -/
def identity (c : Claim) : String := Text.md5Hex c.name

/-- Whether the volume is a raw block device. -/
def isBlock (c : Claim) : Bool := (c.spec.bind (·.volumeMode)) == some blockMode

/-- Whether the volume holds the disk of a virtual machine. -/
def isVmDisk (c : Claim) : Bool := c.metadata.annotation? contentTypeKey == some vmDiskContent

/-- Whether the volume is copied as a device, and not as a tree of files. -/
def isDevice (c : Claim) : Bool := c.isBlock || c.isVmDisk

/-- The claim with a volume mode. -/
def withMode (c : Claim) (mode : String) : Claim :=
  { c with spec := some { c.spec.getD {} with volumeMode := some mode } }

/-- The claim with an annotation. -/
def annotate (c : Claim) (key value : String) : Claim :=
  { c with metadata := c.metadata.annotate key value }

/-- The fields that a cluster fills in for one object. -/
def assignedKeys : List String := ["uid", "creationTimestamp"]

/-- A copy of the claim under another name, without what its cluster filled in. Empty parts of the
name are kept from the claim. -/
def renamed (c : Claim) (n : ObjectName) : Claim :=
  { c with
    metadata := { c.metadata with
      ns := if n.ns.isEmpty then c.metadata.ns else some n.ns
      name := if n.name.isEmpty then c.metadata.name else some n.name
      resourceVersion := none
      rest := c.metadata.rest.without assignedKeys }
    rest := c.rest.without ["status"] }

end Claim

end VolumeMigration
