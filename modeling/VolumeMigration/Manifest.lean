import VolumeMigration.Cluster.Object
import VolumeMigration.Label
import VolumeMigration.Text.Digest
/-!
# Manifests

The plain objects that transports and transfers create, and the parts of pods
that they put together. Every object carries the label of its manager.
-/

namespace VolumeMigration.Manifest

/-- The metadata of an object of this program. -/
def metadata (n : ObjectName) (labels : StringMap) : Metadata :=
  { name := some n.name, ns := some n.ns, labels := some (Label.withManager labels) }

def configMap (n : ObjectName) (labels : StringMap) (data : StringMap) : Object :=
  { metadata := metadata n labels, content := .configMap (some data) }

def secret (n : ObjectName) (labels : StringMap) (data : SecretData) : Object :=
  { metadata := metadata n labels, content := .secret (some data) (some "Opaque") }

/-- The data of a Secret from texts. -/
def secretTexts (entries : List (String × String)) : SecretData :=
  SortedMap.ofList (entries.map fun e => (e.1, Text.utf8Bytes e.2))

def pod (n : ObjectName) (labels : StringMap) (spec : PodSpec) : Object :=
  { metadata := metadata n labels, content := .pod (some spec) none }

/-- A deployment of one pod that carries the labels. -/
def deployment (n : ObjectName) (labels : StringMap) (spec : PodSpec) : Object :=
  { metadata := metadata n labels
    content := .deployment (some {
      replicas := some 1
      selector := { matchLabels := some labels }
      template := { metadata := some { labels := some labels }, spec := some spec } }) }

def configMapVolume (name configMap : String) : Volume := { name, configMap := some { name := configMap } }

def secretVolume (name secret : String) : Volume := { name, secret := some { secretName := some secret } }

/-- The volume of a claim, for reading and writing. -/
def claimVolume (name claim : String) : Volume :=
  { name, claim := some { claimName := claim, readOnly := some false } }

/-- An environment variable with the value of a Secret's key. -/
def secretEnv (name secret key : String) : EnvVar :=
  { name, secretKey := some { name := secret, key, optional := some false } }

def tcpPort (name : String) (port : Nat) : ContainerPort :=
  { containerPort := port, name := some name, protocol := some "TCP" }

end VolumeMigration.Manifest
