import VolumeMigration.Cluster.Object
import VolumeMigration.Failure
/-!
# TLS material

What both sides of a tunnel need for TLS, and the Secret that holds it.
-/

namespace VolumeMigration

structure TlsMaterial where
  /-- The certificates that the other side is checked against. -/
  authority : List UInt8
  certificate : List UInt8
  key : List UInt8
deriving DecidableEq, Repr, Inhabited

namespace TlsMaterial

def certificateKey : String := "tls.crt"
def keyKey : String := "tls.key"
def authorityKey : String := "ca.crt"

def toSecretData (m : TlsMaterial) : SecretData :=
  .ofList [(certificateKey, m.certificate), (keyKey, m.key), (authorityKey, m.authority)]

/-- What a Secret holds under a key, which must not be empty. -/
def entry (secret : Object) (key : String) : Result (List UInt8) :=
  let data := match secret.content with
    | .secret data _ => data.getD .empty
    | _ => .empty
  match (data.get? key).filter (!·.isEmpty) with
  | some bytes => .ok bytes
  | none => .error (.configuration (.secretWithoutKey (secret.metadata.name.getD "") key))

/-- The material that a Secret holds. -/
def ofSecret (secret : Object) : Result TlsMaterial := do
  let certificate ← entry secret certificateKey
  let key ← entry secret keyKey
  let authority ← entry secret authorityKey
  return { authority, certificate, key }

/-- A description without the key. -/
def describe (m : TlsMaterial) : String :=
  s!"TlsMaterial \x7b ca_crt: {m.authority.length} bytes, tls_crt: {m.certificate.length} bytes, " ++
    "tls_key: \"<redacted>\" \x7d"

end TlsMaterial

end VolumeMigration
