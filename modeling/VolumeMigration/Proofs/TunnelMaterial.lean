import VolumeMigration.Proofs.CreationOrder
import VolumeMigration.Proofs.Rediscovery
import VolumeMigration.Proofs.RoutedTraffic
import VolumeMigration.Proofs.ServerPorts
import VolumeMigration.Proofs.StoredSecrets
/-!
# The material of a tunnel on both sides

The server's side of a tunnel leaves its TLS material in a Secret, a discovery
reads it there, and the client's side leaves it in a Secret of another cluster.
The bytes stay what they were, and the configuration of each side refers to the
files that the side-car finds its Secret in
(`Transport.createServer_discover_createClient`). A discovery fails exactly if
there is no such Secret or if it lacks a part of the material.
-/

namespace VolumeMigration

open Attempt
open ConfigFile (Says Written)

/-! ## Secrets of TLS material -/

/-- A Secret has no bytes under a key. -/
def Object.lacks (o : Object) (key : String) : Bool := (o.secretBytes? key).all (·.isEmpty)

theorem Object.lacks_eq_false_iff {o : Object} {key : String} :
    o.lacks key = false ↔ ∃ bytes, o.secretBytes? key = some bytes ∧ bytes ≠ [] := by
  unfold lacks
  cases o.secretBytes? key <;> simp

/-- A Secret has the parts of the material, byte for byte. -/
structure Object.HasMaterial (o : Object) (m : TlsMaterial) : Prop where
  certificate : o.secretBytes? TlsMaterial.certificateKey = some m.certificate
  key : o.secretBytes? TlsMaterial.keyKey = some m.key
  authority : o.secretBytes? TlsMaterial.authorityKey = some m.authority

namespace TlsMaterial

/-- The keys of a Secret that material is read from, in the order in which they are read. -/
def secretKeys : List String := [certificateKey, keyKey, authorityKey]

/-- Material no part of which is empty. -/
structure IsFull (m : TlsMaterial) : Prop where
  certificate : m.certificate ≠ []
  key : m.key ≠ []
  authority : m.authority ≠ []

theorem entry_eq (secret : Object) (key : String) : entry secret key =
    if secret.lacks key then .error (.configuration (.secretWithoutKey (secret.metadata.name.getD "") key))
    else .ok ((secret.secretBytes? key).getD []) := by
  unfold entry Object.lacks Object.secretBytes?
  cases secret.content with
  | secret data type =>
    cases data with
    | none => rfl
    | some data =>
      simp only [Option.getD_some, Option.bind_some]
      rcases data.get? key with _ | _ | ⟨b, bytes⟩ <;> rfl
  | _ => rfl

/-- Material is read from a Secret unless one of its parts is not there, and the first such part is named. -/
theorem ofSecret_eq (secret : Object) : ofSecret secret = match secretKeys.find? secret.lacks with
    | some key => .error (.configuration (.secretWithoutKey (secret.metadata.name.getD "") key))
    | none => .ok {
        authority := (secret.secretBytes? authorityKey).getD []
        certificate := (secret.secretBytes? certificateKey).getD []
        key := (secret.secretBytes? keyKey).getD [] } := by
  unfold ofSecret secretKeys
  simp only [entry_eq, List.find?_cons, List.find?_nil]
  cases secret.lacks certificateKey with
  | true => rfl
  | false =>
    cases secret.lacks keyKey with
    | true => rfl
    | false => cases secret.lacks authorityKey <;> rfl

theorem ofSecret_eq_ok {secret : Object} {m : TlsMaterial} :
    ofSecret secret = .ok m ↔ secret.HasMaterial m ∧ m.IsFull := by
  rw [ofSecret_eq]
  constructor
  · intro h
    cases hfind : secretKeys.find? secret.lacks with
    | some key =>
      rw [hfind] at h
      cases h
    | none =>
      have hthere : ∀ key ∈ secretKeys, ∃ bytes, secret.secretBytes? key = some bytes ∧ bytes ≠ [] := fun key hkey =>
        Object.lacks_eq_false_iff.1 (Bool.not_eq_true _ ▸ List.find?_eq_none.1 hfind key hkey)
      obtain ⟨certificate, hcertificate, hc⟩ := hthere certificateKey (by decide)
      obtain ⟨key, hkey, hk⟩ := hthere keyKey (by decide)
      obtain ⟨authority, hauthority, ha⟩ := hthere authorityKey (by decide)
      rw [hfind, hcertificate, hkey, hauthority] at h
      cases h
      exact ⟨⟨hcertificate, hkey, hauthority⟩, hc, hk, ha⟩
  · rintro ⟨⟨hcertificate, hkey, hauthority⟩, hc, hk, ha⟩
    have hnone : secretKeys.find? secret.lacks = none := by
      simp [secretKeys, Object.lacks_eq_false_iff.2 ⟨_, hcertificate, hc⟩, Object.lacks_eq_false_iff.2 ⟨_, hkey, hk⟩,
        Object.lacks_eq_false_iff.2 ⟨_, hauthority, ha⟩]
    rw [hnone, hcertificate, hkey, hauthority]
    rfl

end TlsMaterial

/-! ## Discovery -/

/-- What the discovery of a tunnel comes to, by the Secret that its server's side left. -/
structure Stunnel.DiscoveryOf (c : Cluster) (ns id : String) (options : StunnelOptions) (r : Result Transport) :
    Prop where
  /-- It fails only for want of the Secret or of a part of the material. -/
  fails : (∃ f, r = .error f) ↔ c.objects.get? ⟨.secret, ns, secretName id⟩ = none ∨
    ∃ secret, c.objects.get? ⟨.secret, ns, secretName id⟩ = some secret ∧
      ∃ key ∈ TlsMaterial.secretKeys, secret.lacks key = true
  absent : c.objects.get? ⟨.secret, ns, secretName id⟩ = none → r = .error (.notFound "Secret" ⟨ns, secretName id⟩)
  lacking : ∀ secret key, c.objects.get? ⟨.secret, ns, secretName id⟩ = some secret →
    TlsMaterial.secretKeys.find? secret.lacks = some key →
      r = .error (.configuration (.secretWithoutKey (secret.metadata.name.getD "") key))
  /-- It finds what the Secret has, and nothing else. -/
  found : ∀ t, r = .ok t ↔ ∃ secret m, c.objects.get? ⟨.secret, ns, secretName id⟩ = some secret ∧
    secret.HasMaterial m ∧ m.IsFull ∧ t = .stunnel { options, material := some m }

namespace Transport

variable {ns id : String} {options : StunnelOptions} {e : Endpoint} {c c' : Cluster} {t : Transport}
  {issued : TlsMaterial} {port : Nat} {controlFile : Option String}

theorem outcome_discover_absent (hfree : c.FailureFree)
    (hget : c.objects.get? ⟨.secret, ns, Stunnel.secretName id⟩ = none) :
    outcome (discover .stunnel ns id options) c = (.error (.notFound "Secret" ⟨ns, Stunnel.secretName id⟩), c) := by
  have hrequire : outcome (Cluster.require .secret ⟨ns, Stunnel.secretName id⟩) c =
      (.error (.notFound "Secret" ⟨ns, Stunnel.secretName id⟩), c) := by
    unfold Cluster.require
    rw [outcome_bind_ok (hfree.find?_none hget)]
    rfl
  unfold discover Stunnel.discover
  simp only [outcome_bind, hrequire]

/-- What is discovered is read from the Secret of the server's side, and nothing is changed. -/
theorem outcome_discover_there {secret : Object} (hfree : c.FailureFree) (hkept : c.WellKept)
    (hget : c.objects.get? ⟨.secret, ns, Stunnel.secretName id⟩ = some secret) :
    outcome (discover .stunnel ns id options) c =
      ((TlsMaterial.ofSecret secret).map fun m => .stunnel { options, material := some m }, c) := by
  have hrequire : outcome (Cluster.require .secret ⟨ns, Stunnel.secretName id⟩) c = (.ok secret, c) :=
    hfree.require_ok hget (hkept.served hget nofun)
  unfold discover Stunnel.discover
  simp only [outcome_bind, hrequire, outcome_ofResult]
  cases TlsMaterial.ofSecret secret <;> rfl

/-- A discovery fails only where the Secret is not there or lacks something. -/
theorem discover_discoveryOf (hfree : c.FailureFree) (hkept : c.WellKept) (ns id : String) (options : StunnelOptions) :
    ∃ r, outcome (discover .stunnel ns id options) c = (r, c) ∧ Stunnel.DiscoveryOf c ns id options r := by
  cases hget : c.objects.get? ⟨.secret, ns, Stunnel.secretName id⟩ with
  | none =>
    exact ⟨_, outcome_discover_absent hfree hget, by simp [hget], fun _ => rfl, by simp [hget], by simp [hget]⟩
  | some secret =>
    refine ⟨_, outcome_discover_there hfree hkept hget, ?_, by simp [hget], ?_, ?_⟩
    · simp only [hget, Option.some.injEq, reduceCtorEq, false_or, exists_eq_left']
      rw [← List.find?_isSome, TlsMaterial.ofSecret_eq]
      cases TlsMaterial.secretKeys.find? secret.lacks <;> simp [Except.map]
    · intro secret' key hsecret hkey
      obtain rfl := Option.some.inj (hget.symm.trans hsecret)
      rw [TlsMaterial.ofSecret_eq, hkey]
      rfl
    · intro t
      constructor
      · intro h
        cases hread : TlsMaterial.ofSecret secret with
        | error f =>
          rw [hread] at h
          cases h
        | ok m =>
          rw [hread] at h
          cases h
          obtain ⟨hhas, hfull⟩ := TlsMaterial.ofSecret_eq_ok.1 hread
          exact ⟨secret, m, hget, hhas, hfull, rfl⟩
      · rintro ⟨secret', m, hsecret, hhas, hfull, rfl⟩
        obtain rfl := Option.some.inj (hget.symm.trans hsecret)
        rw [TlsMaterial.ofSecret_eq_ok.2 ⟨hhas, hfull⟩]
        rfl

end Transport

/-! ## Configurations -/

namespace Stunnel

variable {ns id : String} {options : StunnelOptions} {side : Side} {c : Cluster} {m : TlsMaterial}

/-- The configuration of a side refers to three files: each has its line, whatever else was put in, and the service
has these settings and no other ones for them. Without a check of the other side nothing is said of the third file. -/
structure RefersTo (file : String) (texts : List String) (o : StunnelOptions) (certificate key authority : String) :
    Prop where
  lines : ∀ line ∈ ["cert = " ++ certificate, "key = " ++ key] ++
      (if o.noVerifyCa then [] else ["CAfile = " ++ authority]), line ∈ ConfigFile.linesOf file
  settings : Says file service texts
    [("cert", [certificate]), ("key", [key]), ("CAfile", if o.noVerifyCa then [] else [authority])]

/-- The lines for the material are lines of the file, even if others before them were broken up. -/
theorem mem_linesOf_material (hlevel : ¬ConfigFile.HasBreak options.caVerifyLevel) (start : List Written) :
    ∀ w ∈ materialLines options, w.line ∈
      ConfigFile.linesOf (ConfigFile.ofLines ((start ++ materialLines options).map Written.line)) := by
  intro w hw
  have hwhole : ∀ l ∈ (materialLines options).map Written.line, ¬ConfigFile.HasBreak l := by
    intro l hl
    obtain ⟨w, hw, rfl⟩ := List.mem_map.1 hl
    exact (materialLines_whole hlevel w hw).line
  rw [List.map_append, ConfigFile.ofLines_append, ConfigFile.linesOf_ofLines_append, ConfigFile.linesOf_ofLines hwhole]
  exact List.mem_append_right _ (List.mem_map_of_mem hw)

/-- A file that ends with the lines for the material refers to the files in the directory of the Secret. -/
theorem refersTo_of_lines {file : String} {texts : List String} (hvalid : options.validate = .ok ())
    (start : List Written) (hfile : file = ConfigFile.ofLines ((start ++ materialLines options).map Written.line))
    (h : Says file service texts [("cert", [certsDir ++ "/tls.crt"]), ("key", [certsDir ++ "/tls.key"]),
      ("CAfile", authoritySettings options)]) :
    RefersTo file texts options (certsDir ++ "/tls.crt") (certsDir ++ "/tls.key") (certsDir ++ "/ca.crt") := by
  have hlines := mem_linesOf_material (StunnelOptions.not_hasBreak_caVerifyLevel hvalid) start
  rw [← hfile] at hlines
  refine ⟨fun line hline => ?_, h⟩
  have hcertificate : Written.entry "cert" (certsDir ++ "/tls.crt") rfl ∈ materialLines options := List.mem_cons_self
  have hkey : Written.entry "key" (certsDir ++ "/tls.key") rfl ∈ materialLines options :=
    List.mem_cons_of_mem _ List.mem_cons_self
  rcases List.mem_append.1 hline with hline | hline
  · simp only [List.mem_cons, List.not_mem_nil, or_false] at hline
    rcases hline with rfl | rfl
    · exact hlines _ hcertificate
    · exact hlines _ hkey
  · cases hverify : options.noVerifyCa with
    | true => simp [hverify] at hline
    | false =>
      obtain rfl : line = "CAfile = " ++ (certsDir ++ "/ca.crt") := by simpa [hverify] using hline
      have hauthority : Written.entry "CAfile" (certsDir ++ "/ca.crt") rfl ∈ materialLines options := by
        simp [materialLines, hverify]
      exact hlines _ hauthority

theorem serverConfig_refersTo (hvalid : options.validate = .ok ()) (port : Nat) :
    RefersTo (serverConfig options port) [] options (certsDir ++ "/tls.crt") (certsDir ++ "/tls.key")
      (certsDir ++ "/ca.crt") := by
  refine refersTo_of_lines hvalid _ (serverConfig_eq options port) ?_
  have hlevel : ∀ s ∈ [options.caVerifyLevel], s ∈ [] ∨ ¬ConfigFile.HasBreak s := fun s hs =>
    .inr (List.mem_singleton.1 hs ▸ StunnelOptions.not_hasBreak_caVerifyLevel hvalid)
  have hsettings := (serverConfig_saysAll options port).of_texts hlevel
  exact hsettings.subset fun s hs => List.mem_cons_of_mem _ (List.mem_cons_of_mem _ hs)

theorem clientConfig_refersTo {e : Endpoint} {config : String} (hvalid : options.validate = .ok ())
    (h : clientConfig options e = .ok config) :
    ∃ address proxy, Address.ofEndpoint e = .ok address ∧ options.proxyHost = .ok proxy ∧
      RefersTo config (clientTexts options proxy address) options (certsDir ++ "/tls.crt") (certsDir ++ "/tls.key")
        (certsDir ++ "/ca.crt") := by
  obtain ⟨address, proxy, haddress, hproxy, hfile⟩ := clientConfig_eq h
  obtain ⟨address', proxy', haddress', hproxy', hsettings⟩ := clientConfig_saysAll h
  obtain rfl : address' = address := Except.ok.inj (haddress'.symm.trans haddress)
  obtain rfl : proxy' = proxy := Except.ok.inj (hproxy'.symm.trans hproxy)
  refine ⟨address', proxy', haddress, hproxy, refersTo_of_lines hvalid _ hfile (hsettings.subset fun s hs => ?_)⟩
  simp only [List.mem_cons, List.not_mem_nil, or_false] at hs
  rcases hs with rfl | rfl | rfl <;> simp [clientSettings]

/-- A pod with the volumes of a side shows its side-car the configuration, and the parts of the material. -/
theorem shows_container (o : StunnelOptions) (port : Nat) (controlFile : Option String) {pod : PodSpec}
    (hvolumes : ∀ v ∈ volumes id, v ∈ pod.volumes.getD []) :
    pod.Shows (container o port controlFile) configPath (configMapName id) configKey ∧
      ∀ key, (Payload.mk pod (container o port controlFile)).Finds (certsDir ++ "/" ++ key) (secretName id) key := by
  refine ⟨⟨_, List.mem_cons_self, rfl, rfl, _, hvolumes _ List.mem_cons_self, rfl, _, rfl, rfl⟩, fun key => ?_⟩
  exact ⟨_, List.mem_cons_of_mem _ List.mem_cons_self, _, hvolumes _ (List.mem_cons_of_mem _ List.mem_cons_self), rfl,
    rfl, _, rfl, rfl, rfl⟩

/-! ## Sides -/

/-- What a side of a tunnel consists of, with its side-car and its volumes: a Secret with the material, which is read
back from the cluster as it is kept there, and a configuration that refers to the files that a pod with the volumes
gives the side-car from this Secret. -/
structure SideHeld (c : Cluster) (ns id : String) (o : StunnelOptions) (texts : List String)
    (controlFile : Option String) (containers : List Container) (volumes : List Volume) (m : TlsMaterial) : Prop where
  material : ∃ secret, c.objects.get? ⟨.secret, ns, secretName id⟩ = some secret ∧ secret.HasMaterial m ∧
    Object.ofJson? .secret secret.toJson = some secret
  refers : ∃ file certificate key authority sidecar, RefersTo file texts o certificate key authority ∧
    c.configText? ⟨ns, configMapName id⟩ configKey = some file ∧ containers = [sidecar] ∧
    sidecar.command = some (command controlFile) ∧ ∀ pod : PodSpec, (∀ v ∈ volumes, v ∈ pod.volumes.getD []) →
      pod.Shows sidecar configPath (configMapName id) configKey ∧
      (Payload.mk pod sidecar).Finds certificate (secretName id) TlsMaterial.certificateKey ∧
      (Payload.mk pod sidecar).Finds key (secretName id) TlsMaterial.keyKey ∧
      (Payload.mk pod sidecar).Finds authority (secretName id) TlsMaterial.authorityKey

/-- The Secret of a side has the material, and is kept so that it is read back. -/
theorem hasMaterial_of_holds {config : String} (h : ∀ o ∈ objects ns id side config m, c.Holds o) :
    ∃ secret, c.objects.get? ⟨.secret, ns, secretName id⟩ = some secret ∧ secret.HasMaterial m ∧
      Object.ofJson? .secret secret.toJson = some secret := by
  obtain ⟨secret, hget, halike⟩ := h _ (List.mem_cons_of_mem _ List.mem_cons_self)
  obtain ⟨hcertificate, hkey, hauthority⟩ := m.get?_toSecretData
  have hbytes (key : String) : secret.secretBytes? key = m.toSecretData.get? key := by
    rw [Object.secretBytes?, halike.content_eq]
    rfl
  refine ⟨secret, hget, ⟨(hbytes _).trans hcertificate, (hbytes _).trans hkey, (hbytes _).trans hauthority⟩, ?_⟩
  rw [halike.eq_withVersion]
  exact Object.ofJson?_secret ..

theorem sideHeld_of_holds {config : String} {texts : List String} (h : ∀ o ∈ objects ns id side config m, c.Holds o)
    (hrefers : RefersTo config texts options (certsDir ++ "/tls.crt") (certsDir ++ "/tls.key") (certsDir ++ "/ca.crt"))
    (port : Nat) (controlFile : Option String) :
    SideHeld c ns id options texts controlFile [container options port controlFile] (volumes id) m := by
  refine ⟨hasMaterial_of_holds h, _, _, _, _, _, hrefers, Transfer.configText?_tunnel h, rfl, rfl, ?_⟩
  intro pod hvolumes
  obtain ⟨hshows, hfinds⟩ := shows_container options port controlFile hvolumes
  exact ⟨hshows, hfinds TlsMaterial.certificateKey, hfinds TlsMaterial.keyKey, hfinds TlsMaterial.authorityKey⟩

/-! ## Creating a side -/

/-- The files of a side are written whatever is there, unless a rule of the cluster forbids it. -/
theorem writeAll_succeeds (os : List Object) (hns : ∀ o ∈ os, o.metadata.ns ≠ none)
    (hkind : ∀ o ∈ os, o.kind ≠ .ingress) : ∀ {c : Cluster}, c.FailureFree → c.WellKept →
      ∃ c', outcome (writeAll os) c = (.ok (), c') ∧ c'.FailureFree ∧ c'.WellKept := by
  induction os with
  | nil => exact fun hfree hkept => ⟨_, rfl, hfree, hkept⟩
  | cons o os ih =>
    intro c hfree hkept
    rw [List.forall_mem_cons] at hns hkind
    obtain ⟨ns, hspace⟩ := Option.ne_none_iff_exists'.1 hns.1
    obtain ⟨x, c₁, hwritten, hfree₁, hkept₁⟩ := hfree.createOrUpdate_ok hkept hspace hkind.1
    obtain ⟨c₂, hrest, hfree₂, hkept₂⟩ := ih hns.2 hkind.2 hfree₁ hkept₁
    exact ⟨c₂, inOrder_cons_ok.2 ⟨c₁, outcome_bind_ok hwritten _, hrest⟩, hfree₂, hkept₂⟩

theorem writeObjects_succeeds (hfree : c.FailureFree) (hkept : c.WellKept) (ns id : String) (side : Side)
    (config : String) (m : TlsMaterial) :
    ∃ c', outcome (writeFiles (.ok (objects ns id side config m))) c = (.ok (), c') ∧
      c'.FailureFree ∧ c'.WellKept := by
  have hobjects : ∀ o ∈ objects ns id side config m, o.metadata.ns ≠ none ∧ o.kind ≠ .ingress := by
    simp [objects, Manifest.configMap, Manifest.secret, Manifest.metadata, Object.kind, Content.kind]
  exact writeAll_succeeds _ (fun o ho => (hobjects o ho).1) (fun o ho => (hobjects o ho).2) hfree hkept

end Stunnel

namespace Transport

variable {ns id : String} {e : Endpoint} {c c' d s : Cluster} {t : Transport} {issued m : TlsMaterial} {port : Nat}
  {controlFile : Option String}

/-- What an attempt on a transport comes to is known from what it comes to in the cluster. -/
theorem outcome_of_cluster {a : Attempt (Transport × Cluster) Unit} {u : Transport}
    (hcluster : cluster (outcome a (t, c)) = (.ok (), c'))
    (htransport : ∀ t', outcome a (t, c) = (.ok (), (t', c')) → t' = u) : outcome a (t, c) = (.ok (), (u, c')) := by
  rcases hrun : outcome a (t, c) with ⟨r, t', c''⟩
  rw [hrun] at hcluster
  cases hcluster
  rw [htransport t' hrun]

/-- The server's side of a tunnel with legal options is created in any cluster without rules against it. -/
theorem createServer_succeeds {tunnel : Stunnel} (hvalid : tunnel.options.validate = .ok ()) (hfree : c.FailureFree)
    (hkept : c.WellKept) (issued : TlsMaterial) (id : String) (e : Endpoint) (port : Nat)
    (controlFile : Option String) :
    ∃ c', outcome (createServer issued id e port controlFile) (.stunnel tunnel, c) =
        (.ok (), (.stunnel (tunnel.asServer issued id controlFile), c')) ∧ c'.FailureFree ∧ c'.WellKept ∧
      ∀ o ∈ Stunnel.objects e.name.ns id .server (Stunnel.serverConfig tunnel.options port)
        (tunnel.material.getD issued), c'.Holds o := by
  obtain ⟨c', hwritten, hfree', hkept'⟩ := Stunnel.writeObjects_succeeds hfree hkept e.name.ns id .server
    (Stunnel.serverConfig tunnel.options port) (tunnel.material.getD issued)
  have hfiles : (Transport.stunnel tunnel).serverObjects issued id e port = .ok (Stunnel.objects e.name.ns id .server
      (Stunnel.serverConfig tunnel.options port) (tunnel.material.getD issued)) := by
    simp only [serverObjects, hvalid]
    rfl
  have hcluster : cluster (outcome (createServer issued id e port controlFile) (.stunnel tunnel, c)) =
      (.ok (), c') := by
    rw [cluster_createServer, hfiles, hwritten]
  have hrun := outcome_of_cluster hcluster fun t' h => (createServer_ok h).1
  exact ⟨c', hrun, hfree', hkept', (createServer_ok hrun).2.1⟩

/-- So is the client's side of a tunnel that has its material and leads to an address that is known. -/
theorem createClient_succeeds (tunnel : Stunnel) {config : String} (hvalid : tunnel.options.validate = .ok ())
    (hm : tunnel.material = some m) (hconfig : Stunnel.clientConfig tunnel.options e = .ok config)
    (hfree : c.FailureFree) (hkept : c.WellKept) (ns id : String) (controlFile : Option String) :
    ∃ c', outcome (createClient ns id e controlFile) (.stunnel tunnel, c) =
        (.ok (), (.stunnel (tunnel.asClient id controlFile), c')) ∧
      ∀ o ∈ Stunnel.objects ns id .client config m, c'.Holds o := by
  have hfiles : (Transport.stunnel tunnel).clientObjects ns id e = .ok (Stunnel.objects ns id .client config m) := by
    simp only [clientObjects, hvalid, hm, hconfig]
    rfl
  obtain ⟨c', hwritten, -, -⟩ := Stunnel.writeObjects_succeeds hfree hkept ns id .client config m
  have hcluster : cluster (outcome (createClient ns id e controlFile) (.stunnel tunnel, c)) = (.ok (), c') := by
    rw [cluster_createClient, hfiles, hwritten]
  have hrun := outcome_of_cluster hcluster fun t' h => (createClient_ok h).1
  obtain ⟨m', config', hm', hconfig', hheld⟩ := (createClient_ok hrun).2.1
  obtain rfl : m' = m := Option.some.inj (hm'.symm.trans hm)
  obtain rfl : config' = config := Except.ok.inj (hconfig'.symm.trans hconfig)
  exact ⟨c', hrun, hheld⟩

/-! ## From one cluster to the other -/

/-- Whatever the bytes of the material are: once the server's side of a tunnel was created, what is discovered beside it
is a tunnel with the same material, and the client's side is created with it in any other cluster. Each side has the
material in its Secret, and a configuration that refers to it. A discovery fails exactly if the Secret is not there or
lacks a part of the material, and never changes anything. -/
theorem createServer_discover_createClient {tunnel : Stunnel} {here : StunnelOptions} {address : Address}
    (hm : tunnel.material.getD issued = m) (hfull : m.IsFull) (hthere : tunnel.options.validate = .ok ())
    (hhere : here.validate = .ok ()) (haddress : Address.ofEndpoint e = .ok address) (hd : d.FailureFree)
    (hdkept : d.WellKept) (hs : s.FailureFree) (hskept : s.WellKept) (ns id : String) (port : Nat)
    (thereFile hereFile : Option String) :
    (∃ server d' client s' proxy,
      outcome (createServer issued id e port thereFile) (.stunnel tunnel, d) = (.ok (), (.stunnel server, d')) ∧
      outcome (discover .stunnel e.name.ns id here) d' = (.ok (.stunnel { options := here, material := some m }), d') ∧
      outcome (createClient ns id e hereFile) (.stunnel { options := here, material := some m }, s) =
        (.ok (), (.stunnel client, s')) ∧
      Stunnel.SideHeld d' e.name.ns id tunnel.options [] thereFile server.serverContainers server.serverVolumes m ∧
      here.proxyHost = .ok proxy ∧
      Stunnel.SideHeld s' ns id here (Stunnel.clientTexts here proxy address) hereFile client.clientContainers
        client.clientVolumes m) ∧
    ∀ (c : Cluster) (ns id : String) (options : StunnelOptions), c.FailureFree → c.WellKept →
      ∃ r, outcome (discover .stunnel ns id options) c = (r, c) ∧ Stunnel.DiscoveryOf c ns id options r := by
  refine ⟨?_, fun c ns id options hfree hkept => discover_discoveryOf hfree hkept ns id options⟩
  obtain ⟨d', hserver, hd', hdkept', hheld⟩ := createServer_succeeds hthere hd hdkept issued id e port thereFile
  rw [hm] at hheld
  obtain ⟨secret, hget, hhas, -⟩ := Stunnel.hasMaterial_of_holds hheld
  have hfound : outcome (discover .stunnel e.name.ns id here) d' =
      (.ok (.stunnel { options := here, material := some m }), d') := by
    rw [outcome_discover_there hd' hdkept' hget, TlsMaterial.ofSecret_eq_ok.2 ⟨hhas, hfull⟩]
    rfl
  obtain ⟨proxy, hproxy⟩ := StunnelOptions.proxyHost_ok hhere
  obtain ⟨config, hconfig⟩ : ∃ config, Stunnel.clientConfig here e = .ok config := by
    simp only [Stunnel.clientConfig, haddress, hproxy]
    exact ⟨_, rfl⟩
  obtain ⟨address', proxy', haddress', hproxy', hrefers⟩ := Stunnel.clientConfig_refersTo hhere hconfig
  obtain rfl : address' = address := Except.ok.inj (haddress'.symm.trans haddress)
  obtain ⟨s', hclient, hheld'⟩ := createClient_succeeds { options := here, material := some m } hhere rfl hconfig hs
    hskept ns id hereFile
  exact ⟨_, d', _, s', proxy', hserver, hfound, hclient,
    Stunnel.sideHeld_of_holds hheld (Stunnel.serverConfig_refersTo hthere port) _ _, hproxy',
    Stunnel.sideHeld_of_holds hheld' hrefers _ _⟩

/-- Material that is no text. -/
def binaryMaterial : TlsMaterial := { authority := [0, 255], certificate := [45, 10], key := [128] }

/-- The options of a tunnel whose sides check each other. -/
def checking : StunnelOptions := { noVerifyCa := false }

theorem createServer_discover_createClient_checking : binaryMaterial.IsFull ∧ checking.validate = .ok () ∧
    ∃ (server client : Stunnel) (d' s' : Cluster),
      outcome (createServer binaryMaterial "sail" Transfer.disks.endpoint 8022 none)
        (.stunnel { options := checking }, {}) = (.ok (), (.stunnel server, d')) ∧
      Stunnel.SideHeld d' "depot" "sail" checking [] none server.serverContainers server.serverVolumes binaryMaterial ∧
      Stunnel.SideHeld s' "shop" "sail" checking
        (Stunnel.clientTexts checking none ⟨"inbox.depot.svc.cluster.local", Endpoint.exposedPort⟩) none
        client.clientContainers client.clientVolumes binaryMaterial := by
  have hm : ({ options := checking } : Stunnel).material.getD binaryMaterial = binaryMaterial := rfl
  have hfull : binaryMaterial.IsFull := ⟨by decide, by decide, by decide⟩
  have hvalid : checking.validate = .ok () := rfl
  have haddress : Address.ofEndpoint Transfer.disks.endpoint =
      .ok ⟨"inbox.depot.svc.cluster.local", Endpoint.exposedPort⟩ := rfl
  have hfree : ({} : Cluster).FailureFree := ⟨rfl, rfl⟩
  obtain ⟨⟨server, d', client, s', proxy, hserver, -, -, hthere, hproxy, hhere⟩, -⟩ :=
    createServer_discover_createClient hm hfull hvalid hvalid haddress hfree Cluster.wellKept_empty hfree
      Cluster.wellKept_empty "shop" "sail" 8022 none none
  cases hproxy
  exact ⟨hfull, hvalid, server, client, d', s', hserver, hthere, hhere⟩

end Transport

end VolumeMigration
