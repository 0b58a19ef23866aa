import VolumeMigration.Proofs.ConfigFiles
/-!
# What discovery finds

A cluster goes on after the server of a transfer was created in it: it fills in
addresses and states, and others add objects of their own (`Cluster.Settles`).
What is discovered then is what was created: the endpoint, up to what is learned
of its address (`Endpoint.discover_ok`), and the TLS material of the server's
side (`Transport.discover_ok`).
-/

namespace VolumeMigration

open Attempt

/-! ## Clusters that go on -/

namespace Content

/-- The content without what a cluster fills in: states, addresses, ports of nodes, hosts of routes. -/
def asked : Content → Content
  | .service spec _ => .service (spec.map fun s =>
      { s with clusterIP := none, ports := s.ports.map (·.map fun p => { p with nodePort := none }) }) none
  | .route spec _ => .route { spec with host := none } none
  | .ingress spec _ => .ingress spec none
  | c => c

variable {c : Content}

theorem asked_eq_service {spec : ServiceSpec} {status : Option BalancedStatus}
    (h : c.asked = (Content.service (some spec) status).asked) :
    ∃ spec' status', c = .service (some spec') status' ∧ spec'.type = spec.type ∧ spec'.selector = spec.selector := by
  cases c with
  | service spec' status' =>
    cases spec' with
    | none => simp [asked] at h
    | some spec' =>
      simp only [asked, Option.map_some, Content.service.injEq, Option.some.injEq, ServiceSpec.mk.injEq, and_true] at h
      exact ⟨spec', status', rfl, h.1, h.2.2.1⟩
  | _ => simp [asked] at h

theorem asked_eq_route {spec : RouteSpec} {status : Option RouteStatus}
    (h : c.asked = (Content.route spec status).asked) :
    ∃ spec' status', c = .route spec' status' ∧ spec'.tls = spec.tls := by
  cases c with
  | route spec' status' =>
    simp only [asked, Content.route.injEq, RouteSpec.mk.injEq, and_true] at h
    exact ⟨spec', status', rfl, h.2.2.2⟩
  | _ => simp [asked] at h

theorem asked_eq_ingress {spec : Option IngressSpec} {status : Option BalancedStatus}
    (h : c.asked = (Content.ingress spec status).asked) : ∃ status', c = .ingress spec status' := by
  cases c with
  | ingress spec' status' =>
    simp only [asked, Content.ingress.injEq, and_true] at h
    exact ⟨status', by rw [h]⟩
  | _ => simp [asked] at h

theorem asked_eq_secret {data : Option SecretData} {type : Option String}
    (h : c.asked = (Content.secret data type).asked) : c = .secret data type := by
  cases c with
  | secret data' type' => exact h
  | _ => simp [asked] at h

end Content

/-- The second object is the first one with what a cluster fills in, and maybe more annotations. -/
structure Object.Settles (o o' : Object) : Prop where
  asked : o'.content.asked = o.content.asked
  annotations : ∀ key value, o.metadata.annotation? key = some value → o'.metadata.annotation? key = some value

namespace Cluster

/-- The kinds that discovery reads. -/
def discovered : List Kind := [.service, .route, .ingress, .secret]

/-- What discovery reads of the first cluster is still there in the second one. -/
def Settles (c c' : Cluster) : Prop :=
  ∀ key o, key.kind ∈ discovered → c.objects.get? key = some o → ∃ o', c'.objects.get? key = some o' ∧ o.Settles o'

theorem Settles.refl (c : Cluster) : c.Settles c := fun _ o _ h => ⟨o, h, rfl, fun _ _ hk => hk⟩

variable {c c' c'' : Cluster} {o : Object}

theorem require_ok {k : Kind} {n : ObjectName} (h : outcome (require k n) c = (.ok o, c')) :
    c' = c ∧ c.objects.get? ⟨k, n.ns, n.name⟩ = some o := by
  unfold require at h
  obtain ⟨found, c₁, hfind, h⟩ := bind_eq_ok.1 h
  obtain ⟨rfl, rfl⟩ := find?_eq_ok hfind
  cases hkept : c₁.objects.get? ⟨k, n.ns, n.name⟩ with
  | none =>
    rw [hkept] at h
    cases h
  | some kept =>
    rw [hkept] at h
    cases h
    exact ⟨rfl, rfl⟩

/-- What is found under the key of an object is what became of the object. -/
theorem Settles.require (hc : c.Settles c') (ho : c.Holds o) {o' : Object} {k : Kind} {n : ObjectName}
    (h : outcome (require k n) c' = (.ok o', c'')) (hk : k ∈ discovered) (hkey : o.key = ⟨k, n.ns, n.name⟩) :
    c'' = c' ∧ o.Settles o' := by
  obtain ⟨a, hget, halike⟩ := ho
  obtain ⟨b, hget', hasked, hannotations⟩ := hc o.key a (hkey ▸ hk) hget
  obtain ⟨rfl, hfound⟩ := require_ok h
  rw [← hkey, hget'] at hfound
  cases hfound
  refine ⟨rfl, hasked.trans (congrArg Content.asked halike.content_eq), fun key value hv => hannotations key value ?_⟩
  rw [halike.annotation?_eq, hv]

end Cluster

/-! ## Endpoints -/

theorem Termination.ofName?_name (t : Termination) : ofName? t.name = some t := by
  cases t <;> rfl

theorem ServiceType.ofName?_name (t : ServiceType) : ofName? t.name = some t := by
  cases t <;> rfl

namespace Endpoint

/-- The endpoint without what is learned of its address, as its objects record it. -/
def recorded (e : Endpoint) : Endpoint :=
  { e with entry := match e.entry with
      | .route termination _ _ => .route termination none none
      | .nodePort address _ => .nodePort address none
      | .loadBalancer _ => .loadBalancer none
      | entry => entry }

variable {e e' : Endpoint} {o : Object} {c c' c'' : Cluster} {healthy : Bool}

theorem recorded_recorded (e : Endpoint) : e.recorded.recorded = e.recorded := by
  unfold recorded
  cases e.entry <;> rfl

/-- Looking at an object teaches an address at most. -/
theorem observe_recorded (h : e.observe o = .ok (e', healthy)) : e'.recorded = e.recorded := by
  unfold observe at h
  split at h
  case h_1 hentry _ =>
    split at h <;> cases h
    · simp only [recorded, hentry]
    · rfl
  case h_4 hentry _ =>
    split at h
    · cases h
      rfl
    · split at h <;> cases h
      simp only [recorded, hentry]
  case h_5 hentry _ =>
    split at h <;> cases h
    · simp only [recorded, hentry]
    · rfl
  all_goals
    cases h
    rfl

theorem isHealthy_recorded (h : outcome isHealthy (e, c) = (.ok healthy, (e', c'))) : e'.recorded = e.recorded := by
  unfold isHealthy at h
  obtain ⟨_, _, hget, h⟩ := bind_eq_ok.1 h
  cases hget
  obtain ⟨o, ⟨e₁, c₁⟩, hrequire, h⟩ := bind_eq_ok.1 h
  obtain ⟨rfl, -⟩ := onSecond_eq_ok.1 hrequire
  obtain ⟨⟨e₂, healthy'⟩, s, hobserve, h⟩ := bind_eq_ok.1 h
  obtain ⟨hobserved, rfl⟩ := Prod.mk.inj hobserve
  obtain ⟨⟨⟩, s, hmodify, h⟩ := bind_eq_ok.1 h
  cases hmodify
  cases h
  exact observe_recorded hobserved

theorem ofRouteObject_eq {termination : Termination} {subdomain hostname host : Option String}
    (hentry : e.entry = .route termination subdomain hostname) (h : (e.route termination host).Settles o) :
    ofRouteObject e.name e.labels o = .ok e.recorded := by
  obtain ⟨spec, status, hcontent, htls⟩ := Content.asked_eq_route h.asked
  simp only [ofRouteObject, hcontent, htls, Option.bind_some, Termination.ofName?_name, recorded, hentry]
  rfl

theorem ofIngressObject_eq {className : Option String} {hostname : String}
    (hentry : e.entry = .ingress className hostname) (h : (e.ingress className hostname).Settles o) :
    ofIngressObject e.name e.labels o = .ok e.recorded := by
  obtain ⟨status, hcontent⟩ := Content.asked_eq_ingress h.asked
  simp only [ofIngressObject, hcontent, recorded, hentry]
  rfl

theorem labelsOf_eq (h : e.service.Settles o) : labelsOf o = e.labels := by
  obtain ⟨spec, status, hcontent, -, hselector⟩ := Content.asked_eq_service h.asked
  simp only [labelsOf, hcontent, Option.bind_some, hselector]
  rfl

theorem ofServiceObject_eq (htype : e.type = .service) (h : e.service.Settles o) :
    ofServiceObject e.name o = .ok e.recorded := by
  obtain ⟨spec, status, hcontent, hkind, -⟩ := Content.asked_eq_service h.asked
  have hlabels := labelsOf_eq h
  unfold ofServiceObject
  simp only [hcontent, Option.bind_some, hkind, Option.getD_some, ServiceType.ofName?_name, hlabels]
  cases hentry : e.entry with
  | route | ingress => simp [type, hentry] at htype
  | clusterIP | loadBalancer address =>
    simp only [serviceType, serviceType?, hentry, recorded]
    rfl
  | nodePort address port =>
    have haddress : o.metadata.annotation? nodeAddressKey = some address := by
      refine h.annotations _ _ ?_
      simp only [service, serviceAnnotations, hentry, Metadata.annotation?, Option.bind_some,
        SortedMap.get?_ofList_singleton]
    simp only [serviceType, serviceType?, hentry, recorded, haddress]
    rfl

/-- An endpoint is told from its own objects. -/
theorem ofObjects_ok (hheld : e.Held c) (hsettles : c.Settles c')
    (h : outcome (ofObjects e.type e.name) c' = (.ok e', c'')) : e' = e.recorded := by
  obtain ⟨hservice, hrouters⟩ := hheld
  unfold ofObjects at h
  obtain ⟨service, c₁, hrequire, h⟩ := bind_eq_ok.1 h
  obtain ⟨hstate, hfound⟩ := hsettles.require hservice hrequire (by decide) rfl
  rw [hstate] at h
  cases htype : e.type with
  | route =>
    cases hentry : e.entry with
    | route termination subdomain hostname =>
      rw [hentry] at hrouters
      obtain ⟨host, hroute⟩ := hrouters
      rw [htype] at h
      obtain ⟨route, c₂, hrequire, h⟩ := bind_eq_ok.1 h
      obtain ⟨-, hroute⟩ := hsettles.require hroute hrequire (by decide) rfl
      rw [labelsOf_eq hfound, ofRouteObject_eq hentry hroute] at h
      cases h
      rfl
    | _ => simp [type, hentry] at htype
  | ingress =>
    cases hentry : e.entry with
    | ingress className hostname =>
      rw [hentry] at hrouters
      rw [htype] at h
      obtain ⟨ingress, c₂, hrequire, h⟩ := bind_eq_ok.1 h
      obtain ⟨-, hingress⟩ := hsettles.require hrouters hrequire (by decide) rfl
      rw [labelsOf_eq hfound, ofIngressObject_eq hentry hingress] at h
      cases h
      rfl
    | _ => simp [type, hentry] at htype
  | service =>
    rw [htype] at h
    simp only [ofServiceObject_eq htype hfound] at h
    cases h
    rfl

/-- A discovered endpoint is the one that was created, up to what is learned of its address. -/
theorem discover_ok (hheld : e.Held c) (hsettles : c.Settles c')
    (h : outcome (discover e.type e.name) c' = (.ok e', c'')) : e'.recorded = e.recorded := by
  unfold discover at h
  obtain ⟨made, c₁, hmade, h⟩ := bind_eq_ok.1 h
  obtain rfl := ofObjects_ok hheld hsettles hmade
  obtain ⟨_, _, hget, h⟩ := bind_eq_ok.1 h
  cases hget
  obtain ⟨⟨⟩, c₂, hset, h⟩ := bind_eq_ok.1 h
  obtain ⟨healthy, c₃, hhealthy, h⟩ := bind_eq_ok.1 h
  cases h
  exact (isHealthy_recorded (Prod.ext (Prod.mk.inj hhealthy).1 rfl)).trans (recorded_recorded e)

end Endpoint

/-! ## Transports -/

namespace TlsMaterial

theorem get?_toSecretData (m : TlsMaterial) :
    m.toSecretData.get? certificateKey = some m.certificate ∧ m.toSecretData.get? keyKey = some m.key ∧
      m.toSecretData.get? authorityKey = some m.authority := by
  simp [toSecretData, SortedMap.ofList, SortedMap.get?_insert, certificateKey, keyKey, authorityKey]

theorem entry_ok {secret : Object} {data : SecretData} {type : Option String} {key : String} {bytes b : List UInt8}
    (hcontent : secret.content = .secret (some data) type) (hget : data.get? key = some bytes)
    (h : entry secret key = .ok b) : b = bytes := by
  simp only [entry, hcontent, Option.getD_some, hget] at h
  split at h
  · rename_i found hfound
    cases h
    exact (Option.some.inj (Option.filter_eq_some_iff.1 hfound).1).symm
  · cases h

/-- The material that is read from a Secret is the one that was written to it. -/
theorem ofSecret_ok {secret : Object} {type : Option String} {m m' : TlsMaterial}
    (hcontent : secret.content = .secret (some m.toSecretData) type) (h : ofSecret secret = .ok m') : m' = m := by
  obtain ⟨hcertificate, hkey, hauthority⟩ := m.get?_toSecretData
  unfold ofSecret at h
  cases hc : entry secret certificateKey with
  | error f =>
    rw [hc] at h
    cases h
  | ok certificate =>
    cases hk : entry secret keyKey with
    | error f =>
      rw [hc, hk] at h
      cases h
    | ok key =>
      cases ha : entry secret authorityKey with
      | error f =>
        rw [hc, hk, ha] at h
        cases h
      | ok authority =>
        rw [hc, hk, ha] at h
        cases h
        rw [entry_ok hcontent hcertificate hc, entry_ok hcontent hkey hk, entry_ok hcontent hauthority ha]

end TlsMaterial

namespace Transport

variable {c c' c'' : Cluster} {t t' : Transport} {e : Endpoint} {issued : TlsMaterial} {id : String} {port : Nat}
  {controlFile : Option String}

/-- The client's transport goes with the server's: neither is a tunnel, or a tunnel meets one with
its own material. -/
def Meets (issued : TlsMaterial) : Transport → Transport → Prop
  | stunnel t, stunnel t' => ∀ m, t'.material = some m → m = t.material.getD issued
  | direct _, direct _ => True
  | _, _ => False

theorem meets_self (t : Transport) (issued : TlsMaterial) : t.Meets issued t := by
  cases t with
  | stunnel t =>
    intro m hm
    rw [hm]
    rfl
  | direct port => exact True.intro

theorem meets_asServer (t : Transport) (issued : TlsMaterial) (id : String) (e : Endpoint)
    (controlFile : Option String) : t.Meets issued (t.asServer issued id e controlFile) := by
  cases t with
  | stunnel t =>
    intro m hm
    exact (Option.some.inj hm).symm
  | direct port => exact True.intro

/-- A discovered tunnel has the material of the server's side. -/
theorem discover_ok {options : StunnelOptions} (hheld : t.ServerHeld issued id e port c) (hsettles : c.Settles c')
    (h : outcome (discover t.type e.name.ns id options) c' = (.ok t', c'')) : t.Meets issued t' := by
  cases t with
  | direct port =>
    cases h
    exact True.intro
  | stunnel t =>
    have hsecret := hheld (Manifest.secret ⟨e.name.ns, Stunnel.secretName id⟩ (Stunnel.labels id .server)
      (t.material.getD issued).toSecretData) (List.mem_cons_of_mem _ List.mem_cons_self)
    obtain ⟨tunnel, c₁, htunnel, h⟩ := bind_eq_ok.1 h
    cases h
    obtain ⟨secret, c₂, hrequire, h⟩ := bind_eq_ok.1 htunnel
    obtain ⟨-, hfound⟩ := hsettles.require hsecret hrequire (by decide) rfl
    obtain ⟨material, c₃, hread, h⟩ := bind_eq_ok.1 h
    cases h
    intro m hm
    cases hm
    exact TlsMaterial.ofSecret_ok (Content.asked_eq_secret hfound.asked) (Prod.mk.inj hread).1

/-- A discovered tunnel has the given options and the material that is found. -/
theorem discover_stunnel (ns id : String) (options : StunnelOptions) {m : TlsMaterial}
    (h : (outcome (Stunnel.discover ns id options) c).1.toOption.bind (·.material) = some m) :
    outcome (discover .stunnel ns id options) c =
      (.ok (.stunnel { options, material := some m }), (outcome (Stunnel.discover ns id options) c).2) := by
  rcases ht : outcome (Stunnel.discover ns id options) c with ⟨f | tunnel, c'⟩
  · rw [ht] at h
    cases h
  · rw [ht] at h
    obtain ⟨secret, c₁, -, hmade⟩ := bind_eq_ok.1 ht
    obtain ⟨material, c₂, -, hpure⟩ := bind_eq_ok.1 hmade
    cases hpure
    cases h
    exact outcome_bind_ok ht _

end Transport

end VolumeMigration
