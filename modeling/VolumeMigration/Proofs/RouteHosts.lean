import Mathlib.Data.List.DropRight
import VolumeMigration.Proofs.EndpointParts
import VolumeMigration.Proofs.PairRules
/-!
# Hosts of routes

The router makes the host of a route from its name and namespace. Where both
together are too long for a label of a host, the route is created with a host
that begins with as much of them as a label takes
(`Endpoint.createsRoute_hostChosen`). What is cut off may be all that tells two
routes apart (`Endpoint.createsRoute_host_eq_iff`).
-/

namespace VolumeMigration

open Attempt

/-! ## Labels that were cut off -/

namespace Text

variable {full kept : List Char} {limit : Nat}

/-- Every character of a label is one byte. -/
theorem utf8Size_of_isLabelChar {c : Char} (h : isLabelChar c = true) : c.utf8Size = 1 := by
  rw [Char.utf8Size_eq_one_iff]
  simp only [isLabelChar, Bool.or_eq_true, beq_iff_eq] at h
  rcases h with (h | h) | rfl
  · exact UInt32.le_trans (of_decide_eq_true (Bool.and_eq_true_iff.1 h).2) (by decide)
  · exact UInt32.le_trans (of_decide_eq_true (Bool.and_eq_true_iff.1 h).2) (by decide)
  · decide

theorem utf8ByteSize_of_isLabel {s : String} (h : isLabel s.toList = true) : s.utf8ByteSize = s.toList.length := by
  obtain ⟨-, hchars, -, -⟩ := isLabel_iff.1 h
  rw [← utf8ByteSize_ofList_eq_length fun c hc => utf8Size_of_isLabelChar (hchars c hc), String.ofList_toList]

/-- What is kept of a label if only so many characters may be. -/
structure CutLabel (limit : Nat) (full kept : List Char) : Prop where
  legal : isLabel kept = true
  length : 1 ≤ kept.length ∧ kept.length ≤ limit
  begins : kept <+: full
  ends : ∃ c, kept.getLast? = some c ∧ (c.isLower || c.isDigit) = true
  /-- Nothing but dashes is missing of what there is room for. -/
  dashes : ∃ n, full.take limit = kept ++ List.replicate n '-'

/-- Whether a character is dropped where it would be the last one of a label. -/
def isTrailing (c : Char) : Bool := c == '-' || c == '.'

theorem isTrailing_iff {c : Char} (h : isLabelChar c = true) : isTrailing c = true ↔ c = '-' := by
  have hdot : c ≠ '.' := by
    rintro rfl
    cases h
  simp [isTrailing, hdot]

/-- A label begins with a character that is kept, so that something is left of it. -/
theorem rdropWhile_take_ne_nil (hfull : isLabel full = true) (hlimit : 0 < limit) :
    (full.take limit).rdropWhile isTrailing ≠ [] := by
  obtain ⟨hne, hchars, hhead, -⟩ := isLabel_iff.1 hfull
  obtain ⟨c, cs, rfl⟩ := List.exists_cons_of_ne_nil hne
  intro hnil
  have hmem : c ∈ (c :: cs).take limit := by
    rw [← Nat.succ_pred_eq_of_pos hlimit, List.take_succ_cons]
    exact List.mem_cons_self
  have hdash := (isTrailing_iff (hchars c List.mem_cons_self)).1 (List.rdropWhile_eq_nil_iff.1 hnil c hmem)
  exact hhead (congrArg some hdash)

theorem cutLabel_rdropWhile (hfull : isLabel full = true) (hlimit : 0 < limit) :
    CutLabel limit full ((full.take limit).rdropWhile isTrailing) := by
  obtain ⟨hne, hchars, hhead, -⟩ := isLabel_iff.1 hfull
  have hkept := rdropWhile_take_ne_nil hfull hlimit
  have htaken : (full.take limit).rdropWhile isTrailing <+: full.take limit := List.rdropWhile_prefix ..
  have hbegins : (full.take limit).rdropWhile isTrailing <+: full := htaken.trans (List.take_prefix ..)
  have hlegal : ∀ c ∈ (full.take limit).rdropWhile isTrailing, isLabelChar c = true := fun c hc =>
    hchars c (hbegins.subset hc)
  have hlast := List.getLast?_eq_some_getLast hkept
  have hends := mt (isTrailing_iff (hlegal _ (List.getLast_mem hkept))).2 (List.rdropWhile_last_not _ _ hkept)
  refine ⟨isLabel_iff.2 ⟨hkept, hlegal, ?_, ?_⟩, ⟨List.length_pos_iff.2 hkept, ?_⟩, hbegins, ⟨_, hlast, ?_⟩,
    ((full.take limit).rtakeWhile isTrailing).length, ?_⟩
  · obtain ⟨rest, hrest⟩ := hbegins
    rw [← hrest, List.head?_append, List.head?_eq_some_head hkept] at hhead
    rwa [List.head?_eq_some_head hkept]
  · rw [hlast]
    exact fun h => hends (Option.some.inj h)
  · exact htaken.length_le.trans (List.length_take_le ..)
  · simpa [isLabelChar, hends] using hlegal _ (List.getLast_mem hkept)
  · have hdropped : (full.take limit).rtakeWhile isTrailing =
        List.replicate ((full.take limit).rtakeWhile isTrailing).length '-' := by
      refine List.eq_replicate_iff.2 ⟨rfl, fun c hc => ?_⟩
      have hmem : c ∈ full := List.mem_of_mem_take ((List.rtakeWhile_suffix ..).subset hc)
      exact (isTrailing_iff (hchars c hmem)).1 (List.mem_rtakeWhile_imp hc)
    rw [← hdropped, List.rdropWhile_append_rtakeWhile]

/-- Of two labels that are long enough the same is kept only if they begin with the same. -/
theorem rdropWhile_take_inj {full' : List Char} (hfull : isLabel full = true) (hfull' : isLabel full' = true)
    (hlong : limit ≤ full.length) (hlong' : limit ≤ full'.length)
    (h : (full.take limit).rdropWhile isTrailing = (full'.take limit).rdropWhile isTrailing) :
    full.take limit = full'.take limit := by
  rcases Nat.eq_zero_or_pos limit with rfl | hlimit
  · rfl
  · obtain ⟨n, hn⟩ := (cutLabel_rdropWhile hfull hlimit).dashes
    obtain ⟨n', hn'⟩ := (cutLabel_rdropWhile hfull' hlimit).dashes
    -- Both are of the same length, so that equally many dashes are missing.
    have hlength := congrArg List.length hn
    have hlength' := congrArg List.length hn'
    rw [List.length_take_of_le hlong, List.length_append, List.length_replicate] at hlength
    rw [List.length_take_of_le hlong', List.length_append, List.length_replicate, ← h] at hlength'
    rw [hn, hn', ← h, show n = n' by omega]

end Text

/-! ## The domain of a host -/

/-- The configuration of the cluster's ingress names the domain for its apps. -/
def Cluster.AppsDomainIs (c : Cluster) (domain : String) : Prop :=
  ∃ o config spec, c.objects.get? ⟨.ingress, "", Endpoint.clusterIngressName⟩ = some o ∧
    Object.clusterIngressOfJson? o.toJson = some config ∧ config.content = .clusterIngress spec ∧
      spec.domain = domain ∧ domain ≠ ""

theorem Cluster.AppsDomainIs.unique {c : Cluster} {domain domain' : String} (h : c.AppsDomainIs domain)
    (h' : c.AppsDomainIs domain') : domain = domain' := by
  obtain ⟨o, config, spec, ho, hconfig, hcontent, rfl, -⟩ := h
  obtain ⟨o', config', spec', ho', hconfig', hcontent', rfl, -⟩ := h'
  obtain rfl := Option.some.inj (ho.symm.trans ho')
  obtain rfl := Option.some.inj (hconfig.symm.trans hconfig')
  cases hcontent.symm.trans hcontent'
  rfl

theorem Cluster.AppsDomainIs.grows {c c' : Cluster} {domain : String} (h : c.AppsDomainIs domain)
    (hgrows : c.Grows c') : c'.AppsDomainIs domain := by
  obtain ⟨o, config, spec, ho, hrest⟩ := h
  exact ⟨o, config, spec, hgrows _ o ho, hrest⟩

/-- What a route is to be. -/
def Object.routeSpec? (o : Object) : Option RouteSpec :=
  match o.content with
  | .route spec _ => some spec
  | _ => none

def Cluster.routeSpec? (c : Cluster) (n : ObjectName) : Option RouteSpec :=
  (c.objects.get? ⟨.route, n.ns, n.name⟩).bind (·.routeSpec?)

namespace Endpoint

variable {e : Endpoint} {c c' : Cluster} {termination : Termination} {subdomain hostname host : Option String}
  {spec : RouteSpec}

/-- The label that the router makes of the name and the namespace of a route. -/
def fullLabel (e : Endpoint) : String := s!"{e.name.name}-{e.name.ns}"

/-- The domain that the host of a route is in if it has to be chosen: its own, or that of the cluster's apps. -/
inductive DomainIs (e : Endpoint) (c : Cluster) (domain : String) : Prop where
  | own {termination : Termination} {hostname : Option String}
    (hentry : e.entry = .route termination (some domain) hostname)
  | apps {termination : Termination} {hostname : Option String} (hentry : e.entry = .route termination none hostname)
    (hdomain : c.AppsDomainIs domain)

/-- The endpoint's route is not there, and its creation creates it so, even if other parts of it fail. -/
def CreatesRoute (e : Endpoint) (c : Cluster) (spec : RouteSpec) : Prop :=
  c.objects.get? (e.keyOf .route) = none ∧ (outcome e.create c).2.routeSpec? e.name = some spec

theorem DomainIs.unique {domain domain' : String} (h : e.DomainIs c domain) (h' : e.DomainIs c domain') :
    domain = domain' := by
  cases h with
  | own hentry =>
    cases h' with
    | own hentry' =>
      cases hentry.symm.trans hentry'
      rfl
    | apps hentry' _ => cases hentry.symm.trans hentry'
  | apps hentry hdomain =>
    cases h' with
    | own hentry' => cases hentry.symm.trans hentry'
    | apps hentry' hdomain' => exact hdomain.unique hdomain'

theorem DomainIs.grows {domain : String} (h : e.DomainIs c domain) (hgrows : c.Grows c') : e.DomainIs c' domain := by
  cases h with
  | own hentry => exact .own hentry
  | apps hentry hdomain => exact .apps hentry (hdomain.grows hgrows)

theorem toList_fullLabel (e : Endpoint) : e.fullLabel.toList = e.name.name.toList ++ '-' :: e.name.ns.toList := by
  show (e.name.name ++ "-" ++ e.name.ns).toList = _
  simp [String.toList_append]

theorem isLabel_fullLabel (hname : Text.isLabel e.name.name.toList = true)
    (hns : Text.isLabel e.name.ns.toList = true) : Text.isLabel e.fullLabel.toList = true := by
  rw [toList_fullLabel]
  exact Text.isLabel_append hname hns

theorem hostLabel?_eq_some {label : String} (h : e.hostLabel? = some label) :
    maxHostLabel < e.fullLabel.utf8ByteSize ∧
      label.toList = (e.fullLabel.toList.take maxHostLabel).rdropWhile Text.isTrailing := by
  have hlong : maxHostLabel < e.fullLabel.utf8ByteSize := by
    rw [← Nat.not_le]
    intro hshort
    rw [hostLabel?_eq_none_iff.2 hshort] at h
    cases h
  change (if e.fullLabel.utf8ByteSize ≤ maxHostLabel then none
    else some (String.ofList ((e.fullLabel.toList.take maxHostLabel).rdropWhile Text.isTrailing))) = some label at h
  rw [if_neg (Nat.not_le.2 hlong)] at h
  exact ⟨hlong, Option.some.inj h ▸ String.toList_ofList⟩

theorem clusterIngress?_eq_ok {name : String} {config : Object}
    (h : outcome (Cluster.clusterIngress? name) c = (.ok (some config), c')) :
    ∃ o, c.objects.get? ⟨.ingress, "", name⟩ = some o ∧ Object.clusterIngressOfJson? o.toJson = some config := by
  obtain ⟨_, _, hget, h⟩ := bind_eq_ok.1 h
  cases hget
  obtain ⟨⟨⟩, c₁, hrefusal, h⟩ := bind_eq_ok.1 h
  obtain rfl := (Cluster.failWith_reads _).state_eq hrefusal
  obtain ⟨⟨⟩, c₂, hfault, h⟩ := bind_eq_ok.1 h
  obtain rfl := (Cluster.failWith_reads _).state_eq hfault
  cases hthere : c₂.objects.get? ⟨.ingress, "", name⟩ with
  | none =>
    rw [hthere] at h
    cases h
  | some o =>
    cases hjson : Object.clusterIngressOfJson? o.toJson with
    | none =>
      simp only [hthere, hjson] at h
      cases h
    | some found =>
      simp only [hthere, hjson] at h
      cases h
      exact ⟨o, rfl, hjson⟩

theorem appsDomain_eq_ok {domain : String} (h : outcome appsDomain c = (.ok domain, c')) : c.AppsDomainIs domain := by
  obtain ⟨found, c₁, hfound, h⟩ := bind_eq_ok.1 h
  cases found with
  | none => cases h
  | some config =>
    obtain ⟨o, hthere, hjson⟩ := clusterIngress?_eq_ok hfound
    cases hcontent : config.content with
    | clusterIngress spec =>
      simp only [hcontent] at h
      split at h
      · cases h
      · rename_i hempty
        cases h
        exact ⟨o, config, spec, hthere, hjson, hcontent, rfl, by simpa using hempty⟩
    | _ =>
      simp only [hcontent] at h
      cases h

/-- The host of a route is chosen in its domain if it has to be chosen. -/
theorem routeHost_eq_ok (hentry : e.entry = .route termination subdomain hostname)
    (h : outcome (e.routeHost subdomain) c = (.ok host, c')) :
    (e.hostLabel? = none ∧ host = none) ∨
      ∃ label domain, e.hostLabel? = some label ∧ e.DomainIs c domain ∧ host = some (label ++ "." ++ domain) := by
  unfold routeHost at h
  cases hlabel : e.hostLabel? with
  | none =>
    rw [hlabel] at h
    cases h
    exact .inl ⟨rfl, rfl⟩
  | some label =>
    rw [hlabel] at h
    cases subdomain with
    | some own =>
      cases h
      exact .inr ⟨label, own, rfl, .own hentry, rfl⟩
    | none =>
      obtain ⟨domain, c₁, hdomain, hpure⟩ := bind_eq_ok.1 h
      cases hpure
      exact .inr ⟨label, domain, rfl, .apps hentry (appsDomain_eq_ok hdomain), rfl⟩

theorem object_route {o : Object} (h : (WriteStep.route e termination subdomain).object c = .ok o) :
    ∃ host, outcome (e.routeHost subdomain) c = (.ok host, c) ∧ o = e.route termination host := by
  change (outcome (e.routeHost subdomain) c).1.map (e.route termination) = .ok o at h
  have hreads := routeHost_reads e subdomain c
  rcases hhost : outcome (e.routeHost subdomain) c with ⟨f | host, c₁⟩
  · rw [hhost] at h
    cases h
  · rw [hhost] at h hreads
    cases h
    exact ⟨host, by rw [show c₁ = c from hreads], rfl⟩

/-- The route that is created has the host that is found for it. -/
theorem CreatesRoute.routeHost_ok (h : e.CreatesRoute c spec)
    (hentry : e.entry = .route termination subdomain hostname) :
    outcome (e.routeHost subdomain) c = (.ok spec.host, c) := by
  obtain ⟨habsent, hspec⟩ := h
  have hs : WriteStep.route e termination subdomain ∈ e.writeSteps := by simp [writeSteps, hentry]
  obtain ⟨a, hthere, hspec⟩ := Option.bind_eq_some_iff.1 hspec
  obtain ⟨o, hobject, halike⟩ := (e.create_createsAll c).object_of_present hs habsent hthere
  obtain ⟨host, hhost, rfl⟩ := object_route hobject
  rw [Object.routeSpec?, halike.content_eq] at hspec
  cases hspec
  exact hhost

theorem createsRoute_of_ok (hentry : e.entry = .route termination subdomain hostname)
    (h : outcome e.create c = (.ok (), c')) : ∃ spec, e.CreatesRoute c spec := by
  have hs : WriteStep.route e termination subdomain ∈ e.writeSteps := by simp [writeSteps, hentry]
  obtain ⟨o, hobject, habsent, a, hthere, halike⟩ := (e.create_createsAll c).ok_iff.1 (by rw [h]) _ hs
  obtain ⟨host, -, rfl⟩ := object_route hobject
  have hspec : a.routeSpec? = (e.route termination host).routeSpec? := by
    rw [Object.routeSpec?, halike.content_eq]
    rfl
  exact ⟨_, habsent, Option.bind_eq_some_iff.2 ⟨a, hthere, hspec⟩⟩

/-! ## Legal hosts -/

/-- The host that a route is created with: the router makes it where it can, and else it begins with what is kept of
the name and the namespace. -/
structure HostChosen (e : Endpoint) (c : Cluster) (host : Option String) : Prop where
  short : e.fullLabel.length ≤ 62 → host = none
  long : 62 < e.fullLabel.length → ∃ label domain, host = some (label ++ "." ++ domain) ∧ e.DomainIs c domain ∧
    Text.CutLabel 62 e.fullLabel.toList label.toList

theorem utf8ByteSize_fullLabel (hname : Text.isLabel e.name.name.toList = true)
    (hns : Text.isLabel e.name.ns.toList = true) : e.fullLabel.utf8ByteSize = e.fullLabel.length := by
  rw [Text.utf8ByteSize_of_isLabel (isLabel_fullLabel hname hns), String.length_toList]

/-- What a legal name and a legal namespace make a legal host of, if the host has to be chosen. -/
theorem hostChosen_of_routeHost (hentry : e.entry = .route termination subdomain hostname)
    (hname : Text.isLabel e.name.name.toList = true) (hns : Text.isLabel e.name.ns.toList = true)
    (h : outcome (e.routeHost subdomain) c = (.ok host, c')) : e.HostChosen c host := by
  have hsize := utf8ByteSize_fullLabel hname hns
  rcases routeHost_eq_ok hentry h with ⟨hlabel, rfl⟩ | ⟨label, domain, hlabel, hdomain, rfl⟩
  · have hshort : e.fullLabel.utf8ByteSize ≤ maxHostLabel := hostLabel?_eq_none_iff.1 hlabel
    rw [hsize] at hshort
    exact ⟨fun _ => rfl, fun hlong => absurd hshort (Nat.not_le.2 hlong)⟩
  · obtain ⟨hlong, hkept⟩ := hostLabel?_eq_some hlabel
    rw [hsize] at hlong
    refine ⟨fun hshort => absurd hshort (Nat.not_le.2 hlong), fun _ => ⟨label, domain, rfl, hdomain, ?_⟩⟩
    rw [hkept]
    exact Text.cutLabel_rdropWhile (isLabel_fullLabel hname hns) (by decide)

/-- Whatever fails in the cluster, a route that is created has a legal host if one had to be chosen. Where nothing is in
its way the route is created, unless a host has to be chosen and there is no domain for it. -/
theorem createsRoute_hostChosen (hentry : e.entry = .route termination subdomain hostname)
    (hname : Text.isLabel e.name.name.toList = true) (hns : Text.isLabel e.name.ns.toList = true) (c : Cluster) :
    (∀ spec, e.CreatesRoute c spec → e.HostChosen c spec.host) ∧
      (c.FailureFree → (∀ key ∈ e.keys, c.objects.get? key = none) →
        ((∃ spec, e.CreatesRoute c spec) ↔ (62 < e.fullLabel.length → ∃ domain, e.DomainIs c domain))) := by
  have hhost : ∀ spec, e.CreatesRoute c spec → e.HostChosen c spec.host := fun spec h =>
    hostChosen_of_routeHost hentry hname hns (h.routeHost_ok hentry)
  refine ⟨hhost, fun hc habsent => ⟨?_, fun hdomain => ?_⟩⟩
  · rintro ⟨spec, h⟩ hlong
    obtain ⟨label, domain, -, hdomain, -⟩ := (hhost spec h).long hlong
    exact ⟨domain, hdomain⟩
  · obtain ⟨c', hrun⟩ := (create_ok_iff hc habsent).2 fun hneeds => by
      obtain ⟨⟨termination', hostname', hentry'⟩, hlong⟩ := hneeds
      obtain ⟨domain, hdomain⟩ := hdomain (utf8ByteSize_fullLabel hname hns ▸ hlong)
      cases hdomain with
      | own hown => cases hentry'.symm.trans hown
      | apps _ happs =>
        obtain ⟨o, config, spec, ho, hconfig, hcontent, rfl, hne⟩ := happs
        exact ⟨o, config, spec, ho, hconfig, hcontent, hne⟩
    exact createsRoute_of_ok hentry hrun

/-- The endpoint of a claim that moves to a depot, over a route without a domain of its own. -/
def toDepot (claim depot : String) : Endpoint :=
  .ofRoute ⟨depot, MigrationConfig.endpointName (Text.md5Hex claim)⟩ .empty .passthrough none

/-- The domain of a cluster with a configuration of its ingress. -/
theorem domainIs_toDepot (claim depot : String) : (toDepot claim depot).DomainIs Transfer.withApps "apps.example.com" :=
  .apps rfl ⟨_, _, _, rfl, rfl, rfl, rfl, by decide⟩

/-- A host that was chosen, as it is read back from the route. -/
theorem exists_createsRoute (host : String) (habsent : c.objects.get? (e.keyOf .route) = none)
    (hhost : ((outcome e.create c).2.routeSpec? e.name).bind (·.host) = some host) :
    ∃ spec, e.CreatesRoute c spec ∧ spec.host = some host := by
  obtain ⟨spec, hspec, hhost⟩ := Option.bind_eq_some_iff.1 hhost
  exact ⟨spec, ⟨habsent, hspec⟩, hhost⟩

theorem createsRoute_hostChosen_lateShift : Transfer.withApps.FailureFree ∧
    ∃ spec, (toDepot "data" "depot-for-a-late-shift-1").CreatesRoute Transfer.withApps spec ∧
      (toDepot "data" "depot-for-a-late-shift-1").HostChosen Transfer.withApps spec.host ∧
      (toDepot "data" "depot-for-a-late-shift-1").fullLabel.length = 63 := by
  obtain ⟨hhost, hcreates⟩ := createsRoute_hostChosen (e := toDepot "data" "depot-for-a-late-shift-1") rfl
    (by decide +kernel) (by decide +kernel) Transfer.withApps
  obtain ⟨spec, hspec⟩ := (hcreates ⟨rfl, rfl⟩ (by decide +kernel)).2 fun _ => ⟨_, domainIs_toDepot _ _⟩
  exact ⟨⟨rfl, rfl⟩, spec, hspec, hhost spec hspec, by decide +kernel⟩

end Endpoint

/-! ## Equal hosts -/

namespace Text

/-- A digest of 32 digits, as transfers have it. -/
def IsDigest (s : String) : Prop := s.toList.length = 32 ∧ ∀ c ∈ s.toList, isHexDigit c = true

instance (s : String) : Decidable (IsDigest s) := inferInstanceAs (Decidable (_ ∧ _))

theorem isDigest_md5Hex (s : String) : IsDigest (md5Hex s) := ⟨length_md5Hex s, fun _ => isHexDigit_of_mem_md5Hex⟩

theorem isLabelChar_of_isHexDigit {c : Char} (h : isHexDigit c = true) : isLabelChar c = true := by
  rcases Bool.or_eq_true_iff.1 h with h | h
  · simp [isLabelChar, h]
  · obtain ⟨hlow, hhigh⟩ := Bool.and_eq_true_iff.1 h
    have hz : c ≤ 'z' := Char.le_trans (of_decide_eq_true hhigh) (by decide)
    have hlower : c.isLower = true := Bool.and_eq_true_iff.2 ⟨hlow, decide_eq_true hz⟩
    simp [isLabelChar, hlower]

theorem isLabel_of_isDigest {s : String} (h : IsDigest s) : isLabel s.toList = true := by
  obtain ⟨hlength, hdigits⟩ := h
  have hdash : '-' ∉ s.toList := fun hmem => absurd (hdigits _ hmem) (by decide)
  refine isLabel_iff.2 ⟨?_, fun c hc => isLabelChar_of_isHexDigit (hdigits c hc), ?_, ?_⟩
  · rintro hnil
    rw [hnil] at hlength
    cases hlength
  · exact fun hhead => hdash (List.mem_of_head? hhead)
  · exact fun hlast => hdash (List.mem_of_getLast? hlast)

end Text

namespace MigrationConfig

variable {id : String}

theorem toList_endpointName (id : String) : (endpointName id).toList = "ferry".toList ++ '-' :: id.toList := by
  rw [endpointName, String.toList_append]
  rfl

theorem isLabel_endpointName (h : Text.IsDigest id) : Text.isLabel (endpointName id).toList = true := by
  rw [toList_endpointName]
  exact Text.isLabel_append (by decide) (Text.isLabel_of_isDigest h)

theorem length_endpointName (h : Text.IsDigest id) : (endpointName id).toList.length = 38 := by
  rw [toList_endpointName, List.length_append, List.length_cons, h.1]
  rfl

end MigrationConfig

namespace Endpoint

variable {e e' : Endpoint} {c c' : Cluster} {spec spec' : RouteSpec} {id id' host host' domain : String}

/-- Of a planned name all is kept, and as much of the namespace as there is room for behind it. -/
theorem take_fullLabel (hid : Text.IsDigest id) (hname : e.name.name = MigrationConfig.endpointName id) :
    e.fullLabel.toList.take 62 = (MigrationConfig.endpointName id).toList ++ '-' :: e.name.ns.toList.take 23 := by
  rw [toList_fullLabel, hname, List.take_append, MigrationConfig.length_endpointName hid,
    List.take_of_length_le (by simp [MigrationConfig.length_endpointName hid])]
  rfl

theorem take_fullLabel_eq_iff (hid : Text.IsDigest id) (hid' : Text.IsDigest id')
    (hname : e.name.name = MigrationConfig.endpointName id) (hname' : e'.name.name = MigrationConfig.endpointName id') :
    e.fullLabel.toList.take 62 = e'.fullLabel.toList.take 62 ↔
      id = id' ∧ e.name.ns.toList.take 23 = e'.name.ns.toList.take 23 := by
  rw [take_fullLabel hid hname, take_fullLabel hid' hname']
  constructor
  · intro h
    have hlength : (MigrationConfig.endpointName id).toList.length =
        (MigrationConfig.endpointName id').toList.length := by
      rw [MigrationConfig.length_endpointName hid, MigrationConfig.length_endpointName hid']
    obtain ⟨hnames, hrest⟩ := List.append_inj h hlength
    rw [MigrationConfig.toList_endpointName, MigrationConfig.toList_endpointName] at hnames
    have hids := List.append_cancel_left hnames
    exact ⟨String.toList_inj.1 (List.cons.inj hids).2, (List.cons.inj hrest).2⟩
  · rintro ⟨rfl, hns⟩
    rw [hns]

/-- A host that was chosen is the label that was kept, in the domain. -/
theorem CreatesRoute.host_eq (h : e.CreatesRoute c spec) (hhost : spec.host = some host)
    (hdomain : e.DomainIs c domain) : ∃ label, e.hostLabel? = some label ∧ host = label ++ "." ++ domain := by
  obtain ⟨termination, subdomain, hostname, hentry⟩ :
      ∃ termination subdomain hostname, e.entry = .route termination subdomain hostname := by
    cases hdomain with
    | own hentry => exact ⟨_, _, _, hentry⟩
    | apps hentry _ => exact ⟨_, _, _, hentry⟩
  rcases routeHost_eq_ok hentry (h.routeHost_ok hentry) with ⟨-, hnone⟩ | ⟨label, domain', hlabel, hdomain', hsome⟩
  · rw [hhost] at hnone
    cases hnone
  · rw [hhost, hdomain'.unique hdomain] at hsome
    exact ⟨label, hlabel, Option.some.inj hsome⟩

/-- The hosts of two planned routes that are created with a host of the same domain are equal exactly if the transfers
have the same id and the first 23 characters of the namespaces are the same. -/
theorem createsRoute_host_eq_iff (hid : Text.IsDigest id) (hid' : Text.IsDigest id')
    (hname : e.name.name = MigrationConfig.endpointName id) (hname' : e'.name.name = MigrationConfig.endpointName id')
    (hns : Text.isLabel e.name.ns.toList = true) (hns' : Text.isLabel e'.name.ns.toList = true)
    (hcreates : e.CreatesRoute c spec) (hcreates' : e'.CreatesRoute c' spec') (hhost : spec.host = some host)
    (hhost' : spec'.host = some host') (hdomain : e.DomainIs c domain) (hdomain' : e'.DomainIs c' domain) :
    host = host' ↔ id = id' ∧ e.name.ns.toList.take 23 = e'.name.ns.toList.take 23 := by
  obtain ⟨label, hlabel, rfl⟩ := hcreates.host_eq hhost hdomain
  obtain ⟨label', hlabel', rfl⟩ := hcreates'.host_eq hhost' hdomain'
  have hlegal := isLabel_fullLabel (hname ▸ MigrationConfig.isLabel_endpointName hid) hns
  have hlegal' := isLabel_fullLabel (hname' ▸ MigrationConfig.isLabel_endpointName hid') hns'
  obtain ⟨hlong, hkept⟩ := hostLabel?_eq_some hlabel
  obtain ⟨hlong', hkept'⟩ := hostLabel?_eq_some hlabel'
  rw [Text.utf8ByteSize_of_isLabel hlegal] at hlong
  rw [Text.utf8ByteSize_of_isLabel hlegal'] at hlong'
  rw [String.append_left_inj, String.append_left_inj, ← take_fullLabel_eq_iff hid hid' hname hname',
    ← String.toList_inj, hkept, hkept']
  exact ⟨Text.rdropWhile_take_inj hlegal hlegal' hlong.le hlong'.le, congrArg _⟩

theorem createsRoute_host_eq_iff_notes : ∃ spec spec',
    (toDepot "data" "depot-for-a-late-shift-1").CreatesRoute Transfer.withApps spec ∧
      (toDepot "notes" "depot-for-a-late-shift-1").CreatesRoute Transfer.withApps spec' ∧
      ∃ host host', spec.host = some host ∧ spec'.host = some host' ∧ host ≠ host' := by
  obtain ⟨spec, hcreates, hhost⟩ := exists_createsRoute (e := toDepot "data" "depot-for-a-late-shift-1")
    (c := Transfer.withApps) "ferry-8d777f385d3dfec8815d20f7496026dc-depot-for-a-late-shift.apps.example.com"
    (by decide +kernel) (by decide +kernel)
  obtain ⟨spec', hcreates', hhost'⟩ := exists_createsRoute (e := toDepot "notes" "depot-for-a-late-shift-1")
    (c := Transfer.withApps) "ferry-4358b5009c67d0e31d7fbf1663fcd3bf-depot-for-a-late-shift.apps.example.com"
    (by decide +kernel) (by decide +kernel)
  refine ⟨spec, spec', hcreates, hcreates', _, _, hhost, hhost', ?_⟩
  have hiff := createsRoute_host_eq_iff (Text.isDigest_md5Hex "data") (Text.isDigest_md5Hex "notes") rfl rfl
    (by decide +kernel) (by decide +kernel) hcreates hcreates' hhost hhost' (domainIs_toDepot _ _)
    (domainIs_toDepot _ _)
  rw [Ne, hiff]
  rintro ⟨hids, -⟩
  exact absurd hids (by decide +kernel)

/-- One claim that moves to two depots whose names differ in the last character: the second route is created with the
host of the first. -/
theorem createsRoute_lateShifts_same : ∃ spec spec' c',
    (toDepot "data" "depot-for-a-late-shift-1").CreatesRoute Transfer.withApps spec ∧
      outcome (toDepot "data" "depot-for-a-late-shift-1").create Transfer.withApps = (.ok (), c') ∧
      (toDepot "data" "depot-for-a-late-shift-2").CreatesRoute c' spec' ∧
      (toDepot "data" "depot-for-a-late-shift-1").DomainIs Transfer.withApps "apps.example.com" ∧
      (toDepot "data" "depot-for-a-late-shift-2").DomainIs c' "apps.example.com" ∧
      Text.isLabel "depot-for-a-late-shift-1".toList = true ∧ Text.isLabel "depot-for-a-late-shift-2".toList = true ∧
      (toDepot "data" "depot-for-a-late-shift-1").name ≠ (toDepot "data" "depot-for-a-late-shift-2").name ∧
      spec.host.isSome = true ∧ spec.host = spec'.host := by
  obtain ⟨spec, hcreates, hhost⟩ := exists_createsRoute (e := toDepot "data" "depot-for-a-late-shift-1")
    (c := Transfer.withApps) "ferry-8d777f385d3dfec8815d20f7496026dc-depot-for-a-late-shift.apps.example.com"
    (by decide +kernel) (by decide +kernel)
  obtain ⟨spec', hcreates', hhost'⟩ := exists_createsRoute (e := toDepot "data" "depot-for-a-late-shift-2")
    (c := (outcome (toDepot "data" "depot-for-a-late-shift-1").create Transfer.withApps).2)
    "ferry-8d777f385d3dfec8815d20f7496026dc-depot-for-a-late-shift.apps.example.com"
    (by decide +kernel) (by decide +kernel)
  have hgrows := ((toDepot "data" "depot-for-a-late-shift-1").create_createsAll Transfer.withApps).grows
  have hdomain' := (domainIs_toDepot "data" "depot-for-a-late-shift-2").grows hgrows
  have hrun : outcome (toDepot "data" "depot-for-a-late-shift-1").create Transfer.withApps =
      (.ok (), (outcome (toDepot "data" "depot-for-a-late-shift-1").create Transfer.withApps).2) :=
    outcome_of_toOption (by decide +kernel)
  exact ⟨spec, spec', _, hcreates, hrun, hcreates', domainIs_toDepot _ _, hdomain', by decide +kernel,
    by decide +kernel, by decide +kernel, by rw [hhost]; rfl, hhost.trans hhost'.symm⟩

end Endpoint

end VolumeMigration
