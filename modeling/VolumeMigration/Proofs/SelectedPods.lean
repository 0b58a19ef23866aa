import VolumeMigration.Proofs.CreatedObjects
import VolumeMigration.Proofs.Selectors
/-!
# Which pods a service selects

The labels of a pod are put together in layers, each of which goes before those
below it: the labels of the workload, those of the endpoint, the part in the
transfer, and on bare pods the manager. The service of an endpoint selects by the
endpoint's labels, as far as these come through the layers above them
(`Transfer.createServer_selected_iff`). The labels of a planned endpoint are on
the pods of both sides, so its service selects the client as well
(`Transfer.createClient_selected_of_plan`).
-/

namespace VolumeMigration

open Attempt

/-! ## Labels of pods -/

/-- The labels of the pod that an object is, or of the pods that it makes. -/
def Object.podLabels? (o : Object) : Option StringMap :=
  match o.content with
  | .pod .. => some o.labelMap
  | .deployment spec => (spec.bind (·.template.metadata)).map (·.labelMap)
  | _ => none

/-- What a service selects its pods by. -/
def Object.podSelector? (o : Object) : Option StringMap :=
  match o.content with
  | .service spec _ => spec.bind (·.selector)
  | _ => none

namespace Object

variable {o a : Object} {labels selector : StringMap}

theorem Alike.podLabels?_eq (h : o.Alike a) : o.podLabels? = a.podLabels? := by
  unfold podLabels?
  rw [h.content_eq, h.labelMap_eq]

theorem Alike.ns_eq (h : o.Alike a) : o.metadata.ns = a.metadata.ns := congrArg (·.metadata.ns) h

theorem Alike.podSelector?_eq (h : o.Alike a) : o.podSelector? = a.podSelector? := by
  unfold podSelector?
  rw [h.content_eq]

theorem kind_of_podLabels? (h : o.podLabels? = some labels) : o.kind = .pod ∨ o.kind = .deployment := by
  unfold podLabels? at h
  split at h
  · rename_i hcontent
    exact .inl (congrArg Content.kind hcontent)
  · rename_i hcontent
    exact .inr (congrArg Content.kind hcontent)
  · cases h

theorem labelMap_of_podLabels? (h : o.podLabels? = some labels) (hpod : o.kind = .pod) : o.labelMap = labels := by
  unfold podLabels? at h
  split at h
  · exact Option.some.inj h
  · rename_i hcontent
    rw [kind, hcontent] at hpod
    cases hpod
  · cases h

theorem kind_of_podSelector? (h : o.podSelector? = some selector) : o.kind = .service := by
  unfold podSelector? at h
  split at h
  · rename_i hcontent
    exact congrArg Content.kind hcontent
  · cases h

end Object

namespace Transfer

variable {t t' u u' : Transfer} {issued : TlsMaterial} {c c' d d' : Cluster} {r r' : Result Unit} {key : String}

theorem podLabels?_server (t : Transfer) (issued : TlsMaterial) : (t.asServer issued).server.podLabels? =
    some (if t.type = .blockrsync then Label.withManager t.serverLabels else t.serverLabels) := by
  unfold server type
  rw [show (t.asServer issued).method = t.method from rfl]
  cases t.method <;> rfl

theorem podLabels?_client (t : Transfer) (target : Address) :
    (t.asClient.client target).podLabels? = some (Label.withManager t.clientLabels) := by
  unfold client
  rw [show t.asClient.method = t.method from rfl]
  cases t.method <;> rfl

/-! ## Servers -/

/-- The labels of the endpoint leave it to the transfer to say which part its pods are. -/
def LeavesComponent (t : Transfer) : Prop := t.endpoint.labels.SaysOnly Label.component (t.component .server)

/-- If the server is a bare pod, then the labels of the endpoint leave its manager as it is. -/
def LeavesManager (t : Transfer) : Prop :=
  t.type = .blockrsync → t.endpoint.labels.SaysOnly Label.managedBy Label.manager

theorem managedBy_ne_component : Label.managedBy ≠ Label.component := by decide

theorem serverLabels_includes_labels (t : Transfer) :
    t.serverLabels.Includes t.endpoint.labels ↔ t.LeavesComponent := by
  rw [serverLabels, SortedMap.insert_includes]
  exact and_iff_left fun key value _ hvalue => SortedMap.merge_includes _ _ key value hvalue

theorem serverLabels_includes_healthLabels (t : Transfer) : t.serverLabels.Includes t.healthLabels :=
  includes_healthLabels.2 ⟨SortedMap.get?_insert_self _ _ _, fun key value hkey hvalue => by
    rw [serverLabels, SortedMap.get?_insert_of_ne _ _ hkey]
    exact SortedMap.merge_includes _ _ key value hvalue⟩

theorem withManager_serverLabels_includes_labels (t : Transfer) :
    (Label.withManager t.serverLabels).Includes t.endpoint.labels ↔
      t.endpoint.labels.SaysOnly Label.managedBy Label.manager ∧ t.LeavesComponent := by
  rw [Label.withManager, SortedMap.insert_includes]
  refine and_congr_right fun _ => ⟨fun h value hvalue => ?_, fun h key value _ hvalue => ?_⟩
  · have hcomponent := h _ _ managedBy_ne_component.symm hvalue
    rw [serverLabels, SortedMap.get?_insert_self] at hcomponent
    exact (Option.some.inj hcomponent).symm
  · exact (serverLabels_includes_labels t).2 h key value hvalue

theorem withManager_serverLabels_includes_healthLabels (t : Transfer) :
    (Label.withManager t.serverLabels).Includes t.healthLabels ↔
      t.endpoint.labels.SaysOnly Label.managedBy Label.manager := by
  have hmanager : t.healthLabels.get? Label.managedBy = t.endpoint.labels.get? Label.managedBy :=
    SortedMap.get?_insert_of_ne _ _ managedBy_ne_component
  rw [Label.withManager, SortedMap.insert_includes, SortedMap.SaysOnly, hmanager]
  exact and_iff_left fun key value _ hvalue => serverLabels_includes_healthLabels t key value hvalue

/-- The pods of a server have the labels of the endpoint if these leave the part and the manager, and those that
tell its health if they leave the manager. -/
theorem serverPods_include {labels : StringMap} (h : (t.asServer issued).server.podLabels? = some labels) :
    (labels.Includes t.endpoint.labels ↔ t.LeavesManager ∧ t.LeavesComponent) ∧
      (labels.Includes t.healthLabels ↔ t.LeavesManager) := by
  rw [podLabels?_server, Option.some_inj] at h
  subst h
  unfold LeavesManager
  split
  · rename_i htype
    simp only [htype, true_imp_iff]
    exact ⟨withManager_serverLabels_includes_labels t, withManager_serverLabels_includes_healthLabels t⟩
  · rename_i htype
    simp only [htype, false_imp_iff, true_and, iff_true]
    exact ⟨serverLabels_includes_labels t, serverLabels_includes_healthLabels t⟩

/-- The pods of a server that was created, however that ended, are among those that its health is told from if the
labels of the endpoint leave their manager, and among those that the endpoint's service selects if they leave their
part as well. A creation that succeeds makes both the pods and the service. -/
theorem createServer_selected_iff (hrun : outcome (createServer issued) (t, c) = (r, (t', c'))) :
    (∀ server labels, c.Produces c' server → server.podLabels? = some labels →
      (labels.Includes t.healthLabels ↔ t.LeavesManager) ∧
      ∀ service selector, c.Produces c' service → service.podSelector? = some selector →
        (labels.Includes selector ↔ t.LeavesManager ∧ t.LeavesComponent)) ∧
    (r = .ok () → (∃ server labels, c.Produces c' server ∧ server.podLabels? = some labels) ∧
      ∃ service selector, c.Produces c' service ∧ service.podSelector? = some selector) := by
  refine ⟨fun server labels hserver hlabels => ?_, ?_⟩
  · have halike := (createServer_produces hrun hserver).1 (Object.kind_of_podLabels? hlabels)
    rw [halike.podLabels?_eq] at hlabels
    obtain ⟨hselected, hhealth⟩ := serverPods_include hlabels
    refine ⟨hhealth, fun service selector hservice hselector => ?_⟩
    have halike' := (createServer_produces hrun hservice).2 (Object.kind_of_podSelector? hselector)
    obtain rfl : t.endpoint.labels = selector := by
      rw [halike'.podSelector?_eq] at hselector
      exact Option.some.inj hselector
    exact hselected
  · rintro rfl
    obtain ⟨⟨server, hserver, halike⟩, ⟨service, hservice, halike'⟩⟩ := createServer_produces_ok hrun
    exact ⟨⟨server, _, hserver, halike.podLabels?_eq.trans (podLabels?_server t issued)⟩,
      service, _, hservice, halike'.podSelector?_eq⟩

/-- The pods of the server are found to be healthy and are not selected, for they are no part of the web. -/
theorem createServer_selected_iff_toWeb : ∃ t' c', outcome (createServer default) (toWeb, {}) = (.ok (), (t', c')) ∧
    ∃ server service labels selector, ({} : Cluster).Produces c' server ∧ server.podLabels? = some labels ∧
      ({} : Cluster).Produces c' service ∧ service.podSelector? = some selector ∧
      labels.Includes toWeb.healthLabels ∧ ¬labels.Includes selector := by
  have hrun : outcome (createServer default) (toWeb, {}) = (.ok (), (outcome (createServer default) (toWeb, {})).2) :=
    outcome_of_toOption (by decide +kernel)
  obtain ⟨hpods, hmade⟩ := createServer_selected_iff hrun
  obtain ⟨⟨server, labels, hserver, hlabels⟩, service, selector, hservice, hselector⟩ := hmade rfl
  obtain ⟨hhealth, hselected⟩ := hpods server labels hserver hlabels
  have hmanager : toWeb.LeavesManager := nofun
  have hcomponent : ¬toWeb.LeavesComponent := fun h => absurd (h "web" (by decide +kernel)) (by decide +kernel)
  exact ⟨_, _, hrun, server, service, labels, selector, hserver, hlabels, hservice, hselector, hhealth.2 hmanager,
    fun h => hcomponent ((hselected service selector hservice hselector).1 h).2⟩

/-- Two disks that go to an endpoint whose labels say that it is managed by another program. -/
def helmDisks : Transfer :=
  { disks with endpoint := .ofClusterIP ⟨"depot", "inbox"⟩ (.ofList [(Label.managedBy, "helm")]) }

/-- The server's pod is neither selected by the service that is created with it, nor one that the health is told
from. -/
theorem createServer_helmDisks_unselected : helmDisks.Accepted ∧
    ∃ t' c', outcome (createServer default) (helmDisks, {}) = (.ok (), (t', c')) ∧
      ∃ server service labels selector, ({} : Cluster).Produces c' server ∧ server.podLabels? = some labels ∧
        ({} : Cluster).Produces c' service ∧ service.podSelector? = some selector ∧
        ¬labels.Includes selector ∧ ¬labels.Includes helmDisks.healthLabels := by
  have hrun : outcome (createServer default) (helmDisks, {}) =
      (.ok (), (outcome (createServer default) (helmDisks, {})).2) := outcome_of_toOption (by decide +kernel)
  obtain ⟨⟨server, hserver, halike⟩, ⟨service, hservice, halike'⟩⟩ := createServer_produces_ok hrun
  have hlabels := podLabels?_server helmDisks default
  obtain ⟨hselected, hhealth⟩ := serverPods_include hlabels
  have hmanager : ¬helmDisks.LeavesManager := fun h => absurd (h rfl "helm" (by decide +kernel)) (by decide +kernel)
  exact ⟨.of_checks (by decide +kernel) (by decide +kernel) rfl, _, _, hrun, server, service, _, _, hserver,
    halike.podLabels?_eq.trans hlabels, hservice, halike'.podSelector?_eq, fun h => hmanager (hselected.1 h).1,
    fun h => hmanager (hhealth.1 h)⟩

/-! ## Clients -/

/-- The labels that a planned endpoint has are on every pod that says which transfer it belongs to. -/
theorem withManager_includes {labels : StringMap} {id : String} (h : labels.get? Label.transfer = some id) :
    (Label.withManager labels).Includes (Label.withManager (.ofList [(Label.transfer, id)])) := by
  rw [Label.withManager, Label.withManager, SortedMap.includes_insert]
  refine ⟨SortedMap.get?_insert_self _ _ _, fun key value hkey hvalue => ?_⟩
  rw [SortedMap.get?_insert_of_ne _ _ hkey]
  have honly : (SortedMap.ofList [(Label.transfer, id)]).get? key = if key = Label.transfer then some id else none :=
    SortedMap.get?_insert _ _ _ _
  rw [honly] at hvalue
  split at hvalue
  · rename_i hkey
    rw [hkey, h, hvalue]
  · cases hvalue

theorem transfer_clientLabels (t : Transfer) : t.clientLabels.get? Label.transfer = some t.id := by
  rw [clientLabels, SortedMap.get?_insert_of_ne _ _ (by decide), SortedMap.get?_insert_self]

theorem component_ne (t : Transfer) : t.component .client ≠ t.component .server := by
  unfold component
  cases t.type <;> decide

/-- A client is told from a server by the part that it is. -/
theorem clientLabels_not_healthLabels (t : Transfer) : ¬(Label.withManager t.clientLabels).Includes t.healthLabels := by
  intro h
  have hcomponent := (includes_healthLabels.1 h).1
  rw [Label.withManager, SortedMap.get?_insert_of_ne _ _ managedBy_ne_component.symm, clientLabels,
    SortedMap.get?_insert_self] at hcomponent
  exact t.component_ne (Option.some.inj hcomponent)

theorem clientLabels_include_labels {config : MigrationConfig} {password : String} {s s' : Cluster × Cluster}
    (hplan : outcome (config.plan password) s = (.ok t, s')) :
    (Label.withManager t.clientLabels).Includes t.endpoint.labels := by
  rw [MigrationConfig.plan_labels hplan]
  exact withManager_includes t.transfer_clientLabels

/-- The service of a planned endpoint selects the client of the transfer, whatever the client connects to. The labels
that the health of the server is told from would not. So in the namespace of the server the client's pod is
listed among those that the service leads to. -/
theorem createClient_selected_of_plan {config : MigrationConfig} {password : String} {s s' : Cluster × Cluster}
    {endpoint : Endpoint} {transport : Transport} {service client : Object} {selector labels : StringMap}
    (hplan : outcome (config.plan password) s = (.ok t, s'))
    (hserver : outcome (createServer issued) (t, d) = (r, (t', d')))
    (hclient : outcome createClient ({ t with endpoint, transport }, c) = (r', (u', c')))
    (hservice : d.Produces d' service) (hselector : service.podSelector? = some selector)
    (hpod : c.Produces c' client) (hlabels : client.podLabels? = some labels) :
    labels.Includes selector ∧ ¬labels.Includes t.healthLabels ∧
      (t.clientNamespace = t.serverNamespace → client ∈ c'.labelled .pod t.serverNamespace selector) := by
  have halike := (createServer_produces hserver hservice).2 (Object.kind_of_podSelector? hselector)
  obtain ⟨target, -, halike'⟩ := createClient_produces hclient hpod (Object.kind_of_podLabels? hlabels)
  obtain rfl : t.endpoint.labels = selector := by
    rw [halike.podSelector?_eq] at hselector
    exact Option.some.inj hselector
  obtain rfl : Label.withManager t.clientLabels = labels := by
    rw [halike'.podLabels?_eq, podLabels?_client] at hlabels
    exact Option.some.inj hlabels
  have hselected := clientLabels_include_labels hplan
  have hkey := halike'.key_eq.trans (key_client_asClient _ target)
  have hkind : client.kind = .pod := (congrArg Key.kind hkey).trans (kind_client _ target)
  refine ⟨hselected, t.clientLabels_not_healthLabels,
    fun hplace => Cluster.mem_labelled.2 ⟨⟨client.lookupName, ?_⟩, ?_⟩⟩
  · have hns : client.metadata.ns = some t.clientNamespace := halike'.ns_eq.trans (ns_client _ target)
    rw [← hplace, ← hkind, ← Object.key_of_ns hns]
    exact hpod.2
  · rwa [Object.labelMap_of_podLabels? hlabels hkind]

/-- A tree of files that is copied within a namespace. -/
def withinShop : MigrationConfig where
  pairs := [{ source := ⟨"shop", "data"⟩, destination := some ⟨"", "data-copy"⟩ }]
  endpoint := .service .clusterIP none
  transport := .none
  transfer := .rsync none

/-- Both sides of the plan can be created in one cluster. -/
theorem withinShop_created : ∃ t after t' d' u' c', outcome (withinShop.plan "secret") (shop, shop) = (.ok t, after) ∧
    outcome (createServer default) (t, shop) = (.ok (), (t', d')) ∧
    outcome createClient (t, d') = (.ok (), (u', c')) ∧ t.clientNamespace = t.serverNamespace := by
  obtain ⟨t, after, hplan, hcreated⟩ := exists_ok_of_any (a := withinShop.plan "secret") (s := (shop, shop))
    (p := fun t =>
      let server := outcome (createServer default) (t, shop)
      server.1.toOption == some () && (outcome createClient (t, server.2.2)).1.toOption == some () &&
        t.clientNamespace == t.serverNamespace) (by decide +kernel)
  simp only [Bool.and_eq_true, beq_iff_eq] at hcreated
  obtain ⟨⟨hserver, hclient⟩, hplace⟩ := hcreated
  exact ⟨t, after, _, _, _, _, hplan, outcome_of_toOption hserver, outcome_of_toOption hclient, hplace⟩

theorem createClient_selected_of_plan_withinShop : ∃ t after t' d' u' c' service client selector labels,
    outcome (withinShop.plan "secret") (shop, shop) = (.ok t, after) ∧
    outcome (createServer default) (t, shop) = (.ok (), (t', d')) ∧
    outcome createClient (t, d') = (.ok (), (u', c')) ∧
    shop.Produces d' service ∧ service.podSelector? = some selector ∧
    d'.Produces c' client ∧ client.podLabels? = some labels ∧
    labels.Includes selector ∧ ¬labels.Includes t.healthLabels ∧
      client ∈ c'.labelled .pod t.serverNamespace selector := by
  obtain ⟨t, after, t', d', u', c', hplan, hserver, hclient, hplace⟩ := withinShop_created
  obtain ⟨-, service, hservice, halike⟩ := createServer_produces_ok hserver
  obtain ⟨target, client, -, hpod, halike'⟩ := createClient_produces_ok hclient
  have hselector : service.podSelector? = some t.endpoint.labels := halike.podSelector?_eq
  have hlabels := halike'.podLabels?_eq.trans (podLabels?_client t target)
  obtain ⟨hselected, hhealth, hlisted⟩ :=
    createClient_selected_of_plan hplan hserver hclient hservice hselector hpod hlabels
  exact ⟨t, after, t', d', u', c', service, client, _, _, hplan, hserver, hclient, hservice, hselector, hpod, hlabels,
    hselected, hhealth, hlisted hplace⟩

/-- There is a plan whose service selects the client. -/
theorem withinShop_selects_client : ∃ t after t' d' u' c' service client selector labels,
    outcome (withinShop.plan "secret") (shop, shop) = (.ok t, after) ∧
    outcome (createServer default) (t, shop) = (.ok (), (t', d')) ∧ shop.Produces d' service ∧
    service.podSelector? = some selector ∧ outcome createClient (t, d') = (.ok (), (u', c')) ∧
    d'.Produces c' client ∧ client.podLabels? = some labels ∧ labels.Includes selector := by
  obtain ⟨t, after, t', d', u', c', hplan, hserver, hclient, -⟩ := withinShop_created
  obtain ⟨-, service, hservice, halike⟩ := createServer_produces_ok hserver
  obtain ⟨target, client, -, hpod, halike'⟩ := createClient_produces_ok hclient
  exact ⟨t, after, t', d', u', c', service, client, _, _, hplan, hserver, hservice, halike.podSelector?_eq, hclient,
    hpod, halike'.podLabels?_eq.trans (podLabels?_client t target), clientLabels_include_labels hplan⟩

end Transfer

end VolumeMigration
