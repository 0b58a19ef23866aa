import VolumeMigration.Proofs.CreationOrder
/-!
# The objects that a creation made

However a creation ends, what it wrote are steps of its side, and their objects
are there (`Transfer.createServer_made`, `Transfer.createClient_made`). So the
only pods and deployments among them are what runs the side, and the only service
is the one of the endpoint.
-/

namespace VolumeMigration

open Attempt
open Cluster (Logs)

/-! ## Steps that were made -/

/-- The object was written on the way from the first state to the second one, and is there. -/
def Cluster.Produces (c c' : Cluster) (o : Object) : Prop := Logs c c' o.key ∧ c'.objects.get? o.key = some o

namespace Cluster.Made

variable {c c' : Cluster} {s : WriteStep} {steps : List WriteStep} {o : Object}

theorem logs_iff (h : c.Made steps c') {key : Key} : Logs c c' key ↔ ∃ s ∈ steps, s.key = key := by
  unfold Logs
  rw [h.log]
  constructor
  · rintro ⟨entries, hentries, e, he, hkey⟩
    rw [← List.append_cancel_left hentries] at he
    obtain ⟨s, hs, rfl⟩ := List.mem_map.1 he
    exact ⟨s, hs, hkey⟩
  · rintro ⟨s, hs, hkey⟩
    exact ⟨_, rfl, s.entry c, List.mem_map_of_mem hs, hkey⟩

/-- What was produced are the objects of the steps. -/
theorem of_produces (h : c.Made steps c') (ho : c.Produces c' o) :
    ∃ s ∈ steps, ∃ a, s.object c = .ok a ∧ o.Alike a := by
  obtain ⟨hlogs, hget⟩ := ho
  obtain ⟨s, hs, hkey⟩ := h.logs_iff.1 hlogs
  obtain ⟨a, hobject, b, hb, halike⟩ := h.holds s hs
  rw [WriteStep.key_object hobject, hkey, hget] at hb
  cases hb
  exact ⟨s, hs, a, hobject, halike⟩

theorem produces (h : c.Made steps c') {a : Object} (hs : .create a ∈ steps) : ∃ o, c.Produces c' o ∧ o.Alike a := by
  obtain ⟨b, hobject, o, ho, halike⟩ := h.holds _ hs
  cases hobject
  rw [← halike.key_eq] at ho
  exact ⟨o, ⟨h.logs_iff.2 ⟨_, hs, halike.key_eq.symm⟩, ho⟩, halike⟩

end Cluster.Made

namespace WriteStep

variable {c : Cluster} {steps parts : List WriteStep} {resource : String} {done : Result Unit × Cluster}

/-- However steps in order end, some of them were made, and all if they succeed. -/
theorem Ordered.made (h : Ordered steps c done) :
    ∃ made, (∀ s ∈ made, s ∈ steps) ∧ c.Made made done.2 ∧ (done.1 = .ok () → made = steps) := by
  cases h with
  | @stopped made rest s f c' hsteps hpassed hfails hmade =>
    exact ⟨made, fun d hd => hsteps ▸ List.mem_append_left _ hd, hmade, nofun⟩
  | passed hpassed hmade => exact ⟨steps, fun _ hs => hs, hmade, fun _ => rfl⟩

theorem OrderedThenAll.made (h : OrderedThenAll steps resource parts c done) :
    ∃ made, (∀ s ∈ made, s ∈ steps ++ parts) ∧ c.Made made done.2 ∧ (done.1 = .ok () → made = steps ++ parts) := by
  cases h with
  | stopped h =>
    obtain ⟨made, hsteps, hmade, -⟩ := h.made
    exact ⟨made, fun s hs => List.mem_append_left _ (hsteps s hs), hmade, nofun⟩
  | reported hpassed hmade =>
    refine ⟨_, fun s hs => ?_, hmade, fun hok => ?_⟩
    · rcases List.mem_append.1 hs with hs | hs
      · exact List.mem_append_left _ hs
      · exact List.mem_append_right _ (List.mem_filter.1 hs).1
    · have hnone := List.filterMap_eq_nil_iff.1 (Failure.checkPartial_eq_ok.1 hok)
      rw [List.filter_eq_self.2 fun s hs => by rw [hnone s hs]; rfl]

end WriteStep

/-- If the tunnel is turned down, then files of the side are all that was made. -/
theorem Parts.made_of_turned_down {p : Parts} {f : Failure} (hnodup : (p.files.map Object.key).Nodup)
    (htunnel : p.tunnel = .error f) (c : Cluster) :
    ∃ made, (∀ s ∈ made, ∃ o ∈ p.files, s = .create o) ∧ c.Made made (outcome p.create c).2 ∧
      (outcome p.create c).1 ≠ .ok () := by
  have happart : WriteStep.Apart (p.files.map WriteStep.create) := by
    refine WriteStep.apart_of_nodup ?_ (.inl fun s hs => ?_)
    · rwa [List.map_map]
    · obtain ⟨o, -, rfl⟩ := List.mem_map.1 hs
      rfl
  obtain ⟨made, hsteps, hmade, -⟩ := (WriteStep.ordered_inOrder happart c).made
  have hfiles : (p.files.map WriteStep.create).map WriteStep.attempt = p.files.map Endpoint.createObject := by
    rw [List.map_map]
    rfl
  rw [hfiles] at hmade
  refine ⟨made, fun s hs => ?_, ?_⟩
  · obtain ⟨o, ho, hs⟩ := List.mem_map.1 (hsteps s hs)
    exact ⟨o, ho, hs.symm⟩
  · unfold Parts.create Stunnel.writeFiles
    rw [htunnel, outcome_bind]
    rcases hrun : outcome (inOrder (p.files.map Endpoint.createObject)) c with ⟨g | ⟨⟩, c₁⟩
    · rw [hrun] at hmade
      exact ⟨hmade, nofun⟩
    · rw [hrun] at hmade
      exact ⟨hmade, nofun⟩

/-- The files of a tunnel are files, and there are none if they are turned down. -/
theorem Parts.Of.kind_tunnel {t : Transfer} {side : Side} {p : Parts} (h : p.Of t side) {tunnel : List Object}
    (htunnel : p.tunnel = .ok tunnel ∨ tunnel = []) :
    ∀ key ∈ tunnel.map Object.key, key.kind = .configMap ∨ key.kind = .secret := by
  rcases htunnel with hfiles | rfl
  · exact fun _ hkey => Transfer.kind_tunnelKeys ((h.tunnel tunnel hfiles).1 ▸ hkey)
  · simp

/-! ## The sides of a transfer -/

namespace Transfer

variable {t t' : Transfer} {issued : TlsMaterial} {c c' : Cluster} {r : Result Unit} {o : Object}

/-- The step writes a file. -/
def WritesFile (s : WriteStep) : Prop := s.key.kind = .configMap ∨ s.key.kind = .secret

theorem mem_sideSteps_of_own {own tunnel : List Object} {payload : Object} (ho : o ∈ own) :
    .create o ∈ sideSteps own tunnel payload :=
  List.mem_append_left _ (List.mem_append_left _ (List.mem_map_of_mem ho))

theorem writesFile_of_mem_sideSteps {own tunnel : List Object} {payload : Object} {s : WriteStep}
    (hown : ∀ key ∈ own.map Object.key, key.kind = .configMap ∨ key.kind = .secret)
    (htunnel : ∀ key ∈ tunnel.map Object.key, key.kind = .configMap ∨ key.kind = .secret)
    (h : s ∈ sideSteps own tunnel payload) : WritesFile s ∨ s = .create payload := by
  simp only [sideSteps, List.mem_append, List.mem_map, List.mem_singleton] at h
  rcases h with (⟨o, ho, rfl⟩ | ⟨o, ho, rfl⟩) | rfl
  · exact .inl (hown o.key (List.mem_map_of_mem ho))
  · exact .inl (htunnel o.key (List.mem_map_of_mem ho))
  · exact .inr rfl

/-- However the creation of the server's side ends, it made steps of the side and parts of the endpoint, and all of them
if it succeeds. Without the files of a tunnel if these are turned down. -/
theorem createServer_steps (hrun : outcome (createServer issued) (t, c) = (r, (t', c'))) :
    ∃ tunnel made, (t.transport.serverObjects issued t.id t.endpoint t.backendPort = .ok tunnel ∨ tunnel = []) ∧
      c.Made made c' ∧ (∀ s ∈ made, s ∈ t.serverSteps issued tunnel ++ t.endpoint.writeSteps) ∧
      (r = .ok () → made = t.serverSteps issued tunnel ++ t.endpoint.writeSteps) := by
  have hcluster := cluster_createServer t issued c
  rw [hrun] at hcluster
  change (r, c') = _ at hcluster
  cases hfiles : t.transport.serverObjects issued t.id t.endpoint t.backendPort with
  | error f =>
    obtain ⟨made, hsteps, hmade, hfails⟩ :=
      Parts.made_of_turned_down (p := t.serverParts issued) t.nodup_serverFiles hfiles c
    rw [← hcluster] at hmade hfails
    refine ⟨[], made, .inr rfl, hmade, fun s hs => ?_, fun hok => absurd hok hfails⟩
    obtain ⟨o, ho, rfl⟩ := hsteps s hs
    exact List.mem_append_left _ (mem_sideSteps_of_own ho)
  | ok files =>
    have hcreate : (r, c') = outcome (do
        inOrder ((t.serverSteps issued files).map WriteStep.attempt)
        t.endpoint.create : Attempt Cluster Unit) c := by
      rw [hcluster, Parts.outcome_create hfiles rfl, inOrder_singleton]
      rfl
    have hordered :=
      WriteStep.orderedThenAll (apart_serverSteps hfiles) s!"{t.endpoint.type} endpoint {t.endpoint.name}" c
    rw [← Endpoint.create_eq, ← hcreate] at hordered
    obtain ⟨made, hsteps, hmade, hall⟩ := hordered.made
    exact ⟨files, made, .inl rfl, hmade, hsteps, hall⟩

/-- However the creation of the server's side ends, it made files, what runs the server, and parts of the endpoint. -/
theorem createServer_made (hrun : outcome (createServer issued) (t, c) = (r, (t', c'))) :
    ∃ made, c.Made made c' ∧
      (∀ s ∈ made, WritesFile s ∨ s = .create (t.asServer issued).server ∨ s ∈ t.endpoint.writeSteps) ∧
      (r = .ok () → .create (t.asServer issued).server ∈ made ∧ .create t.endpoint.service ∈ made) := by
  obtain ⟨tunnel, made, htunnel, hmade, hsteps, hall⟩ := createServer_steps hrun
  refine ⟨made, hmade, fun s hs => ?_, fun hok => ?_⟩
  · rcases List.mem_append.1 (hsteps s hs) with hs | hs
    · have hkinds := (t.serverParts_of issued).kind_tunnel htunnel
      rcases writesFile_of_mem_sideSteps (fun _ => kind_serverFiles) hkinds hs with hfile | hserver
      · exact .inl hfile
      · exact .inr (.inl hserver)
    · exact .inr (.inr hs)
  · rw [hall hok]
    exact ⟨List.mem_append_left _ (List.mem_append_right _ List.mem_cons_self),
      List.mem_append_right _ List.mem_cons_self⟩

/-- However the creation of the client's side ends, it made steps of the side, and all of them if it succeeds. Nothing
is made if it is not known where the client connects to. -/
theorem createClient_steps (hrun : outcome createClient (t, c) = (r, (t', c'))) :
    ∃ made, c.Made made c' ∧ (made = [] ∧ r ≠ .ok () ∨ ∃ target tunnel, t.target = .ok target ∧
      (t.transport.clientObjects t.clientNamespace t.id t.endpoint = .ok tunnel ∨ tunnel = []) ∧
      (∀ s ∈ made, s ∈ t.clientSteps target tunnel) ∧ (r = .ok () → made = t.clientSteps target tunnel)) := by
  have hcluster := cluster_createClient t c
  rw [hrun] at hcluster
  change (r, c') = _ at hcluster
  cases htarget : t.target with
  | error f =>
    rw [htarget] at hcluster
    cases hcluster
    exact ⟨[], c.made_nothing, .inl ⟨rfl, nofun⟩⟩
  | ok target =>
    rw [htarget] at hcluster
    change (r, c') = outcome (t.clientParts target).create c at hcluster
    cases hfiles : t.transport.clientObjects t.clientNamespace t.id t.endpoint with
    | error f =>
      obtain ⟨made, hsteps, hmade, hfails⟩ :=
        Parts.made_of_turned_down (p := t.clientParts target) (t.clientFiles_secret target).1 hfiles c
      rw [← hcluster] at hmade hfails
      refine ⟨made, hmade, .inr ⟨target, [], rfl, .inr rfl, fun s hs => ?_, fun hok => absurd hok hfails⟩⟩
      obtain ⟨o, ho, rfl⟩ := hsteps s hs
      exact mem_sideSteps_of_own ho
    | ok files =>
      have hcreate : (r, c') = outcome (inOrder ((t.clientSteps target files).map WriteStep.attempt)) c := by
        rw [hcluster, Parts.outcome_create hfiles rfl, inOrder, bind_pure_unit]
        rfl
      have happart : WriteStep.Apart (t.clientSteps target files) := apart_clientSteps hfiles
      have hordered := WriteStep.ordered_inOrder happart c
      rw [← hcreate] at hordered
      obtain ⟨made, hsteps, hmade, hall⟩ := hordered.made
      exact ⟨made, hmade, .inr ⟨target, files, rfl, .inl rfl, hsteps, hall⟩⟩

/-- However the creation of the client's side ends, it made files and what runs the client. -/
theorem createClient_made (hrun : outcome createClient (t, c) = (r, (t', c'))) :
    ∃ made, c.Made made c' ∧
      (∀ s ∈ made, WritesFile s ∨ ∃ target, t.target = .ok target ∧ s = .create (t.asClient.client target)) ∧
      (r = .ok () → ∃ target, t.target = .ok target ∧ .create (t.asClient.client target) ∈ made) := by
  obtain ⟨made, hmade, ⟨rfl, hfails⟩ | ⟨target, tunnel, htarget, htunnel, hsteps, hall⟩⟩ := createClient_steps hrun
  · exact ⟨[], hmade, by simp, fun hok => absurd hok hfails⟩
  · refine ⟨made, hmade, fun s hs => ?_, fun hok => ⟨target, htarget, ?_⟩⟩
    · have hkinds := (t.clientParts_of target).kind_tunnel htunnel
      rcases writesFile_of_mem_sideSteps (fun key hkey => .inr ((t.clientFiles_secret target).2 key hkey)) hkinds
        (hsteps s hs)
        with hfile | hclient
      · exact .inl hfile
      · exact .inr ⟨target, htarget, hclient⟩
    · rw [hall hok]
      exact List.mem_append_right _ List.mem_cons_self

/-! ## What was produced -/

/-- An object is of the kind that a step writes. -/
theorem kind_of_alike {s : WriteStep} {a : Object} (hobject : s.object c = .ok a) (halike : o.Alike a) :
    o.kind = s.key.kind := by
  rw [← WriteStep.key_object hobject]
  exact congrArg Content.kind halike.content_eq

/-- The only pods and deployments that the creation of a server's side leaves are what runs the server, and the only
service is the endpoint's. -/
theorem createServer_produces (hrun : outcome (createServer issued) (t, c) = (r, (t', c'))) (ho : c.Produces c' o) :
    (o.kind = .pod ∨ o.kind = .deployment → o.Alike (t.asServer issued).server) ∧
      (o.kind = .service → o.Alike t.endpoint.service) := by
  obtain ⟨made, hmade, hsteps, -⟩ := createServer_made hrun
  obtain ⟨s, hs, a, hobject, halike⟩ := hmade.of_produces ho
  have hkind := kind_of_alike hobject halike
  rw [hkind]
  rcases hsteps s hs with hfile | rfl | hpart
  · rcases hfile with h | h <;> simp [h]
  · cases hobject
    refine ⟨fun _ => halike, fun hservice => ?_⟩
    have hserver := t.kind_server
    rw [← key_server_asServer t issued] at hserver
    change (t.asServer issued).server.key.kind = .service at hservice
    rw [hservice] at hserver
    exact absurd hserver (by decide)
  · have hkinds := List.mem_map_of_mem hpart (f := WriteStep.key)
    rw [Endpoint.keys_writeSteps] at hkinds
    have hin := Endpoint.kind_keys hkinds
    refine ⟨fun hserver => ?_, fun hservice => ?_⟩
    · rcases hserver with h | h <;> rw [h] at hin <;> exact absurd hin (by decide)
    · unfold Endpoint.writeSteps at hpart
      rcases List.mem_cons.1 hpart with rfl | hrouter
      · cases hobject
        exact halike
      · cases hentry : t.endpoint.entry <;> simp only [hentry, List.mem_singleton, List.not_mem_nil] at hrouter
        all_goals
          rw [hrouter] at hservice
          cases hservice

theorem createServer_produces_ok (hrun : outcome (createServer issued) (t, c) = (.ok (), (t', c'))) :
    (∃ o, c.Produces c' o ∧ o.Alike (t.asServer issued).server) ∧
      ∃ o, c.Produces c' o ∧ o.Alike t.endpoint.service := by
  obtain ⟨made, hmade, -, hall⟩ := createServer_made hrun
  obtain ⟨hserver, hservice⟩ := hall rfl
  exact ⟨hmade.produces hserver, hmade.produces hservice⟩

/-- The only pod or deployment that the creation of a client's side leaves is what runs the client. -/
theorem createClient_produces (hrun : outcome createClient (t, c) = (r, (t', c'))) (ho : c.Produces c' o)
    (hpod : o.kind = .pod ∨ o.kind = .deployment) :
    ∃ target, t.target = .ok target ∧ o.Alike (t.asClient.client target) := by
  obtain ⟨made, hmade, hsteps, -⟩ := createClient_made hrun
  obtain ⟨s, hs, a, hobject, halike⟩ := hmade.of_produces ho
  rw [kind_of_alike hobject halike] at hpod
  rcases hsteps s hs with hfile | ⟨target, htarget, rfl⟩
  · rcases hfile with h | h <;> simp [h] at hpod
  · cases hobject
    exact ⟨target, htarget, halike⟩

theorem createClient_produces_ok (hrun : outcome createClient (t, c) = (.ok (), (t', c'))) :
    ∃ target o, t.target = .ok target ∧ c.Produces c' o ∧ o.Alike (t.asClient.client target) := by
  obtain ⟨made, hmade, -, hall⟩ := createClient_made hrun
  obtain ⟨target, htarget, hclient⟩ := hall rfl
  obtain ⟨o, ho, halike⟩ := hmade.produces hclient
  exact ⟨target, o, htarget, ho, halike⟩

end Transfer

end VolumeMigration
