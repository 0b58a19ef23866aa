import VolumeMigration.Proofs.TunnelMaterial
/-!
# Creating a side of a tunnel again

A side of a tunnel may be created any number of times, with other endpoints,
ports and control files. Each time its ConfigMap and its Secret are created or
updated, whatever was there (`Stunnel.Call.succeeds`), and what they come to
depends on nothing that was there. So after calls in a row all that remains is
what the last one alone would have left (`Stunnel.upserts_last`).
-/

namespace VolumeMigration

open Attempt

/-! ## Calls -/

/-- A call that creates a side of a tunnel. -/
inductive Stunnel.Call where
  | server (e : Endpoint) (backendPort : Nat) (controlFile : Option String)
  | client (e : Endpoint) (controlFile : Option String)

namespace Transport

/-- The side-cars of a side. -/
def containers (t : Transport) : Side → List Container
  | .server => t.serverContainers
  | .client => t.clientContainers

/-- The volumes of a side. -/
def volumes (t : Transport) : Side → List Volume
  | .server => t.serverVolumes
  | .client => t.clientVolumes

end Transport

namespace Stunnel

namespace Call

variable {issued m : TlsMaterial} {ns id : String} {tunnel : Stunnel} {o : StunnelOptions} {c : Cluster} {call : Call}

def side : Call → Side
  | server .. => .server
  | client .. => .client

def attempt (issued : TlsMaterial) (ns id : String) : Call → Attempt (Transport × Cluster) Unit
  | server e backendPort controlFile => Transport.createServer issued id e backendPort controlFile
  | client e controlFile => Transport.createClient ns id e controlFile

/-- A server's side is created in the namespace of its endpoint. A client's needs an endpoint whose address is
known. -/
def Fits (ns : String) : Call → Prop
  | server e .. => e.name.ns = ns
  | client e _ => ∃ address, Address.ofEndpoint e = .ok address

/-- The configuration that a call writes. -/
def config (o : StunnelOptions) : Call → Result String
  | server _ backendPort _ => .ok (serverConfig o backendPort)
  | client e _ => clientConfig o e

/-- The side-car of a call. -/
def sidecar (o : StunnelOptions) : Call → Container
  | server _ _ controlFile => container o Endpoint.exposedPort controlFile
  | client _ controlFile => container o clientPort controlFile

/-- The tunnel after a call. -/
def after (issued : TlsMaterial) (id : String) (tunnel : Stunnel) : Call → Stunnel
  | server _ _ controlFile => tunnel.asServer issued id controlFile
  | client _ controlFile => tunnel.asClient id controlFile

theorem config_ok (hvalid : o.validate = .ok ()) (hfits : call.Fits ns) : ∃ config, call.config o = .ok config := by
  cases call with
  | server e backendPort controlFile => exact ⟨_, rfl⟩
  | client e controlFile =>
    obtain ⟨address, haddress⟩ := hfits
    obtain ⟨proxy, hproxy⟩ := StunnelOptions.proxyHost_ok hvalid
    exact ⟨_, clientConfig_ok haddress hproxy⟩

theorem containers_after : (Transport.stunnel (call.after issued id tunnel)).containers call.side =
    [call.sidecar tunnel.options] := by
  cases call <;> rfl

theorem volumes_after : (Transport.stunnel (call.after issued id tunnel)).volumes call.side = volumes id := by
  cases call <;> rfl

/-- What a call leaves in the tunnel, a later one for the same side replaces. -/
theorem after_after {last : Call} (hside : call.side = last.side) (hm : tunnel.material = some m) :
    last.after issued id (call.after issued id tunnel) = last.after issued id tunnel := by
  cases call <;> cases last <;> simp_all [side, after, asServer, asClient]

/-- A call comes to the same in the cluster as writing its two objects. -/
theorem cluster_attempt {config : String} (hvalid : tunnel.options.validate = .ok ()) (hm : tunnel.material = some m)
    (hfits : call.Fits ns) (hconfig : call.config tunnel.options = .ok config) (c : Cluster) :
    cluster (outcome (call.attempt issued ns id) (.stunnel tunnel, c)) =
      outcome (writeFiles (.ok (objects ns id call.side config m))) c := by
  cases call with
  | server e backendPort controlFile =>
    cases hfits
    cases hconfig
    refine (Transport.cluster_createServer _ c).trans ?_
    simp only [Transport.serverObjects, hvalid, hm]
    rfl
  | client e controlFile =>
    refine (Transport.cluster_createClient _ c).trans ?_
    change clientConfig tunnel.options e = .ok config at hconfig
    simp only [Transport.clientObjects, hvalid, hm, hconfig]
    rfl

theorem transport_attempt {c' : Cluster} {t' : Transport}
    (h : outcome (call.attempt issued ns id) (.stunnel tunnel, c) = (.ok (), (t', c'))) :
    t' = .stunnel (call.after issued id tunnel) := by
  cases call with
  | server e backendPort controlFile => exact (Transport.createServer_ok h).1
  | client e controlFile => exact (Transport.createClient_ok h).1

end Call

/-! ## One call -/

variable {issued m : TlsMaterial} {ns id : String} {tunnel : Stunnel} {o : StunnelOptions} {c c' : Cluster}
    {call : Call}

/-- A tunnel with its options and its material, and a cluster that fails no operation. -/
structure Ready (o : StunnelOptions) (m : TlsMaterial) (tunnel : Stunnel) (c : Cluster) : Prop where
  options : tunnel.options = o
  material : tunnel.material = some m
  free : c.FailureFree
  kept : c.WellKept

theorem Ready.after (h : Ready o m tunnel c) (hfree : c'.FailureFree) (hkept : c'.WellKept) (issued : TlsMaterial)
    (id : String) (call : Call) : Ready o m (call.after issued id tunnel) c' := by
  refine ⟨?_, ?_, hfree, hkept⟩
  · cases call <;> exact h.options
  · cases call with
    | server e backendPort controlFile =>
      change some (tunnel.material.getD issued) = some m
      rw [h.material, Option.getD_some]
    | client e controlFile => exact h.material

/-- Writing the two objects of a side is a step for each of them, and no step fails. -/
theorem made_writeObjects (hfree : c.FailureFree) (hkept : c.WellKept) (ns id : String) (side : Side) (config : String)
    (m : TlsMaterial) : ∃ c', outcome (writeFiles (.ok (objects ns id side config m))) c = (.ok (), c') ∧
      c'.FailureFree ∧ c'.WellKept ∧ c.Made ((objects ns id side config m).map .upsert) c' := by
  obtain ⟨c', hwritten, hfree', hkept'⟩ := writeObjects_succeeds hfree hkept ns id side config m
  have hsteps : writeFiles (.ok (objects ns id side config m)) =
      inOrder (((objects ns id side config m).map WriteStep.upsert).map WriteStep.attempt) := rfl
  have hapart : WriteStep.Apart ((objects ns id side config m).map .upsert) := by
    refine WriteStep.apart_of_nodup ?_ (.inl (by simp [WriteStep.looksAt, WriteStep.key]))
    rw [List.map_map]
    exact nodup_objects ns id side config m
  have hordered := WriteStep.ordered_inOrder hapart c
  rw [← hsteps, hwritten] at hordered
  cases hordered with
  | passed _ hmade => exact ⟨c', hwritten, hfree', hkept', hmade⟩

/-- A call succeeds in any cluster that fails no operation. It writes its two objects and nothing else. -/
theorem Call.succeeds (hvalid : o.validate = .ok ()) (hready : Ready o m tunnel c) (hfits : call.Fits ns)
    (issued : TlsMaterial) (id : String) : ∃ config c', call.config o = .ok config ∧
      outcome (call.attempt issued ns id) (.stunnel tunnel, c) =
        (.ok (), (.stunnel (call.after issued id tunnel), c')) ∧
      Ready o m (call.after issued id tunnel) c' ∧ c.Made ((objects ns id call.side config m).map .upsert) c' := by
  obtain ⟨config, hconfig⟩ := Call.config_ok hvalid hfits
  obtain ⟨c', hwritten, hfree, hkept, hmade⟩ := made_writeObjects hready.free hready.kept ns id call.side config m
  have hcluster : cluster (outcome (call.attempt issued ns id) (.stunnel tunnel, c)) = (.ok (), c') := by
    rw [Call.cluster_attempt (hready.options ▸ hvalid) hready.material hfits (hready.options ▸ hconfig), hwritten]
  have hrun := Transport.outcome_of_cluster hcluster fun t' h => Call.transport_attempt h
  exact ⟨config, c', hconfig, hrun, hready.after hfree hkept issued id call, hmade⟩

/-! ## Calls in a row -/

/-- What a cluster logs when it creates or updates what has a key. -/
def upsertEntry (c : Cluster) (key : Key) : LogEntry :=
  ⟨if c.objects.contains key then .update else .create, key.kind, ⟨key.ns, key.name⟩⟩

/-- Calls in a row that all succeed. Each logs one line for each of the two objects: an update if the object is there,
its creation if it is not. -/
inductive Upserts (issued : TlsMaterial) (ns id : String) :
    List Call → Transport × Cluster → Transport × Cluster → Prop where
  | nil (s : Transport × Cluster) : Upserts issued ns id [] s s
  | cons {call : Call} {calls : List Call} {t t' : Transport} {c c' : Cluster} {s : Transport × Cluster}
    (hrun : outcome (call.attempt issued ns id) (t, c) = (.ok (), (t', c')))
    (hlog : c'.log = c.log ++ (keys ns id).map (upsertEntry c)) (hrest : Upserts issued ns id calls (t', c') s) :
    Upserts issued ns id (call :: calls) (t, c) s

theorem Upserts.append {calls later : List Call} {s s' s'' : Transport × Cluster} (h : Upserts issued ns id calls s s')
    (hlater : Upserts issued ns id later s' s'') : Upserts issued ns id (calls ++ later) s s'' := by
  induction h with
  | nil s => exact hlater
  | cons hrun hlog _ ih => exact .cons hrun hlog (ih hlater)

theorem log_of_made {side : Side} {config : String} (h : c.Made ((objects ns id side config m).map .upsert) c') :
    c'.log = c.log ++ (keys ns id).map (upsertEntry c) := h.log

theorem kept_of_made {side : Side} {config : String} (h : c.Made ((objects ns id side config m).map .upsert) c') :
    ∀ key ∉ keys ns id, c'.objects.get? key = c.objects.get? key := h.kept

theorem holds_of_made {side : Side} {config : String} (h : c.Made ((objects ns id side config m).map .upsert) c') :
    ∀ o ∈ objects ns id side config m, c'.Holds o := by
  intro o ho
  obtain ⟨o', hobject, hholds⟩ := h.holds _ (List.mem_map_of_mem ho)
  cases hobject
  exact hholds

/-- After any calls the next one finds all that it needs, and only what has the two keys has changed. -/
theorem upserts_ready (hvalid : o.validate = .ok ()) {calls : List Call} (hfits : ∀ call ∈ calls, call.Fits ns)
    (hready : Ready o m tunnel c) (issued : TlsMaterial) (id : String) :
    ∃ c', Upserts issued ns id calls (.stunnel tunnel, c) (.stunnel (calls.foldl (Call.after issued id) tunnel), c') ∧
      Ready o m (calls.foldl (Call.after issued id) tunnel) c' ∧
      ∀ key ∉ keys ns id, c'.objects.get? key = c.objects.get? key := by
  induction calls generalizing tunnel c with
  | nil => exact ⟨c, .nil _, hready, fun _ _ => rfl⟩
  | cons call calls ih =>
    obtain ⟨hfirst, hlater⟩ := List.forall_mem_cons.1 hfits
    obtain ⟨config, c₁, -, hrun, hready₁, hmade⟩ := Call.succeeds hvalid hready hfirst issued id
    obtain ⟨c₂, hupserts, hready₂, hframe⟩ := ih hlater hready₁
    refine ⟨c₂, .cons hrun (log_of_made hmade) hupserts, hready₂, fun key hkey => ?_⟩
    rw [hframe key hkey, kept_of_made hmade key hkey]

/-- Calls for one side leave nothing in the tunnel that the last one does not replace. -/
theorem after_foldl {last : Call} {calls : List Call} (hsides : ∀ call ∈ calls, call.side = last.side)
    (hready : Ready o m tunnel c) (issued : TlsMaterial) (id : String) :
    last.after issued id (calls.foldl (Call.after issued id) tunnel) = last.after issued id tunnel := by
  induction calls generalizing tunnel with
  | nil => rfl
  | cons call calls ih =>
    obtain ⟨hfirst, hlater⟩ := List.forall_mem_cons.1 hsides
    rw [List.foldl_cons, ih hlater (hready.after hready.free hready.kept issued id call),
      Call.after_after hfirst hready.material]

/-! ## The last call -/

/-- What remains of calls with a last one: the side-car and the volumes of its side, and the two objects as it alone
writes them in any cluster, be they there or not. If all calls are for one side, so is the transport. -/
structure LeftBy (issued : TlsMaterial) (ns id : String) (tunnel : Stunnel) (calls : List Call) (last : Call)
    (t : Transport) (c : Cluster) : Prop where
  containers : t.containers last.side = [last.sidecar tunnel.options]
  volumes : t.volumes last.side = Stunnel.volumes id
  alone : ∀ d : Cluster, d.FailureFree → d.WellKept →
    ∃ t' d', outcome (last.attempt issued ns id) (.stunnel tunnel, d) = (.ok (), (t', d')) ∧
      (∀ key ∈ keys ns id, ∃ o o', c.objects.get? key = some o ∧ d'.objects.get? key = some o' ∧ o.Alike o') ∧
      ((∀ call ∈ calls, call.side = last.side) → t = t')

/-- What two clusters hold of the same objects is the same but for the versions. -/
theorem alike_of_holds {d : Cluster} {os : List Object} (hc : ∀ o ∈ os, c.Holds o) (hd : ∀ o ∈ os, d.Holds o) :
    ∀ key ∈ os.map Object.key, ∃ o o', c.objects.get? key = some o ∧ d.objects.get? key = some o' ∧ o.Alike o' := by
  intro key hkey
  obtain ⟨written, hwritten, rfl⟩ := List.mem_map.1 hkey
  obtain ⟨o, hget, halike⟩ := hc written hwritten
  obtain ⟨o', hget', halike'⟩ := hd written hwritten
  exact ⟨o, o', hget, hget', halike.trans halike'.symm⟩

/-- Whatever a cluster has under the two keys: calls in a row with any endpoints, ports and control files all succeed,
each logs what it does to the two objects, nothing else changes, and what remains is what the last call leaves. -/
theorem upserts_last (hvalid : tunnel.options.validate = .ok ()) (hm : tunnel.material = some m) (hfree : c.FailureFree)
    (hkept : c.WellKept) {calls : List Call} (hfits : ∀ call ∈ calls, call.Fits ns) (issued : TlsMaterial)
    (id : String) :
    ∃ t c', Upserts issued ns id calls (.stunnel tunnel, c) (t, c') ∧
      (∀ key ∉ keys ns id, c'.objects.get? key = c.objects.get? key) ∧
      ∀ last, calls.getLast? = some last → LeftBy issued ns id tunnel calls last t c' := by
  have hready : Ready tunnel.options m tunnel c := ⟨rfl, hm, hfree, hkept⟩
  rcases List.eq_nil_or_concat calls with rfl | ⟨before, last, rfl⟩
  · exact ⟨.stunnel tunnel, c, .nil _, fun _ _ => rfl, nofun⟩
  · rw [List.concat_eq_append] at hfits ⊢
    obtain ⟨hbefore, hlast⟩ := List.forall_mem_append.1 hfits
    have hfit : last.Fits ns := hlast last List.mem_cons_self
    obtain ⟨c₁, hupserts, hready₁, hframe⟩ := upserts_ready hvalid hbefore hready issued id
    obtain ⟨config, c₂, hconfig, hrun, hready₂, hmade⟩ := Call.succeeds hvalid hready₁ hfit issued id
    refine ⟨_, c₂, hupserts.append (.cons hrun (log_of_made hmade) (.nil _)), fun key hkey => ?_,
      fun last' hlast' => ?_⟩
    · rw [kept_of_made hmade key hkey, hframe key hkey]
    · obtain rfl : last = last' := by simpa using hlast'
      refine ⟨hready₁.options ▸ Call.containers_after, Call.volumes_after, fun d hd hdkept => ?_⟩
      obtain ⟨config', d', hconfig', halone, -, hdmade⟩ := Call.succeeds hvalid ⟨rfl, hm, hd, hdkept⟩ hfit issued id
      obtain rfl : config' = config := Except.ok.inj (hconfig'.symm.trans hconfig)
      refine ⟨_, d', halone, alike_of_holds (holds_of_made hmade) (holds_of_made hdmade), fun hsides => ?_⟩
      have hsame : ∀ call ∈ before, call.side = last.side :=
        fun call hcall => hsides call (List.mem_append_left _ hcall)
      rw [after_foldl hsame hready issued id]

/-- A tunnel with its material whose sides check each other. -/
def checked : Stunnel := { options := Transport.checking, material := some Transport.binaryMaterial }

/-- A server's side that is moved to another port and gets a control file, in a cluster where another Secret has the
name of its own. -/
theorem upserts_last_moved : ∃ t c',
    Upserts default "depot" "sail"
      [.server Transfer.disks.endpoint 8022 none, .server Transfer.disks.endpoint 8024 (some Control.file)]
      (.stunnel checked, ({} : Cluster).place (Manifest.secret ⟨"depot", secretName "sail"⟩ .empty .empty)) (t, c') ∧
      t.serverContainers = [container Transport.checking Endpoint.exposedPort (some Control.file)] ∧
      t.serverVolumes = Stunnel.volumes "sail" := by
  have hvalid : checked.options.validate = .ok () := rfl
  have hm : checked.material = some Transport.binaryMaterial := rfl
  have hfree : (({} : Cluster).place (Manifest.secret ⟨"depot", secretName "sail"⟩ .empty .empty)).FailureFree :=
    ⟨rfl, rfl⟩
  have hfits : ∀ call ∈ [Call.server Transfer.disks.endpoint 8022 none,
      .server Transfer.disks.endpoint 8024 (some Control.file)], call.Fits "depot" := by
    simp only [List.forall_mem_cons]
    exact ⟨rfl, rfl, nofun⟩
  obtain ⟨t, c', hupserts, -, hlast⟩ :=
    upserts_last hvalid hm hfree (Cluster.wellKept_empty.place _) hfits default "sail"
  have hleft := hlast _ rfl
  exact ⟨t, c', hupserts, hleft.containers, hleft.volumes⟩

end Stunnel

end VolumeMigration
