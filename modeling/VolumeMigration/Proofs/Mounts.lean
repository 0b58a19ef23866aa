import VolumeMigration.Proofs.PairLists
import VolumeMigration.Proofs.Sides
import VolumeMigration.Proofs.Shell
import VolumeMigration.Proofs.Texts
/-!
# What a container sees of a claim

A container sees a claim where it mounts a volume of its pod that is bound to
the claim, or where it finds it as a device. The volumes of a side's claims have
names of their own, so every claim is seen where its own mount or device says
and nowhere else (`mountPaths_of_mem`, `devicePaths_of_mem`).
-/

namespace VolumeMigration

/-- The specification of the pods that an object runs. -/
def Object.podSpec? (o : Object) : Option PodSpec :=
  match o.content with
  | .pod spec _ => spec
  | .deployment spec => spec.bind (·.template.spec)
  | _ => none

/-- A container and the pod that it runs in. -/
structure Payload where
  pod : PodSpec
  container : Container

/-- The first container of the pods that an object runs. -/
def Object.payload? (o : Object) : Option Payload := do
  let pod ← o.podSpec?
  let container ← pod.containers.head?
  return { pod, container }

theorem Object.Alike.podSpec?_eq {a b : Object} (h : a.Alike b) : a.podSpec? = b.podSpec? := by
  unfold podSpec?
  rw [h.content_eq]

theorem Object.Alike.payload?_eq {a b : Object} (h : a.Alike b) : a.payload? = b.payload? := by
  unfold payload?
  rw [h.podSpec?_eq]

/-- What the object under a key runs. -/
def Cluster.payload? (c : Cluster) (key : Key) : Option Payload := (c.objects.get? key).bind Object.payload?

theorem Cluster.Holds.payload? {c : Cluster} {o : Object} (h : c.Holds o) : c.payload? o.key = o.payload? := by
  obtain ⟨o', hget, halike⟩ := h
  rw [Cluster.payload?, hget, Option.bind_some, halike.payload?_eq]

theorem Manifest.key_pod (n : ObjectName) (labels : StringMap) (spec : PodSpec) :
    (Manifest.pod n labels spec).key = ⟨.pod, n.ns, n.name⟩ := rfl

theorem Manifest.key_deployment (n : ObjectName) (labels : StringMap) (spec : PodSpec) :
    (Manifest.deployment n labels spec).key = ⟨.deployment, n.ns, n.name⟩ := rfl

namespace Payload

/-- The names of the pod's volumes that are bound to a claim. -/
def volumesOf (p : Payload) (claim : String) : List String :=
  ((p.pod.volumes.getD []).filter fun v => v.claim.map (·.claimName) == some claim).map (·.name)

/-- The directories where the container sees the whole of a claim. -/
def mountPaths (p : Payload) (claim : String) : List String :=
  ((p.container.volumeMounts.getD []).filter fun m =>
    m.subPath.isNone && (p.volumesOf claim).contains m.name).map (·.mountPath)

/-- The paths where the container finds a claim as a device. -/
def devicePaths (p : Payload) (claim : String) : List String :=
  ((p.container.volumeDevices.getD []).filter fun d => (p.volumesOf claim).contains d.name).map (·.devicePath)

/-- The script that a shell runs in the container. -/
def script? (p : Payload) : Option String :=
  match p.container.command with
  | some [_, "-c", script] => some script
  | _ => none

/-- The commands of the container's script that run a program. -/
def invocations (p : Payload) (program : String) : List (List String) :=
  (p.script?.map (Shell.invocations program)).getD []

end Payload

/-! ## Names of volumes -/

namespace Transfer

theorem volumeName_injective {i j : Nat} (h : volumeName i = volumeName j) : i = j :=
  Text.repr_injective ((String.append_right_inj "pvc-").1 h)

theorem volumeName_head (i : Nat) : (volumeName i).toList.head? = some 'p' := by
  show ("pvc-" ++ Nat.repr i).toList.head? = _
  rw [String.toList_append]
  rfl

end Transfer

/-! ## One match in a list -/

section Matches
variable {α β κ : Type}

/-- In a list whose keys differ, one member has a given key. -/
theorem filter_eq_singleton [BEq κ] [LawfulBEq κ] {l : List α} {key : α → κ} {x : α}
    (h : l.Pairwise fun a b => key a ≠ key b) (hx : x ∈ l) : l.filter (fun y => key y == key x) = [x] := by
  induction l with
  | nil => cases hx
  | cons y l ih =>
    obtain ⟨hy, hl⟩ := List.pairwise_cons.1 h
    rcases List.mem_cons.1 hx with rfl | hx
    · have hrest : l.filter (fun y => key y == key x) = [] :=
        List.filter_eq_nil_iff.2 fun z hz he => hy z hz (by simpa using (beq_iff_eq.1 he).symm)
      simp [hrest]
    · rw [List.filter_cons_of_neg (by simpa using hy x hx), ih hl hx]

/-- The members of an indexed list are related in pairs if their makings are. -/
theorem pairwise_mapIdx {l : List α} {f : Nat → α → β} {R : β → β → Prop}
    (h : ∀ i j a b, i < j → l[i]? = some a → l[j]? = some b → R (f i a) (f j b)) : (l.mapIdx f).Pairwise R := by
  refine List.pairwise_iff_getElem.2 fun i j hi hj hij => ?_
  rw [List.length_mapIdx] at hi hj
  rw [List.getElem_mapIdx, List.getElem_mapIdx]
  exact h i j _ _ hij (List.getElem?_eq_getElem hi) (List.getElem?_eq_getElem hj)

theorem mem_mapIdx_of_getElem? {l : List α} {f : Nat → α → β} {i : Nat} {a : α} (h : l[i]? = some a) :
    f i a ∈ l.mapIdx f :=
  List.mem_of_getElem? (by rw [List.getElem?_mapIdx, h]; rfl)

end Matches

namespace Payload

variable {p : Payload} {claims : List Claim} {i : Nat} {c : Claim}

open Transfer (volumeName)

/-- A claim has one volume among the volumes of a side's claims and others that are bound to none. -/
theorem volumesOf_of_mem {others : List Volume}
    (hvolumes : p.pod.volumes = some (claims.mapIdx (fun i c => Manifest.claimVolume (volumeName i) c.name) ++ others))
    (hothers : ∀ v ∈ others, v.claim = none) (hnodup : (claims.map (·.name)).Nodup) (hc : claims[i]? = some c) :
    p.volumesOf c.name = [volumeName i] := by
  have hkeys : (claims.mapIdx fun i c => Manifest.claimVolume (volumeName i) c.name).Pairwise
      fun v w => v.claim.map (·.claimName) ≠ w.claim.map (·.claimName) := by
    refine pairwise_mapIdx fun i j a b hij ha hb he => ?_
    obtain ⟨hi, rfl⟩ := List.getElem?_eq_some_iff.1 ha
    obtain ⟨hj, rfl⟩ := List.getElem?_eq_some_iff.1 hb
    exact List.pairwise_iff_getElem.1 (List.pairwise_map.1 hnodup) i j hi hj hij (Option.some.inj he)
  have hmine := filter_eq_singleton hkeys (mem_mapIdx_of_getElem? hc)
  have hrest : others.filter (fun v => v.claim.map (·.claimName) == some c.name) = [] :=
    List.filter_eq_nil_iff.2 fun v hv => by simp [hothers v hv]
  rw [volumesOf, hvolumes, Option.getD_some, List.filter_append, hrest, List.append_nil]
  exact congrArg (List.map (·.name)) hmine

/-- The mounts of a claim's volume are those with its name. -/
theorem mountPaths_of_filter {m : VolumeMount} (hv : p.volumesOf c.name = [m.name])
    (hm : (p.container.volumeMounts.getD []).filter (·.name == m.name) = [m]) (hsub : m.subPath = none) :
    p.mountPaths c.name = [m.mountPath] := by
  have hsplit : (p.container.volumeMounts.getD []).filter
      (fun m' => m'.subPath.isNone && (p.volumesOf c.name).contains m'.name) = [m] := by
    simp only [hv, List.contains_cons, List.contains_nil, Bool.or_false]
    rw [← List.filter_filter, hm]
    simp [hsub]
  rw [mountPaths, hsplit]
  rfl

theorem devicePaths_of_filter {d : VolumeDevice} (hv : p.volumesOf c.name = [d.name])
    (hd : (p.container.volumeDevices.getD []).filter (·.name == d.name) = [d]) :
    p.devicePaths c.name = [d.devicePath] := by
  have hsplit : (p.container.volumeDevices.getD []).filter (fun d' => (p.volumesOf c.name).contains d'.name) = [d] := by
    simpa only [hv, List.contains_cons, List.contains_nil, Bool.or_false] using hd
  rw [devicePaths, hsplit]
  rfl

end Payload

namespace Transfer

variable {i : Nat}

/-- A name that no volume of a claim has. -/
def IsOther (name : String) : Prop := name.toList.head? ≠ some 'p'

theorem filter_volumeName {α : Type} {name : α → String} (before mine after : List α)
    (hbefore : ∀ x ∈ before, IsOther (name x)) (hafter : ∀ x ∈ after, IsOther (name x)) :
    (before ++ mine ++ after).filter (fun x => name x == volumeName i) =
      mine.filter fun x => name x == volumeName i := by
  have hnone : ∀ l : List α, (∀ x ∈ l, IsOther (name x)) → l.filter (fun x => name x == volumeName i) = [] := by
    intro l hl
    refine List.filter_eq_nil_iff.2 fun x hx he => hl x hx ?_
    rw [beq_iff_eq.1 he, volumeName_head]
  rw [List.filter_append, List.filter_append, hnone before hbefore, hnone after hafter, List.nil_append,
    List.append_nil]

/-! ## The pods of a transfer -/

section Pods
variable {t : Transfer} {issued : TlsMaterial}

/-- No side-car has a volume of a claim. -/
theorem claim_sidecarVolumes_server : ∀ v ∈ (t.asServer issued).sidecarVolumes .server, v.claim = none := by
  cases h : t.transport with
  | stunnel tunnel =>
    simp [sidecarVolumes, asServer, h, Transport.asServer, Transport.serverVolumes, Stunnel.asServer, Stunnel.volumes,
      Manifest.configMapVolume, Manifest.secretVolume]
  | direct port => simp [sidecarVolumes, asServer, h, Transport.asServer, Transport.serverVolumes]

theorem claim_sidecarVolumes_client : ∀ v ∈ t.asClient.sidecarVolumes .client, v.claim = none := by
  cases h : t.transport with
  | stunnel tunnel =>
    simp [sidecarVolumes, asClient, h, Transport.asClient, Transport.clientVolumes, Stunnel.asClient, Stunnel.volumes,
      Manifest.configMapVolume, Manifest.secretVolume]
  | direct port => simp [sidecarVolumes, asClient, h, Transport.asClient, Transport.clientVolumes]

theorem nodup_claims (t : Transfer) (side : Side) : ((t.claims side).map (·.name)).Nodup := by
  cases side with
  | server => exact t.pairs.nodup_destinationNames
  | client => exact t.pairs.nodup_sourceNames

theorem isOther_of_all {mounts : List VolumeMount} (h : mounts.all (fun m => m.name.toList.head? != some 'p') = true) :
    ∀ m ∈ mounts, IsOther m.name := by
  intro m hm
  unfold IsOther
  simpa using List.all_eq_true.1 h m hm

end Pods

/-! ## What the clusters run -/

section Runs
variable {t : Transfer} {issued : TlsMaterial} {target : Address} {c d : Cluster}

theorem server_eq_rsync {options : RsyncOptions} (h : t.method = .rsync options) : t.server = Rsync.server t := by
  unfold Transfer.server
  rw [h]

theorem server_eq_rclone (h : t.method = .rclone) : t.server = Rclone.server t := by
  unfold Transfer.server
  rw [h]

theorem server_eq_blockrsync {options : BlockrsyncOptions} (h : t.method = .blockrsync options) :
    t.server = Blockrsync.server t options := by
  unfold Transfer.server
  rw [h]

theorem client_eq_rsync {options : RsyncOptions} (h : t.method = .rsync options) :
    t.client target = Rsync.client t options target := by
  unfold Transfer.client
  rw [h]

theorem client_eq_rclone (h : t.method = .rclone) : t.client target = Rclone.client t := by
  unfold Transfer.client
  rw [h]

theorem client_eq_blockrsync {options : BlockrsyncOptions} (h : t.method = .blockrsync options) :
    t.client target = Blockrsync.client t options target := by
  unfold Transfer.client
  rw [h]

theorem key_server_asServer (t : Transfer) (issued : TlsMaterial) : (t.asServer issued).server.key = t.server.key := by
  unfold Transfer.server
  rw [show (t.asServer issued).method = t.method from rfl]
  cases t.method <;>
    simp only [Rsync.server, Rclone.server, Blockrsync.server, Manifest.key_deployment, Manifest.key_pod] <;>
    rfl

theorem key_client_asClient (t : Transfer) (target : Address) :
    (t.asClient.client target).key = (t.client target).key := by
  unfold Transfer.client
  rw [show t.asClient.method = t.method from rfl]
  cases t.method <;> simp only [Rsync.client, Rclone.client, Blockrsync.client, Manifest.key_pod] <;> rfl

theorem ServerHeld.payload?_eq (h : t.ServerHeld issued d) :
    d.payload? t.server.key = (t.asServer issued).server.payload? := by
  rw [← key_server_asServer t issued]
  exact h.server.payload?

theorem ClientHeld.payload?_eq (h : t.ClientHeld target c) :
    c.payload? (t.client target).key = (t.asClient.client target).payload? := by
  rw [← key_client_asClient t target]
  exact h.client.payload?

end Runs

end Transfer

end VolumeMigration
