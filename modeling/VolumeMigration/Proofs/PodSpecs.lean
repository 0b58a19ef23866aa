import VolumeMigration.Proofs.PairedDevices
import VolumeMigration.Proofs.RoutedTraffic
import VolumeMigration.Proofs.SelectedPods
/-!
# Pods are well formed

The pod of a side is put together from what copies, with the volumes of the
claims, and from the side-car of a tunnel with its own volumes. Containers and
volumes that go together are put beside others of other names
(`PodSpec.Assembles.append`), so whoever creates a side leaves a pod in which
names differ, every mount is of a volume of the pod, and every claim of the side
has one volume (`Transfer.Arises.sidePod`). A side-car that was made before is
replaced, so that there is never more than one.
-/

namespace VolumeMigration

open Attempt

/-- What is made of the members of an indexed list is made of the list. -/
theorem map_mapIdx {α β γ : Type} (l : List α) (f : Nat → α → β) (g : β → γ) :
    (l.mapIdx f).map g = l.mapIdx fun i a => g (f i a) :=
  (List.mapIdx_eq_iff.2 fun i => by simp [Function.comp_def]).symm

theorem Object.kind_of_podSpec? {o : Object} {p : PodSpec} (h : o.podSpec? = some p) :
    o.kind = .pod ∨ o.kind = .deployment := by
  unfold podSpec? at h
  split at h
  · rename_i hcontent
    exact .inl (congrArg Content.kind hcontent)
  · rename_i hcontent
    exact .inr (congrArg Content.kind hcontent)
  · cases h

/-! ## Containers and volumes that go together -/

namespace Container

/-- The volumes that a container mounts or finds as devices, by their names, and where it does. -/
def places (k : Container) : List (String × String) :=
  (k.volumeMounts.getD []).map (fun m => (m.name, m.mountPath)) ++
    (k.volumeDevices.getD []).map fun d => (d.name, d.devicePath)

/-- A container finds all its volumes among those of the names, each at a path of its own. -/
structure Fits (names : List String) (k : Container) : Prop where
  declared : ∀ place ∈ k.places, place.1 ∈ names
  apart : (k.places.map (·.2)).Nodup

theorem Fits.mono {names names' : List String} {k : Container} (h : k.Fits names)
    (hsub : ∀ name ∈ names, name ∈ names') : k.Fits names' :=
  ⟨fun place hplace => hsub place.1 (h.declared place hplace), h.apart⟩

end Container

namespace PodSpec

/-- Containers of different names and volumes of different names, which are all that the containers use. -/
structure Assembles (ks : List Container) (vs : List Volume) : Prop where
  containers : (ks.map (·.name)).Nodup
  volumes : (vs.map (·.name)).Nodup
  fits : ∀ k ∈ ks, k.Fits (vs.map (·.name))

def WellFormed (p : PodSpec) : Prop := Assembles p.containers (p.volumes.getD [])

/-- The names of the claims that volumes of the pod are bound to. -/
def boundClaims (p : PodSpec) : List String := (p.volumes.getD []).filterMap fun v => v.claim.map (·.claimName)

variable {ks ks' : List Container} {vs vs' : List Volume}

/-- Containers and volumes of other names are added. The new containers may use the volumes that were there. -/
theorem Assembles.append (h : Assembles ks vs) (hks' : (ks'.map (·.name)).Nodup) (hvs' : (vs'.map (·.name)).Nodup)
    (hks : ∀ k ∈ ks, k.name ∉ ks'.map (·.name)) (hvs : ∀ v ∈ vs, v.name ∉ vs'.map (·.name))
    (hfits : ∀ k ∈ ks', k.Fits ((vs ++ vs').map (·.name))) : Assembles (ks ++ ks') (vs ++ vs') := by
  refine ⟨?_, ?_, fun k hk => ?_⟩
  · rw [List.map_append, List.nodup_append]
    refine ⟨h.containers, hks', fun a ha b hb => ?_⟩
    obtain ⟨k, hk, rfl⟩ := List.mem_map.1 ha
    exact fun he => hks k hk (he ▸ hb)
  · rw [List.map_append, List.nodup_append]
    refine ⟨h.volumes, hvs', fun a ha b hb => ?_⟩
    obtain ⟨v, hv, rfl⟩ := List.mem_map.1 ha
    exact fun he => hvs v hv (he ▸ hb)
  · rcases List.mem_append.1 hk with hk | hk
    · refine (h.fits k hk).mono fun name hname => ?_
      rw [List.map_append]
      exact List.mem_append_left _ hname
    · exact hfits k hk

end PodSpec

/-- The name of every side-car of a tunnel. -/
def Stunnel.sidecarName : String := "stunnel"

namespace Transfer

variable {t u v : Transfer} {issued : TlsMaterial} {side : Side} {target : Address} {c c' : Cluster} {r : Result Unit}

/-! ## The volumes of the claims -/

theorem mem_claimVolumes {i : Nat} (h : i < (t.claims side).length) :
    volumeName i ∈ (t.claimVolumes side).map (·.name) := by
  have hmem := mem_mapIdx_of_getElem? (f := fun i (c : Claim) => Manifest.claimVolume (volumeName i) c.name)
    (List.getElem?_eq_getElem h)
  exact List.mem_map_of_mem hmem (f := fun v : Volume => v.name)

theorem nodup_claimVolumes (t : Transfer) (side : Side) : ((t.claimVolumes side).map (·.name)).Nodup := by
  refine List.pairwise_map.2 (pairwise_mapIdx fun i j _ _ hij _ _ he => ?_)
  exact absurd (volumeName_injective he) (Nat.ne_of_lt hij)

/-- No volume of a claim has one of the other names. -/
theorem isOther_ne {name : String} {v : Volume} (hname : IsOther name) (hv : v ∈ t.claimVolumes side) :
    v.name ≠ name := by
  rintro rfl
  unfold claimVolumes at hv
  obtain ⟨i, hi, rfl⟩ := List.mem_mapIdx.1 hv
  exact hname (volumeName_head i)

theorem nodup_volumes {others : List Volume} (hnodup : (others.map (·.name)).Nodup)
    (hothers : ∀ v ∈ others, IsOther v.name) : ((t.claimVolumes side ++ others).map (·.name)).Nodup := by
  rw [List.map_append, List.nodup_append]
  refine ⟨t.nodup_claimVolumes side, hnodup, fun a ha b hb => ?_⟩
  obtain ⟨v, hv, rfl⟩ := List.mem_map.1 ha
  obtain ⟨w, hw, rfl⟩ := List.mem_map.1 hb
  exact isOther_ne (hothers w hw) hv

/-- The volumes of the claims are bound to them, one to each in order. -/
theorem boundClaims_claimVolumes {others : List Volume} (hothers : ∀ v ∈ others, v.claim = none) :
    (t.claimVolumes side ++ others).filterMap (fun v => v.claim.map (·.claimName)) = (t.claims side).map (·.name) := by
  have hrest : others.filterMap (fun v => v.claim.map (·.claimName)) = [] :=
    List.filterMap_eq_nil_iff.2 fun v hv => by rw [hothers v hv]; rfl
  have hclaims : (t.claimVolumes side).map (fun v => v.claim.map (·.claimName)) =
      ((t.claims side).map (·.name)).map some := by
    rw [claimVolumes, map_mapIdx, List.map_map]
    exact List.mapIdx_eq_iff.2 fun i => List.getElem?_map
  calc
    _ = (t.claimVolumes side).filterMap (fun v => v.claim.map (·.claimName)) := by
      rw [List.filterMap_append, hrest, List.append_nil]
    _ = ((t.claimVolumes side).map fun v => v.claim.map (·.claimName)).filterMap fun name => name := by
      rw [List.filterMap_map]
      rfl
    _ = (t.claims side).map (·.name) := by
      rw [hclaims, List.filterMap_map]
      exact List.filterMap_some

/-! ## Where containers find the claims -/

/-- The path is outside of the directories of claims and devices. -/
def IsOutside (path : String) : Prop := path.toList[1]? ≠ some 'm' ∧ path.toList[1]? ≠ some 'd'

instance (path : String) : Decidable (IsOutside path) := inferInstanceAs (Decidable (_ ∧ _))

/-- A container that finds each claim at a path of its own, and other volumes outside of the claims' directories. -/
theorem fits_of_places {k : Container} {path : Nat → Claim → String} {extra : List (String × String)}
    {others : List Volume}
    (hplaces : k.places.Perm (((t.claims side).mapIdx fun i c => (volumeName i, path i c)) ++ extra))
    (hpath : ∀ i j a b, i < j → (t.claims side)[i]? = some a → (t.claims side)[j]? = some b → path i a ≠ path j b)
    (hinside : ∀ i a, ¬IsOutside (path i a)) (hdeclared : ∀ place ∈ extra, place.1 ∈ others.map (·.name))
    (hapart : (extra.map (·.2)).Nodup) (houtside : ∀ place ∈ extra, IsOutside place.2) :
    k.Fits ((t.claimVolumes side ++ others).map (·.name)) := by
  refine ⟨fun place hplace => ?_, ?_⟩
  · rw [List.map_append]
    rcases List.mem_append.1 (hplaces.mem_iff.1 hplace) with hmem | hmem
    · obtain ⟨i, hi, rfl⟩ := List.mem_mapIdx.1 hmem
      exact List.mem_append_left _ (mem_claimVolumes hi)
    · exact List.mem_append_right _ (hdeclared place hmem)
  · rw [(hplaces.map (·.2)).nodup_iff, List.map_append, List.nodup_append]
    refine ⟨List.pairwise_map.2 (pairwise_mapIdx hpath), hapart, fun a ha b hb he => ?_⟩
    obtain ⟨place, hplace, rfl⟩ := List.mem_map.1 ha
    obtain ⟨other, hother, rfl⟩ := List.mem_map.1 hb
    obtain ⟨i, hi, rfl⟩ := List.mem_mapIdx.1 hplace
    exact hinside i _ (he ▸ houtside other hother)

theorem mountPath_injective {a b : Claim} (h : mountPath a = mountPath b) : a.name = b.name := by
  unfold mountPath at h
  rw [String.append_assoc, String.append_assoc] at h
  exact (String.append_right_inj _).1 ((String.append_right_inj _).1 h)

/-- A container that mounts the claims as trees of files. -/
theorem fits_of_claimMounts {k : Container} {extra : List VolumeMount} {others : List Volume}
    (hmounts : (k.volumeMounts.getD []).Perm (t.claimMounts side ++ extra)) (hdevices : k.volumeDevices = none)
    (hdeclared : ∀ m ∈ extra, m.name ∈ others.map (·.name)) (hapart : (extra.map (·.mountPath)).Nodup)
    (houtside : ∀ m ∈ extra, IsOutside m.mountPath) : k.Fits ((t.claimVolumes side ++ others).map (·.name)) := by
  have hplaces : k.places.Perm (((t.claims side).mapIdx fun i c => (volumeName i, mountPath c)) ++
      extra.map fun m => (m.name, m.mountPath)) := by
    have hperm := hmounts.map fun m => (m.name, m.mountPath)
    rw [List.map_append, claimMounts, map_mapIdx] at hperm
    rw [Container.places, hdevices]
    simpa using hperm
  refine fits_of_places hplaces (fun i j a b hij ha hb he => ?_) (fun i a => ?_) ?_ ?_ ?_
  · obtain ⟨hi, rfl⟩ := List.getElem?_eq_some_iff.1 ha
    obtain ⟨hj, rfl⟩ := List.getElem?_eq_some_iff.1 hb
    exact List.pairwise_iff_getElem.1 (List.pairwise_map.1 (t.nodup_claims side)) i j hi hj hij (mountPath_injective he)
  · simp [IsOutside, mountPath, mountRoot]
  · exact List.forall_mem_map.2 hdeclared
  · rwa [List.map_map]
  · exact List.forall_mem_map.2 houtside

namespace Blockrsync

/-- The volume of a device and where it is found. -/
def Device.place : Device → String × String
  | raw volume path => (volume, path)
  | image volume directory => (volume, directory)

/-- Every device is mounted as a directory or found as it is. -/
theorem perm_devices (ds : List Device) :
    ((ds.filterMap Device.mount?).map (fun m => (m.name, m.mountPath)) ++
      (ds.filterMap Device.volumeDevice?).map fun d => (d.name, d.devicePath)).Perm (ds.map Device.place) := by
  induction ds with
  | nil => exact .nil
  | cons d ds ih =>
    cases d with
    | raw volume path => exact List.perm_middle.trans (ih.cons _)
    | image volume directory => exact ih.cons _

theorem place_ofClaim_ne {i j : Nat} (a b : Claim) (hij : i < j) :
    (Device.ofClaim i a).place.2 ≠ (Device.ofClaim j b).place.2 := by
  have hne : Nat.repr i ≠ Nat.repr j := fun he => Nat.ne_of_lt hij (Text.repr_injective he)
  have hapart : ∀ i j : Nat, "/dev/block-" ++ Nat.repr i ≠ "/mnt/" ++ Nat.repr j := by
    intro i j he
    have hsecond := congrArg (·.toList[1]?) he
    simp only [String.toList_append] at hsecond
    cases hsecond
  unfold Device.ofClaim
  split <;> split <;> simp [Device.place, toString, mountRoot, hne, hapart, (hapart _ _).symm]

/-- The container of a side finds all claims and the control volume. -/
theorem fits_payload (t : Transfer) (side : Side) (script : String) :
    (payload t side script).Fits ((t.claimVolumes side ++ [Control.volume]).map (·.name)) := by
  have hplaces : (payload t side script).places.Perm
      (((t.claims side).mapIdx fun i c => (volumeName i, (Device.ofClaim i c).place.2)) ++
        [(Control.volumeName, Text.directoryOf Control.file)]) := by
    have hdevices : (devices t side).map Device.place =
        (t.claims side).mapIdx fun i c => (volumeName i, (Device.ofClaim i c).place.2) := by
      rw [devices, map_mapIdx]
      refine congrArg (fun f => (t.claims side).mapIdx f) (funext fun i => funext fun c => ?_)
      unfold Device.ofClaim
      split <;> rfl
    rw [← hdevices, Container.places, volumeDevices_payload]
    show ((((devices t side).filterMap Device.mount? ++ [Control.mount Control.file]).map _) ++ _).Perm _
    rw [List.map_append, List.append_assoc]
    refine (List.Perm.append_left _ List.perm_append_comm).trans ?_
    rw [← List.append_assoc]
    exact (perm_devices _).append_right _
  refine fits_of_places hplaces (fun i j a b hij _ _ => place_ofClaim_ne a b hij) (fun i a => ?_) ?_ ?_ ?_
  · unfold Device.ofClaim
    split <;> simp [IsOutside, Device.place, mountRoot, toString]
  · decide
  · decide
  · decide

theorem fits_proxy (t : Transfer) (side : Side) (arguments : List String) :
    (proxy t arguments).Fits ((t.claimVolumes side ++ [Control.volume]).map (·.name)) := by
  refine ⟨fun place hplace => ?_, by simp [Container.places, proxy]⟩
  have hcontrol : place = (Control.volumeName, Text.directoryOf Control.file) := List.mem_singleton.1 hplace
  rw [hcontrol, List.map_append]
  exact List.mem_append_right _ (List.mem_singleton_self _)

end Blockrsync

/-! ## Side-cars -/

/-- A side has the one side-car of a tunnel with its volumes, or none without a tunnel. -/
inductive HasSidecars (t : Transfer) (side : Side) (controlFile : Option String) : Prop where
  | direct (hdirect : t.transport.isDirect = true) (hcontainers : t.sidecars side = [])
    (hvolumes : t.sidecarVolumes side = [])
  | tunnel {options : StunnelOptions} {port : Nat} {id : String} (hdirect : t.transport.isDirect = false)
    (hcontainers : t.sidecars side = [Stunnel.container options port controlFile])
    (hvolumes : t.sidecarVolumes side = Stunnel.volumes id)

/-- Whatever side-cars a transport had, the server's side has its own once it was created. -/
theorem hasSidecars_asServer (t : Transfer) (issued : TlsMaterial) :
    (t.asServer issued).HasSidecars .server t.serverControlFile? := by
  obtain ⟨method, pairs, endpoint, transport, credentials, workload⟩ := t
  cases transport with
  | stunnel tunnel => exact .tunnel rfl rfl rfl
  | direct port => exact .direct rfl rfl rfl

theorem hasSidecars_asClient (t : Transfer) : t.asClient.HasSidecars .client (some Control.file) := by
  obtain ⟨method, pairs, endpoint, transport, credentials, workload⟩ := t
  cases transport with
  | stunnel tunnel => exact .tunnel rfl rfl rfl
  | direct port => exact .direct rfl rfl rfl

/-- What a side runs of its own: containers with the volumes of the claims and others, and room for a tunnel. -/
structure IsOwn (t : Transfer) (side : Side) (controlFile : Option String) (ks : List Container)
    (others : List Volume) : Prop where
  assembles : PodSpec.Assembles ks (t.claimVolumes side ++ others)
  control : ∀ file, controlFile = some file → file = Control.file ∧ Control.volumeName ∈ others.map (·.name)
  containers : ∀ k ∈ ks, k.name ≠ Stunnel.sidecarName
  volumes : ∀ v ∈ others, v.name ∉ [Stunnel.configVolume, Stunnel.certsVolume] ∧ v.claim = none

instance (name : String) : Decidable (IsOther name) := inferInstanceAs (Decidable (_ ≠ _))

variable {controlFile restart : Option String} {ks : List Container} {others : List Volume}

/-- What is asked of the other volumes is asked of their names, and that none of them is a claim's. -/
theorem isOwn_of_names (names : List String) (hnames : others.map (·.name) = names) (hnodup : names.Nodup)
    (hother : ∀ name ∈ names, IsOther name ∧ name ∉ [Stunnel.configVolume, Stunnel.certsVolume])
    (hclaims : ∀ v ∈ others, v.claim = none)
    (hcontrol : ∀ file, controlFile = some file → file = Control.file ∧ Control.volumeName ∈ names)
    (hks : (ks.map (·.name)).Nodup) (hcontainers : ∀ k ∈ ks, k.name ≠ Stunnel.sidecarName)
    (hfits : ∀ k ∈ ks, k.Fits ((t.claimVolumes side ++ others).map (·.name))) : t.IsOwn side controlFile ks others := by
  subst hnames
  refine ⟨⟨hks, nodup_volumes hnodup fun v hv => (hother v.name (List.mem_map_of_mem hv)).1, hfits⟩, hcontrol,
    hcontainers, fun v hv => ⟨(hother v.name (List.mem_map_of_mem hv)).2, hclaims v hv⟩⟩

/-- A side-car finds its own volumes, and the control volume if it waits for the control file. -/
theorem fits_sidecar {names : List String} (options : StunnelOptions) (port : Nat) (id : String)
    (hcontrol : ∀ file, controlFile = some file → file = Control.file ∧ Control.volumeName ∈ names) :
    (Stunnel.container options port controlFile).Fits (names ++ (Stunnel.volumes id).map (·.name)) := by
  have hown : ∀ place ∈ [(Stunnel.configVolume, Stunnel.configPath), (Stunnel.certsVolume, Stunnel.certsDir)],
      place.1 ∈ names ++ (Stunnel.volumes id).map (·.name) := fun place hplace =>
    List.mem_append_right _ (List.mem_map_of_mem hplace (f := Prod.fst))
  cases controlFile with
  | none =>
    refine ⟨hown, ?_⟩
    show [Stunnel.configPath, Stunnel.certsDir].Nodup
    decide
  | some file =>
    obtain ⟨rfl, hdeclared⟩ := hcontrol file rfl
    refine ⟨fun place hplace => ?_, ?_⟩
    · have hplaces : (Stunnel.container options port (some Control.file)).places =
          [(Stunnel.configVolume, Stunnel.configPath), (Stunnel.certsVolume, Stunnel.certsDir)] ++
            [(Control.volumeName, Text.directoryOf Control.file)] := rfl
      rw [hplaces] at hplace
      rcases List.mem_append.1 hplace with hplace | hplace
      · exact hown place hplace
      · rw [List.mem_singleton.1 hplace]
        exact List.mem_append_left _ hdeclared
    · show [Stunnel.configPath, Stunnel.certsDir, Text.directoryOf Control.file].Nodup
      decide

theorem podSpec_wellFormed (hown : t.IsOwn side controlFile ks others) (hsidecars : t.HasSidecars side controlFile) :
    (t.podSpec side ks (t.claimVolumes side ++ others) restart).WellFormed := by
  unfold PodSpec.WellFormed podSpec
  cases hsidecars with
  | direct hdirect hcontainers hvolumes =>
    rw [hcontainers, hvolumes, List.append_nil, List.append_nil]
    exact hown.assembles
  | @tunnel options port id hdirect hcontainers hvolumes =>
    rw [hcontainers, hvolumes]
    refine hown.assembles.append (by simp) ?_ (fun k hk => ?_) (fun v hv => ?_) fun k hk => ?_
    · show [Stunnel.configVolume, Stunnel.certsVolume].Nodup
      decide
    · show k.name ∉ [Stunnel.sidecarName]
      simpa using hown.containers k hk
    · show v.name ∉ [Stunnel.configVolume, Stunnel.certsVolume]
      rcases List.mem_append.1 hv with hv | hv
      · have hapart : ∀ name, IsOther name → v.name ≠ name := fun name hname => isOther_ne hname hv
        simp [hapart _ (show IsOther Stunnel.configVolume by unfold IsOther; decide),
          hapart _ (show IsOther Stunnel.certsVolume by unfold IsOther; decide)]
      · exact (hown.volumes v hv).1
    · rw [List.mem_singleton.1 hk, List.map_append]
      refine fits_sidecar options port id fun file hfile => ?_
      obtain ⟨hcontrol, hdeclared⟩ := hown.control file hfile
      rw [List.map_append]
      exact ⟨hcontrol, List.mem_append_right _ hdeclared⟩

theorem boundClaims_podSpec (hown : t.IsOwn side controlFile ks others) (hsidecars : t.HasSidecars side controlFile) :
    (t.podSpec side ks (t.claimVolumes side ++ others) restart).boundClaims = (t.claims side).map (·.name) := by
  have hnone : ∀ v ∈ t.sidecarVolumes side, v.claim = none := by
    cases hsidecars with
    | direct hdirect hcontainers hvolumes =>
      rw [hvolumes]
      exact List.forall_mem_nil _
    | tunnel hdirect hcontainers hvolumes =>
      rw [hvolumes]
      simp [Stunnel.volumes, Manifest.configMapVolume, Manifest.secretVolume]
  unfold PodSpec.boundClaims podSpec
  rw [Option.getD_some, List.append_assoc]
  refine boundClaims_claimVolumes fun v hv => ?_
  rcases List.mem_append.1 hv with hv | hv
  · exact (hown.volumes v hv).2
  · exact hnone v hv

/-- The side-cars of a pod are those of the transport. -/
theorem length_sidecars (hown : t.IsOwn side controlFile ks others) (hsidecars : t.HasSidecars side controlFile) :
    ((t.podSpec side ks (t.claimVolumes side ++ others) restart).containers.filter
      (·.name == Stunnel.sidecarName)).length = if t.transport.isDirect then 0 else 1 := by
  have hnone : ks.filter (·.name == Stunnel.sidecarName) = [] :=
    List.filter_eq_nil_iff.2 fun k hk he => hown.containers k hk (beq_iff_eq.1 he)
  unfold podSpec
  rw [List.filter_append, hnone, List.nil_append]
  cases hsidecars with
  | direct hdirect hcontainers hvolumes =>
    rw [hcontainers, hdirect]
    rfl
  | tunnel hdirect hcontainers hvolumes =>
    rw [hcontainers, hdirect]
    rfl

/-! ## The pods of both sides -/

theorem isOwn_rsync_server {options : RsyncOptions} (hm : t.method = .rsync options) :
    t.IsOwn .server t.serverControlFile? [Rsync.serverContainer t]
      [Manifest.configMapVolume Rsync.configVolume (Rsync.configName t).name, Rsync.usersVolume t] := by
  refine isOwn_of_names [Rsync.configVolume, Rsync.secretVolume] rfl (by decide) (by decide) ?_ ?_ (by simp) ?_ ?_
  · simp [Manifest.configMapVolume, Rsync.usersVolume]
  · simp [serverControlFile?, hm]
  · simp [Rsync.serverContainer, Stunnel.sidecarName]
  · refine List.forall_mem_singleton.2 (fits_of_claimMounts List.perm_append_comm rfl ?_ ?_ ?_)
    · simp [Manifest.configMapVolume, Rsync.usersVolume]
    · simp [Rsync.configDir, Rsync.secretDir]
    · simp only [List.forall_mem_cons]
      exact ⟨by decide, by decide, List.forall_mem_nil _⟩

theorem isOwn_rsync_client (t : Transfer) (options : RsyncOptions) (target : Address) :
    t.IsOwn .client (some Control.file) [Rsync.clientContainer t options target] [Control.volume] := by
  refine isOwn_of_names [Control.volumeName] rfl (by decide) (by decide) (by simp [Control.volume]) ?_ (by simp) ?_ ?_
  · rintro file ⟨⟩
    exact ⟨rfl, List.mem_singleton_self _⟩
  · simp [Rsync.clientContainer, Stunnel.sidecarName]
  · refine List.forall_mem_singleton.2 (fits_of_claimMounts (.refl _) rfl ?_ ?_ ?_)
    all_goals decide

theorem isOwn_rclone_server (hm : t.method = .rclone) :
    t.IsOwn .server t.serverControlFile? [Rclone.serverContainer t] [] := by
  refine isOwn_of_names [] rfl (by decide) (by decide) (List.forall_mem_nil _) ?_ (by simp) ?_ ?_
  · simp [serverControlFile?, hm]
  · simp [Rclone.serverContainer, Stunnel.sidecarName]
  · refine List.forall_mem_singleton.2 (fits_of_claimMounts (.of_eq (List.append_nil _).symm) rfl ?_ ?_ ?_)
    all_goals decide

theorem isOwn_rclone_client (t : Transfer) : t.IsOwn .client (some Control.file) [Rclone.clientContainer t]
    [Manifest.secretVolume Rclone.configVolume (Rclone.clientConfigName t).name, Control.volume] := by
  refine isOwn_of_names [Rclone.configVolume, Control.volumeName] rfl (by decide) (by decide) ?_ ?_ (by simp) ?_ ?_
  · simp [Manifest.secretVolume, Control.volume]
  · rintro file ⟨⟩
    exact ⟨rfl, by decide⟩
  · simp [Rclone.clientContainer, Stunnel.sidecarName]
  · refine List.forall_mem_singleton.2 (fits_of_claimMounts (.refl _) rfl ?_ ?_ ?_)
    · simp [Manifest.secretVolume, Control.mount, Control.volume]
    · decide
    · decide

/-- On both sides a proxy runs beside the processes. -/
theorem isOwn_blockrsync (t : Transfer) (side : Side) (script : String) (arguments : List String) :
    t.IsOwn side (some Control.file) [Blockrsync.payload t side script, Blockrsync.proxy t arguments]
      [Control.volume] := by
  refine isOwn_of_names [Control.volumeName] rfl (by decide) (by decide) (by simp [Control.volume]) ?_ ?_ ?_ ?_
  · rintro file ⟨⟩
    exact ⟨rfl, List.mem_singleton_self _⟩
  · simp [Blockrsync.payload, Blockrsync.proxy]
  · simp [Blockrsync.payload, Blockrsync.proxy, Stunnel.sidecarName]
  · exact List.forall_mem_cons.2 ⟨Blockrsync.fits_payload t side script,
      List.forall_mem_singleton.2 (Blockrsync.fits_proxy t side arguments)⟩

/-- The pods of a server's side run its own containers beside those of the transport. -/
theorem podSpec?_server (t : Transfer) : ∃ ks others restart,
    t.server.podSpec? = some (t.podSpec .server ks (t.claimVolumes .server ++ others) restart) ∧
      t.IsOwn .server t.serverControlFile? ks others := by
  cases hm : t.method with
  | rsync options =>
    rw [server_eq_rsync hm]
    exact ⟨_, _, _, rfl, isOwn_rsync_server hm⟩
  | rclone =>
    rw [server_eq_rclone hm]
    refine ⟨[Rclone.serverContainer t], [], none, ?_, isOwn_rclone_server hm⟩
    rw [List.append_nil]
    rfl
  | blockrsync options =>
    rw [server_eq_blockrsync hm, show t.serverControlFile? = some Control.file by unfold serverControlFile?; rw [hm]]
    exact ⟨_, _, _, rfl, isOwn_blockrsync t .server _ _⟩

theorem podSpec?_client (t : Transfer) (target : Address) : ∃ ks others restart,
    (t.client target).podSpec? = some (t.podSpec .client ks (t.claimVolumes .client ++ others) restart) ∧
      t.IsOwn .client (some Control.file) ks others := by
  cases hm : t.method with
  | rsync options =>
    rw [client_eq_rsync hm]
    exact ⟨_, _, _, rfl, isOwn_rsync_client t options target⟩
  | rclone =>
    rw [client_eq_rclone hm]
    exact ⟨_, _, _, rfl, isOwn_rclone_client t⟩
  | blockrsync options =>
    rw [client_eq_blockrsync hm]
    exact ⟨_, _, _, rfl, isOwn_blockrsync t .client _ _⟩

/-! ## The pods that are created -/

/-- The pod that an object runs for a side. It is well formed, it has a volume for every claim of the side, in order,
and it has one side-car of a tunnel, or none without a tunnel. The claims have names of their own in its namespace. -/
structure SidePod (t : Transfer) (side : Side) (o : Object) (p : PodSpec) : Prop where
  wellFormed : p.WellFormed
  bound : p.boundClaims = (t.claims side).map (·.name)
  apart : ((t.claims side).map (·.name)).Nodup
  place : ∀ claim ∈ t.claims side, o.metadata.ns = some claim.ns
  sidecars : (p.containers.filter (·.name == Stunnel.sidecarName)).length = if t.transport.isDirect then 0 else 1

/-- The claims of a side lie where the side is created. -/
theorem ns_claims (hplace : t.endpoint.name.ns = t.pairs.destinationNamespace) {claim : Claim}
    (h : claim ∈ t.claims side) : claim.ns = t.namespaceOf side := by
  have hfirst : t.pairs.first ∈ t.pairs.pairs := List.head_mem _
  cases side with
  | server =>
    obtain ⟨p, hp, rfl⟩ := List.mem_map.1 h
    exact (t.pairs.destinationNs_eq hp hfirst).trans hplace.symm
  | client =>
    obtain ⟨p, hp, rfl⟩ := List.mem_map.1 h
    exact t.pairs.sourceNs_eq hp hfirst

theorem sidePod_of_own {o : Object} {p : PodSpec} (hplace : t.endpoint.name.ns = t.pairs.destinationNamespace)
    (hns : o.metadata.ns = some (t.namespaceOf side)) (hown : t.IsOwn side controlFile ks others)
    (hsidecars : t.HasSidecars side controlFile)
    (hp : p = t.podSpec side ks (t.claimVolumes side ++ others) restart) : t.SidePod side o p := by
  subst hp
  exact ⟨podSpec_wellFormed hown hsidecars, boundClaims_podSpec hown hsidecars, t.nodup_claims side,
    fun claim hclaim => (ns_claims hplace hclaim).symm ▸ hns, length_sidecars hown hsidecars⟩

theorem Rewired.trans (h : t.Rewired u) (h' : u.Rewired v) : t.Rewired v := by
  obtain ⟨transport, rfl, hdirect⟩ := h
  obtain ⟨transport', rfl, hdirect'⟩ := h'
  exact ⟨transport', rfl, hdirect'.trans hdirect⟩

theorem rewired_asServer (t : Transfer) (issued : TlsMaterial) : t.Rewired (t.asServer issued) :=
  ⟨_, rfl, by cases t.transport <;> rfl⟩

theorem rewired_asClient (t : Transfer) : t.Rewired t.asClient := ⟨_, rfl, by cases t.transport <;> rfl⟩

/-- What is asked of a pod depends on a transport only as far as it is a tunnel. -/
theorem SidePod.of_rewired {o : Object} {p : PodSpec} (h : t.Rewired u) (hp : u.SidePod side o p) :
    t.SidePod side o p := by
  obtain ⟨transport, rfl, hdirect⟩ := h
  exact ⟨hp.wellFormed, hp.bound, hp.apart, hp.place, hdirect ▸ hp.sidecars⟩

theorem sidePod_server {o : Object} {p : PodSpec} (hplace : t.endpoint.name.ns = t.pairs.destinationNamespace)
    (halike : o.Alike (t.asServer issued).server) (hp : o.podSpec? = some p) : t.SidePod .server o p := by
  obtain ⟨ks, others, restart, hspec, hown⟩ := podSpec?_server (t.asServer issued)
  rw [← halike.podSpec?_eq, hp] at hspec
  have hns := halike.ns_eq.trans (ns_server t issued)
  exact .of_rewired (t.rewired_asServer issued)
    (sidePod_of_own hplace hns hown (t.hasSidecars_asServer issued) (Option.some.inj hspec))

theorem sidePod_client {o : Object} {p : PodSpec} (hplace : t.endpoint.name.ns = t.pairs.destinationNamespace)
    (halike : o.Alike (t.asClient.client target)) (hp : o.podSpec? = some p) : t.SidePod .client o p := by
  obtain ⟨ks, others, restart, hspec, hown⟩ := podSpec?_client t.asClient target
  rw [← halike.podSpec?_eq, hp] at hspec
  have hns := halike.ns_eq.trans (ns_client t target)
  exact .of_rewired t.rewired_asClient (sidePod_of_own hplace hns hown t.hasSidecars_asClient (Option.some.inj hspec))

/-- The transfer after sides of it, or of its transport alone, were created any number of times, whatever came
of that. -/
inductive Retries (t : Transfer) : Transfer → Prop where
  | nothing : t.Retries t
  | transportServer {u v : Transfer} {c c' : Cluster} {r : Result Unit} {issued : TlsMaterial} {id : String}
      {e : Endpoint} {port : Nat} {controlFile : Option String} (hu : t.Retries u)
      (h : outcome (onTransport (Transport.createServer issued id e port controlFile)) (u, c) = (r, (v, c'))) :
      t.Retries v
  | transportClient {u v : Transfer} {c c' : Cluster} {r : Result Unit} {ns id : String} {e : Endpoint}
      {controlFile : Option String} (hu : t.Retries u)
      (h : outcome (onTransport (Transport.createClient ns id e controlFile)) (u, c) = (r, (v, c'))) : t.Retries v
  | side {u v : Transfer} {c c' : Cluster} {r : Result Unit} {issued : TlsMaterial} {side : Side} (hu : t.Retries u)
      (h : outcome (createSide issued side) (u, c) = (r, (v, c'))) : t.Retries v

theorem Retries.rewired (h : t.Retries u) : t.Rewired u := by
  induction h with
  | nothing => exact ⟨t.transport, rfl, rfl⟩
  | @transportServer u v c c' r issued id e port controlFile hu h ih =>
    have hend := rewires_transportServer issued id e port controlFile u c ih
    rwa [h] at hend
  | @transportClient u v c c' r ns id e controlFile hu h ih =>
    have hend := rewires_transportClient ns id e controlFile u c ih
    rwa [h] at hend
  | side hu h ih => exact ih.trans (createSide_transfer h)

/-- However a side is created, and however often it or its transport was created before, what runs of it are pods of
the side. A creation that succeeds leaves one. -/
theorem Arises.sidePod (harises : t.Arises) (hretries : t.Retries u)
    (hrun : outcome (createSide issued side) (u, c) = (r, (v, c'))) :
    (r = .ok () → ∃ o p, c.Produces c' o ∧ o.podSpec? = some p) ∧
      ∀ o p, c.Produces c' o → o.podSpec? = some p → t.SidePod side o p := by
  have hrewired := hretries.rewired
  have hplace : u.endpoint.name.ns = u.pairs.destinationNamespace :=
    (checkCompatible_ok (hrewired.checked harises.checked)).1
  cases side with
  | server =>
    refine ⟨?_, fun o p ho hp => ?_⟩
    · rintro rfl
      obtain ⟨⟨o, ho, halike⟩, -⟩ := createServer_produces_ok hrun
      obtain ⟨ks, others, restart, hspec, -⟩ := podSpec?_server (u.asServer issued)
      exact ⟨o, _, ho, halike.podSpec?_eq.trans hspec⟩
    · have halike := (createServer_produces hrun ho).1 (Object.kind_of_podSpec? hp)
      exact .of_rewired hrewired (sidePod_server hplace halike hp)
  | client =>
    refine ⟨?_, fun o p ho hp => ?_⟩
    · rintro rfl
      obtain ⟨target, o, -, ho, halike⟩ := createClient_produces_ok hrun
      obtain ⟨ks, others, restart, hspec, -⟩ := podSpec?_client u.asClient target
      exact ⟨o, _, ho, halike.podSpec?_eq.trans hspec⟩
    · obtain ⟨target, -, halike⟩ := createClient_produces hrun ho (Object.kind_of_podSpec? hp)
      exact .of_rewired hrewired (sidePod_client hplace halike hp)

/-- Disks that go through a tunnel, with a side-car from before, and the cluster with the tunnel's files. -/
def tunnelledBefore : Transfer × Cluster :=
  (outcome (onTransport (Transport.createServer diskMaterial disks.id disks.endpoint Blockrsync.proxyPort
    (some Control.file))) (tunnelledDisks none, {})).2

/-- The cluster with the server's side. -/
def depotWithServer : Cluster := (outcome (createServer diskMaterial) tunnelledBefore).2.2

theorem Arises.sidePod_tunnelledBefore :
    (tunnelledDisks none).Arises ∧ (tunnelledDisks none).Retries tunnelledBefore.1 ∧
    (tunnelledBefore.1.sidecars .server).length = 1 ∧
    ∃ o p, tunnelledBefore.2.Produces depotWithServer o ∧ o.podSpec? = some p ∧
      (tunnelledDisks none).SidePod .server o p := by
  have harises : (tunnelledDisks none).Arises := .new (new_of_checks (by decide +kernel) (by decide +kernel) rfl)
  have hretries : (tunnelledDisks none).Retries tunnelledBefore.1 := .transportServer .nothing rfl
  have hrun : outcome (createSide diskMaterial .server) (tunnelledBefore.1, tunnelledBefore.2) =
      (.ok (), ((outcome (createServer diskMaterial) tunnelledBefore).2.1, depotWithServer)) :=
    outcome_of_toOption (by decide +kernel)
  obtain ⟨hleft, hpods⟩ := Arises.sidePod harises hretries hrun
  obtain ⟨o, p, ho, hp⟩ := hleft rfl
  exact ⟨harises, hretries, by decide +kernel, o, p, ho, hp, hpods o p ho hp⟩

end Transfer

end VolumeMigration
