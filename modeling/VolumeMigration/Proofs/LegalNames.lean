import VolumeMigration.Proofs.ResolvedClaims
import VolumeMigration.Proofs.RouteHosts
import VolumeMigration.Proofs.SelectedPods
/-!
# Names that a cluster accepts

A claim may have any name. What is named after it has the hash of that name
instead, which the claim was given when it was made and which is the hash of its
name however it came by it (`Claim.Carries.eq_identity`). So no list of pairs is
turned down for a hash, the objects that both sides of a planned transfer write
have names that are labels, and the labels that the program sets on them have
legal values (`generatedNames_legal`).
-/

namespace VolumeMigration

open Attempt
open Cluster (Logs)

/-! ## Hashes of claims -/

namespace Claim

/-- The hash that a claim carries, for each way to make one: it is taken when a claim is read, named, renamed or
completed as a destination, and kept when a claim gets a volume mode or an annotation. -/
inductive Carries : Claim → String → Prop where
  | read (c : Claim) : Carries c (Text.md5Hex c.metadata.lookupName)
  | named (n : ObjectName) : Carries (.named n) (Text.md5Hex n.name)
  | renamed {c : Claim} {hash : String} (h : Carries c hash) (n : ObjectName) :
    Carries (c.renamed n) (Text.md5Hex (if n.name = "" then c.name else n.name))
  | withMode {c : Claim} {hash : String} (h : Carries c hash) (mode : String) : Carries (c.withMode mode) hash
  | annotate {c : Claim} {hash : String} (h : Carries c hash) (key value : String) : Carries (c.annotate key value) hash
  /-- A source without a destination is its own. -/
  | unpaired {source : Claim} {hash : String} (h : Carries source hash) :
    Carries (Pair.ofClaims source none).destination hash
  /-- A destination that is named in full stays as it is. -/
  | paired (source : Claim) {d : Claim} {hash : String} (h : Carries d hash) (hns : d.ns ≠ "") (hname : d.name ≠ "") :
    Carries (Pair.ofClaims source (some d)).destination hash
  /-- A destination that lacks a part of its name is renamed. -/
  | completed (source : Claim) {d : Claim} (hlacks : d.ns = "" ∨ d.name = "") :
    Carries (Pair.ofClaims source (some d)).destination (Text.md5Hex (if d.name = "" then source.name else d.name))

variable {c d : Claim} {hash : String}

theorem name_renamed (c : Claim) (n : ObjectName) : (c.renamed n).name = if n.name = "" then c.name else n.name := by
  by_cases hn : n.name = "" <;> simp [renamed, name, objectName, Metadata.lookupName, hn]

/-- A destination that lacks a part of its name has the source's name if it has none. -/
theorem name_destination (source : Claim) (hlacks : d.ns = "" ∨ d.name = "") :
    (Pair.ofClaims source (some d)).destination.name = if d.name = "" then source.name else d.name := by
  have hpart : (d.name.isEmpty || d.ns.isEmpty) = true := by simpa using hlacks.symm
  unfold Pair.ofClaims
  simp only [if_pos hpart, name_renamed, String.isEmpty_iff]
  by_cases hd : d.name = ""
  · by_cases hs : source.name = "" <;> simp [hd, hs]
  · simp [hd]

/-- The hash that a claim carries is that of the name that it has now. -/
theorem Carries.eq_identity (h : Carries c hash) : hash = c.identity := by
  induction h with
  | read c | named n => rfl
  | @renamed c hash h n ih => rw [identity, name_renamed]
  | withMode h mode ih | annotate h key value ih | unpaired h ih => exact ih
  | paired source h hns hname ih => rwa [Pair.ofClaims_of_named hns hname]
  | completed source hlacks => rw [identity, name_destination source hlacks]

end Claim

/-- What is reported of pairs is never that the hash of a name is no legal label value. -/
theorem PairList.illegalIdentity_not_mem_faults (pairs : List Pair) (pair : PairName) (identity : String)
    (fault : Label.ValueFault) : PairingFault.illegalIdentity pair identity fault ∉ faults pairs := fun h =>
  Bool.false_ne_true (rule?_isSome_of_mem_faults h)

/-! ## Names that end with a hash -/

namespace Text

/-- A name that is one label. -/
def IsDnsLabel (s : String) : Prop := isLabel s.toList = true ∧ s.length ≤ 63

/-- The beginning of a name: a label and a dash, short enough for a digest behind them. -/
def isStem (s : String) : Bool :=
  isLabel s.toList.dropLast && s.toList.getLast? == some '-' && s.length ≤ 31

variable {s stem id : String}

theorem toList_of_isStem (h : isStem stem = true) : stem.toList = stem.toList.dropLast ++ ['-'] := by
  simp only [isStem, Bool.and_eq_true, beq_iff_eq] at h
  exact (List.dropLast_append_getLast? '-' h.1.2).symm

theorem isDnsLabel_append (hstem : isStem stem = true) (hid : IsDigest id) : IsDnsLabel (stem ++ id) := by
  have hparts := hstem
  simp only [isStem, Bool.and_eq_true, decide_eq_true_eq] at hparts
  constructor
  · rw [String.toList_append, toList_of_isStem hstem, List.append_assoc, List.singleton_append]
    exact isLabel_append hparts.1.1 (isLabel_of_isDigest hid)
  · have hlength : id.length = 32 := by rw [← String.length_toList, hid.1]
    rw [String.length_append, hlength]
    exact Nat.add_le_add_right hparts.2 32

end Text

/-! ## Labels with legal values -/

namespace Label

/-- The keys of the labels that the program sets. -/
def ownKeys : List String := [transfer, component, managedBy]

/-- Labels that tell the transfer and the manager. Every value is legal that was not given under another key than the
program's. -/
structure Marked (id : String) (given labels : StringMap) : Prop where
  transfer : labels.get? Label.transfer = some id
  manager : labels.get? managedBy = some manager
  legal : ∀ key value, labels.get? key = some value →
    valueFault? value = none ∨ key ∉ ownKeys ∧ given.get? key = some value

variable {id part : String} {given labels : StringMap}

theorem Marked.withManager (h : Marked id given labels) : Marked id given (withManager labels) where
  transfer := by rw [Label.withManager, SortedMap.get?_insert_of_ne _ _ (by decide), h.transfer]
  manager := SortedMap.get?_insert_self _ _ _
  legal key value hvalue := by
    rw [Label.withManager, SortedMap.get?_insert] at hvalue
    split at hvalue
    · cases hvalue
      exact .inl (by decide)
    · exact h.legal key value hvalue

/-- The part in the transfer, on top of labels that tell the transfer, on top of what was given. -/
theorem Marked.merge_insert (h : Marked id given labels) (hpart : valueFault? part = none) :
    Marked id given ((given.merge labels).insert component part) where
  transfer := by
    rw [SortedMap.get?_insert_of_ne _ _ (by decide)]
    exact SortedMap.merge_includes _ _ _ _ h.transfer
  manager := by
    rw [SortedMap.get?_insert_of_ne _ _ (by decide)]
    exact SortedMap.merge_includes _ _ _ _ h.manager
  legal key value hvalue := by
    by_cases hcomponent : key = component
    · rw [hcomponent, SortedMap.get?_insert_self] at hvalue
      cases hvalue
      exact .inl hpart
    · rw [SortedMap.get?_insert_of_ne _ _ hcomponent, SortedMap.get?_merge] at hvalue
      cases hlabel : labels.get? key with
      | some own =>
        rw [hlabel] at hvalue
        cases hvalue
        exact h.legal key _ hlabel
      | none =>
        rw [hlabel] at hvalue
        refine .inr ⟨fun hown => ?_, hvalue⟩
        simp only [ownKeys, List.mem_cons, List.not_mem_nil, or_false] at hown
        rcases hown with rfl | rfl | rfl
        · cases h.transfer.symm.trans hlabel
        · exact hcomponent rfl
        · cases h.manager.symm.trans hlabel

/-- The manager and the part in the transfer, on top of the transfer, on top of some of what was given. -/
theorem marked_insert {base : StringMap} (hid : valueFault? id = none) (hpart : valueFault? part = none)
    (hbase : given.Includes base) :
    Marked id given (withManager ((base.insert transfer id).insert component part)) where
  transfer := by
    rw [withManager, SortedMap.get?_insert_of_ne _ _ (by decide), SortedMap.get?_insert_of_ne _ _ (by decide),
      SortedMap.get?_insert_self]
  manager := SortedMap.get?_insert_self _ _ _
  legal key value hvalue := by
    rw [withManager, SortedMap.get?_insert, SortedMap.get?_insert, SortedMap.get?_insert] at hvalue
    split at hvalue
    · cases hvalue
      exact .inl (by decide)
    · split at hvalue
      · cases hvalue
        exact .inl hpart
      · split at hvalue
        · cases hvalue
          exact .inl hid
        · exact .inr ⟨by simp [ownKeys, *], hbase key value hvalue⟩

/-- The labels of a planned endpoint. -/
theorem marked_ofList (hid : valueFault? id = none) : Marked id given (withManager (.ofList [(transfer, id)])) where
  transfer := by
    rw [withManager, SortedMap.get?_insert_of_ne _ _ (by decide)]
    exact SortedMap.get?_ofList_singleton _ _
  manager := SortedMap.get?_insert_self _ _ _
  legal key value hvalue := by
    have honly : (SortedMap.ofList [(transfer, id)]).get? key = if key = transfer then some id else none :=
      SortedMap.get?_insert _ _ _ _
    rw [withManager, SortedMap.get?_insert, honly] at hvalue
    split at hvalue
    · cases hvalue
      exact .inl (by decide)
    · split at hvalue
      · cases hvalue
        exact .inl hid
      · cases hvalue

end Label

/-! ## Objects with legal names and labels -/

namespace Object

/-- The labels of an object, those of the pods that it makes, and those that it looks for in pods. -/
def labelMaps (o : Object) : List StringMap :=
  o.labelMap :: match o.content with
    | .deployment (some spec) =>
      spec.selector.matchLabels.toList ++ (spec.template.metadata.map (·.labelMap)).toList
    | .service (some spec) _ => spec.selector.toList
    | _ => []

/-- An object of a transfer whose name is a label, and whose labels are legal as far as they were not given. -/
structure IsLegal (id : String) (given : StringMap) (o : Object) : Prop where
  name : Text.IsDnsLabel o.key.name
  labels : ∀ labels ∈ o.labelMaps, Label.Marked id given labels

variable {o a : Object} {id : String} {n : ObjectName} {given labels : StringMap}

theorem IsLegal.of_alike (h : a.IsLegal id given) (halike : o.Alike a) : o.IsLegal id given := by
  have hmaps : o.labelMaps = a.labelMaps := by
    unfold labelMaps
    rw [halike.labelMap_eq, halike.content_eq]
  exact ⟨halike.key_eq ▸ h.name, hmaps ▸ h.labels⟩

/-- An object without labels but its own. -/
theorem isLegal_of_labelMap (hname : Text.IsDnsLabel o.key.name) (hmaps : o.labelMaps = [labels])
    (hlabels : Label.Marked id given labels) : o.IsLegal id given :=
  ⟨hname, by simpa [hmaps] using hlabels⟩

theorem isLegal_deployment {spec : PodSpec} (hname : Text.IsDnsLabel n.name) (hlabels : Label.Marked id given labels) :
    (Manifest.deployment n labels spec).IsLegal id given := by
  have hmaps : (Manifest.deployment n labels spec).labelMaps = [Label.withManager labels, labels, labels] := rfl
  refine ⟨hname, ?_⟩
  simp only [hmaps, List.forall_mem_cons, List.not_mem_nil, false_implies, implies_true, and_true]
  exact ⟨hlabels.withManager, hlabels, hlabels⟩

end Object

/-! ## Steps -/

/-- Whatever a step writes is legal. -/
def WriteStep.IsLegal (id : String) (given : StringMap) (s : WriteStep) : Prop :=
  ∀ c o, s.object c = .ok o → o.IsLegal id given

/-- What was written is legal, and everything else is as it was. -/
structure Cluster.WritesLegally (id : String) (given : StringMap) (c c' : Cluster) : Prop where
  written : ∀ key, Logs c c' key → ∃ o, c'.objects.get? key = some o ∧ o.key = key ∧ o.IsLegal id given
  kept : ∀ key, ¬Logs c c' key → c'.objects.get? key = c.objects.get? key

theorem Cluster.Made.writesLegally {c c' : Cluster} {steps : List WriteStep} {id : String} {given : StringMap}
    (h : c.Made steps c') (hlegal : ∀ s ∈ steps, s.IsLegal id given) : c.WritesLegally id given c' where
  written key hkey := by
    obtain ⟨s, hs, rfl⟩ := h.logs_iff.1 hkey
    obtain ⟨a, hobject, o, ho, halike⟩ := h.holds s hs
    have hkey := WriteStep.key_object hobject
    rw [hkey] at ho
    exact ⟨o, ho, halike.key_eq.trans hkey, (hlegal s hs c a hobject).of_alike halike⟩
  kept key hkey := h.kept key fun hmem => hkey (h.logs_iff.2 (List.mem_map.1 hmem))

namespace WriteStep

variable {id : String} {given : StringMap} {o payload : Object} {own tunnel : List Object} {s : WriteStep}
    {e : Endpoint}

theorem isLegal_create (h : o.IsLegal id given) : (create o).IsLegal id given := by
  rintro c _ ⟨⟩
  exact h

theorem isLegal_upsert (h : o.IsLegal id given) : (upsert o).IsLegal id given := by
  rintro c _ ⟨⟩
  exact h

theorem isLegal_of_mem_sideSteps (hown : ∀ o ∈ own, o.IsLegal id given) (htunnel : ∀ o ∈ tunnel, o.IsLegal id given)
    (hpayload : payload.IsLegal id given) (h : s ∈ sideSteps own tunnel payload) : s.IsLegal id given := by
  simp only [sideSteps, List.mem_append, List.mem_map, List.mem_singleton] at h
  rcases h with (⟨o, ho, rfl⟩ | ⟨o, ho, rfl⟩) | rfl
  · exact isLegal_create (hown o ho)
  · exact isLegal_upsert (htunnel o ho)
  · exact isLegal_create hpayload

theorem isLegal_of_mem_writeSteps (hname : Text.IsDnsLabel e.name.name) (hlabels : Label.Marked id given e.labels)
    (h : s ∈ e.writeSteps) : s.IsLegal id given := by
  unfold Endpoint.writeSteps at h
  rcases List.mem_cons.1 h with rfl | hrouter
  · have hmaps : e.service.labelMaps = [Label.withManager e.labels, e.labels] := rfl
    refine isLegal_create ⟨hname, ?_⟩
    simp only [hmaps, List.forall_mem_cons, List.not_mem_nil, false_implies, implies_true, and_true]
    exact ⟨hlabels.withManager, hlabels⟩
  · cases hentry : e.entry <;> simp only [hentry, List.mem_singleton, List.not_mem_nil] at hrouter
    case route termination subdomain hostname =>
      subst hrouter
      intro c o ho
      obtain ⟨host, -, rfl⟩ := Endpoint.object_route ho
      exact Object.isLegal_of_labelMap hname rfl hlabels.withManager
    case ingress className hostname =>
      subst hrouter
      exact isLegal_create (Object.isLegal_of_labelMap hname rfl hlabels.withManager)

end WriteStep

/-! ## Both sides -/

namespace Transfer

/-- The endpoint has a legal name and tells which transfer it belongs to. -/
structure WellNamed (t : Transfer) : Prop where
  name : Text.IsDnsLabel t.endpoint.name.name
  labels : Label.Marked t.id t.workload.labels t.endpoint.labels

/-- The object may be one that the transfer creates. -/
abbrev Allows (t : Transfer) (o : Object) : Prop := o.IsLegal t.id t.workload.labels

variable {t t' : Transfer} {issued : TlsMaterial} {c c' : Cluster} {r : Result Unit}

/-- A transfer is named after a claim, whatever the claim is called. -/
theorem isDigest_id (t : Transfer) : Text.IsDigest t.id := Text.isDigest_md5Hex _

theorem valueFault?_id (t : Transfer) : Label.valueFault? t.id = none := Label.valueFault?_md5Hex _

theorem valueFault?_component (t : Transfer) (side : Side) : Label.valueFault? (t.component side) = none := by
  unfold component
  cases t.type <;> cases side <;> decide

theorem isDnsLabel_objectName (t : Transfer) (side : Side) {stem : String} (h : Text.isStem stem = true) :
    Text.IsDnsLabel (t.objectName side stem).name := by
  cases side <;> exact Text.isDnsLabel_append h t.isDigest_id

theorem WellNamed.serverLabels (h : t.WellNamed) : Label.Marked t.id t.workload.labels t.serverLabels :=
  h.labels.merge_insert (t.valueFault?_component .server)

theorem marked_clientLabels (t : Transfer) : Label.Marked t.id t.workload.labels (Label.withManager t.clientLabels) :=
  Label.marked_insert t.valueFault?_id (t.valueFault?_component .client) fun _ _ h => h

theorem isLegal_tunnel {ns config : String} (t : Transfer) (side : Side) {material : TlsMaterial} :
    ∀ o ∈ Stunnel.objects ns t.id side config material, t.Allows o := by
  have hpart : Label.valueFault? s!"stunnel-{side}" = none := by cases side <;> decide
  have hgiven : t.workload.labels.Includes .empty := nofun
  have hlabels : Label.Marked t.id t.workload.labels (Label.withManager (Stunnel.labels t.id side)) :=
    Label.marked_insert t.valueFault?_id hpart hgiven
  simp only [Stunnel.objects, List.forall_mem_cons, List.not_mem_nil, false_implies, implies_true, and_true]
  exact ⟨Object.isLegal_of_labelMap (Text.isDnsLabel_append (by decide) t.isDigest_id) rfl hlabels,
    Object.isLegal_of_labelMap (Text.isDnsLabel_append (by decide) t.isDigest_id) rfl hlabels⟩

theorem isLegal_serverFiles (h : t.WellNamed) : ∀ o ∈ t.serverFiles, t.Allows o := by
  have hlabels := h.serverLabels.withManager
  unfold serverFiles
  cases t.method with
  | rsync options =>
    simp only [Rsync.serverFiles, List.forall_mem_cons, List.not_mem_nil, false_implies, implies_true, and_true]
    exact ⟨Object.isLegal_of_labelMap (t.isDnsLabel_objectName .server (by decide)) rfl hlabels,
      Object.isLegal_of_labelMap (t.isDnsLabel_objectName .server (by decide)) rfl hlabels⟩
  | rclone =>
    exact List.forall_mem_singleton.2
      (Object.isLegal_of_labelMap (t.isDnsLabel_objectName .server (by decide)) rfl hlabels)
  | blockrsync options => simp

theorem isLegal_server (h : t.WellNamed) (issued : TlsMaterial) : t.Allows (t.asServer issued).server := by
  unfold server
  rw [show (t.asServer issued).method = t.method from rfl]
  cases t.method with
  | rsync options | rclone =>
    exact Object.isLegal_deployment (t.isDnsLabel_objectName .server (by decide)) h.serverLabels
  | blockrsync options =>
    exact Object.isLegal_of_labelMap (t.isDnsLabel_objectName .server (by decide)) rfl h.serverLabels.withManager

theorem isLegal_clientFiles (t : Transfer) (target : Address) : ∀ o ∈ t.clientFiles target, t.Allows o := by
  unfold clientFiles
  cases t.method with
  | rsync options | rclone =>
    exact List.forall_mem_singleton.2
      (Object.isLegal_of_labelMap (t.isDnsLabel_objectName .client (by decide)) rfl t.marked_clientLabels)
  | blockrsync options => simp

theorem isLegal_client (t : Transfer) (target : Address) : t.Allows (t.asClient.client target) := by
  unfold client
  rw [show t.asClient.method = t.method from rfl]
  cases t.method <;>
    exact Object.isLegal_of_labelMap (t.isDnsLabel_objectName .client (by decide)) rfl t.marked_clientLabels

theorem createServer_writesLegally (hrun : outcome (createServer issued) (t, c) = (r, (t', c'))) (h : t.WellNamed) :
    c.WritesLegally t.id t.workload.labels c' := by
  obtain ⟨tunnel, made, htunnel, hmade, hsteps, -⟩ := createServer_steps hrun
  have hfiles : ∀ o ∈ tunnel, t.Allows o := by
    rcases htunnel with hok | rfl
    · obtain ⟨-, rfl⟩ | ⟨-, config, material, rfl⟩ := Transport.serverObjects_ok hok
      · simp
      · exact t.isLegal_tunnel .server
    · simp
  refine hmade.writesLegally fun s hs => ?_
  rcases List.mem_append.1 (hsteps s hs) with hside | hpart
  · exact WriteStep.isLegal_of_mem_sideSteps (isLegal_serverFiles h) hfiles (isLegal_server h issued) hside
  · exact WriteStep.isLegal_of_mem_writeSteps h.name h.labels hpart

theorem createClient_writesLegally (hrun : outcome createClient (t, c) = (r, (t', c'))) :
    c.WritesLegally t.id t.workload.labels c' := by
  obtain ⟨made, hmade, ⟨rfl, -⟩ | ⟨target, tunnel, -, htunnel, hsteps, -⟩⟩ := createClient_steps hrun
  · exact hmade.writesLegally (by simp)
  · have hfiles : ∀ o ∈ tunnel, t.Allows o := by
      rcases htunnel with hok | rfl
      · obtain ⟨-, rfl⟩ | ⟨-, config, material, rfl⟩ := Transport.clientObjects_ok hok
        · simp
        · exact t.isLegal_tunnel .client
      · simp
    exact hmade.writesLegally fun s hs =>
      WriteStep.isLegal_of_mem_sideSteps (t.isLegal_clientFiles target) hfiles (t.isLegal_client target) (hsteps s hs)

end Transfer

/-! ## Plans -/

theorem MigrationConfig.plan_wellNamed {config : MigrationConfig} {password : String} {s s' : Cluster × Cluster}
    {t : Transfer} (h : outcome (config.plan password) s = (.ok t, s')) : t.WellNamed := by
  obtain ⟨hname, hlabels⟩ := buildEndpoint_ok (plan_endpoint h)
  refine ⟨?_, ?_⟩
  · rw [hname]
    exact Text.isDnsLabel_append (by decide) t.isDigest_id
  · rw [hlabels]
    exact Label.marked_ofList t.valueFault?_id

/-- However the creation of a side ends, over whatever connection, what it wrote is legal. -/
structure Transfer.CreatesLegally (t : Transfer) : Prop where
  server {transport : Transport} {issued : TlsMaterial} {c c' : Cluster} {t' : Transfer} {r : Result Unit}
    (hrun : outcome (createServer issued) ({ t with transport }, c) = (r, (t', c'))) :
    c.WritesLegally t.id t.workload.labels c'
  client {endpoint : Endpoint} {transport : Transport} {c c' : Cluster} {t' : Transfer} {r : Result Unit}
    (hrun : outcome createClient ({ t with endpoint, transport }, c) = (r, (t', c'))) :
    c.WritesLegally t.id t.workload.labels c'

/-- Whatever a claim is called and however it was made, it carries the hash of its name, which is a legal label value.
So no list of pairs is turned down for one, and whatever a planned transfer creates has a name that is a label, and
legal values in the labels that the program sets. -/
theorem generatedNames_legal :
    (∀ name, Text.IsDigest (Text.md5Hex name) ∧ Label.valueFault? (Text.md5Hex name) = none) ∧
    (∀ c hash, Claim.Carries c hash → hash = c.identity ∧ hash = Text.md5Hex c.name) ∧
    (∀ pairs failure, PairList.ofPairs pairs = .error failure →
      failure = .validation ((PairList.faults pairs).map (·.message)) ∧
      ∀ pair identity fault, PairingFault.illegalIdentity pair identity fault ∉ PairList.faults pairs) ∧
    ∀ (config : MigrationConfig) password s t s', outcome (config.plan password) s = (.ok t, s') →
      t.CreatesLegally := by
  refine ⟨fun name => ⟨Text.isDigest_md5Hex name, Label.valueFault?_md5Hex name⟩,
    fun c hash h => ⟨h.eq_identity, by rw [h.eq_identity, Claim.identity]⟩, fun pairs failure hfailure => ?_,
    fun config password s t s' hplan => ?_⟩
  · have hfaults : PairList.faults pairs ≠ [] := by
      intro hnone
      cases hfailure.symm.trans (PairList.ofPairs_eq_ok.2 (rfl : (PairList.mk pairs hnone).pairs = pairs))
    rw [PairList.ofPairs_eq_error hfaults] at hfailure
    cases hfailure
    exact ⟨rfl, PairList.illegalIdentity_not_mem_faults pairs⟩
  · have hnamed := MigrationConfig.plan_wellNamed hplan
    refine ⟨fun hrun => ?_, fun hrun => ?_⟩
    · have hwrites := Transfer.createServer_writesLegally hrun ⟨hnamed.name, hnamed.labels⟩
      exact hwrites
    · have hwrites := Transfer.createClient_writesLegally hrun
      exact hwrites

/-- A claim whose name is no label value, that was renamed within its namespace and annotated. -/
def renamedOrders : Claim := ((Claim.named ⟨"shop", "data"⟩).renamed ⟨"", "Orders: été"⟩).annotate "checked" "yes"

/-- Pairs that copy one claim to two places, and one that has no name to itself. -/
def garbledPairs : List Pair :=
  [Pair.ofClaims renamedOrders (some (.named ⟨"depot", ""⟩)),
    Pair.ofClaims renamedOrders (some (.named ⟨"depot", "orders"⟩)), Pair.ofClaims (.named ⟨"shop", ""⟩) none]

theorem generatedNames_legal_withinShop :
    (∃ hash, renamedOrders.Carries hash ∧ hash = Text.md5Hex "Orders: été" ∧ Label.valueFault? hash = none) ∧
    (PairList.ofPairs garbledPairs = .error (.validation
        ["pvc list spans destination namespaces depot, shop", "source shop/Orders: été appears more than once",
          "pair shop/ -> shop/: claim name is empty", "pair shop/ -> shop/: claim name is empty"]) ∧
      ∀ pair identity fault, PairingFault.illegalIdentity pair identity fault ∉ PairList.faults garbledPairs) ∧
    ∃ t after t' d' u' c', outcome (Transfer.withinShop.plan "secret") (Transfer.shop, Transfer.shop) = (.ok t, after) ∧
      outcome (Transfer.createServer default) (t, Transfer.shop) = (.ok (), (t', d')) ∧
      outcome Transfer.createClient (t, d') = (.ok (), (u', c')) ∧
      (∃ o, Transfer.shop.Produces d' o ∧ o.kind = .service ∧ o.IsLegal t.id t.workload.labels) ∧
      Transfer.shop.WritesLegally t.id t.workload.labels d' ∧ d'.WritesLegally t.id t.workload.labels c' := by
  obtain ⟨hdigest, hcarries, hpairs, hplans⟩ := generatedNames_legal
  have hcarried : renamedOrders.Carries (Text.md5Hex "Orders: été") :=
    ((Claim.Carries.named ⟨"shop", "data"⟩).renamed ⟨"", "Orders: été"⟩).annotate "checked" "yes"
  have hgarbled : PairList.ofPairs garbledPairs = .error _ := PairList.ofPairs_eq_error (by decide +kernel)
  have hmessages : (PairList.faults garbledPairs).map (·.message) =
      ["pvc list spans destination namespaces depot, shop", "source shop/Orders: été appears more than once",
        "pair shop/ -> shop/: claim name is empty", "pair shop/ -> shop/: claim name is empty"] := by
    decide +kernel
  obtain ⟨t, after, t', d', u', c', hplan, hserver, hclient, -⟩ := Transfer.withinShop_created
  obtain ⟨hwrites, hwrites'⟩ := hplans _ _ _ _ _ hplan
  refine ⟨⟨_, hcarried, (hcarries _ _ hcarried).2, (hdigest _).2⟩,
    ⟨hmessages ▸ hgarbled, (hpairs _ _ hgarbled).2⟩, t, after, t', d', u', c', hplan, hserver, hclient, ?_,
    hwrites hserver, hwrites' hclient⟩
  obtain ⟨-, service, hservice, halike⟩ := Transfer.createServer_produces_ok hserver
  obtain ⟨o, ho, -, hlegal⟩ := (hwrites hserver).written _ hservice.1
  cases hservice.2.symm.trans ho
  exact ⟨service, hservice, congrArg Content.kind halike.content_eq, hlegal⟩

end VolumeMigration
