import VolumeMigration.Proofs.Names
import VolumeMigration.Proofs.RoutedTraffic
import VolumeMigration.Proofs.Texts
/-!
# What selectors select

A selector is written from a label map, and read again wherever something is
listed. Labels without commas, without signs in their keys and without blanks at
their ends are read as they were written (`Selector.parse_selector`), so that a
listing finds just the objects that carry them (`Cluster.matching_selector`). The
health of a server is found out in this way
(`Cluster.list_selector_isServerHealthy`).
-/

namespace VolumeMigration

open Attempt

/-! ## Labels in a selector -/

namespace Label

/-- A text without commas that neither begins nor ends with a blank. -/
structure IsTidy (s : String) : Prop where
  comma : ',' ∉ s.toList
  first : ∀ c ∈ s.toList.head?, Text.isBlank c = false
  last : ∀ c ∈ s.toList.getLast?, Text.isBlank c = false

/-- The ends of a text are looked at only if they are there. -/
theorem isTidy_iff {s : String} : IsTidy s ↔ ',' ∉ s.toList ∧ s.toList.head?.all (fun c => !Text.isBlank c) = true ∧
    s.toList.getLast?.all (fun c => !Text.isBlank c) = true := by
  simp only [Option.all_eq_true, Bool.not_eq_true']
  exact ⟨fun h => ⟨h.comma, h.first, h.last⟩, fun ⟨hcomma, hfirst, hlast⟩ => ⟨hcomma, hfirst, hlast⟩⟩

instance (s : String) : Decidable (IsTidy s) := decidable_of_iff _ isTidy_iff.symm

/-- Labels whose selector can be read again. -/
def IsSelectable (labels : StringMap) : Prop :=
  ∀ k v, labels.get? k = some v → IsTidy k ∧ '=' ∉ k.toList ∧ IsTidy v

variable {labels : StringMap} {k v : String}

theorem isSelectable_iff : IsSelectable labels ↔
    ∀ e ∈ labels.entries, IsTidy e.1 ∧ '=' ∉ e.1.toList ∧ IsTidy e.2 := by
  constructor
  · intro h e he
    exact h e.1 e.2 ((SortedMap.mem_entries_iff labels e.1 e.2).1 he)
  · intro h k v hv
    exact h (k, v) ((SortedMap.mem_entries_iff labels k v).2 hv)

instance (labels : StringMap) : Decidable (IsSelectable labels) := decidable_of_iff _ isSelectable_iff.symm

theorem IsSelectable.insert (h : IsSelectable labels) (hkey : IsTidy k) (hsign : '=' ∉ k.toList) (hvalue : IsTidy v) :
    IsSelectable (labels.insert k v) := by
  intro j w hw
  rw [SortedMap.get?_insert] at hw
  split at hw
  · rename_i hj
    cases hw
    rw [hj]
    exact ⟨hkey, hsign, hvalue⟩
  · exact h j w hw

/-- What a selector says of one label. -/
def clause (e : String × String) : List Char := e.1.toList ++ '=' :: e.2.toList

theorem trimChars_clause (hkey : IsTidy k) (hvalue : IsTidy v) : Text.trimChars (clause (k, v)) = clause (k, v) := by
  refine Text.trimChars_of_ends (fun c hc => ?_) fun c hc => ?_
  · rw [clause, List.head?_append, Option.mem_def, Option.or_eq_some_iff] at hc
    rcases hc with hc | ⟨-, hc⟩
    · exact hkey.first c hc
    · cases hc
      rfl
  · rw [clause, List.getLast?_append, List.getLast?_cons, Option.some_or] at hc
    cases hlast : v.toList.getLast? with
    | none =>
      rw [hlast] at hc
      cases hc
      rfl
    | some d =>
      rw [hlast] at hc
      cases hc
      exact hvalue.last _ hlast

theorem comma_not_mem_clause (hkey : IsTidy k) (hvalue : IsTidy v) : ',' ∉ clause (k, v) := by
  simp only [clause, List.mem_append, List.mem_cons, not_or]
  exact ⟨hkey.comma, by decide, hvalue.comma⟩

end Label

namespace Selector

open Label (IsSelectable clause)

variable {labels m : StringMap}

/-- A term is cut at the sign that was put into it. -/
theorem term_eq {k v : String} (hkey : Label.IsTidy k) (hsign : '=' ∉ k.toList) (hvalue : Label.IsTidy v) :
    term (clause (k, v)) = .equals k v := by
  rw [term, clause, Text.cutFirst?_append hsign]
  show Requirement.equals (String.ofList (Text.trimChars k.toList)) (String.ofList (Text.trimChars v.toList)) = _
  rw [Text.trimChars_of_ends hkey.first hkey.last, Text.trimChars_of_ends hvalue.first hvalue.last,
    String.ofList_toList, String.ofList_toList]

theorem toList_selector (m : StringMap) : (Label.selector m).toList = Text.joinChars ',' (m.toList.map clause) := by
  rw [Label.selector, show "," = String.singleton ',' from rfl, Text.toList_join, List.map_map]
  refine congrArg _ (List.map_congr_left fun e _ => ?_)
  simp [clause]

/-- A selector asks for the entries that it was written from. -/
theorem parse_selector (h : IsSelectable m) : parse (Label.selector m) = m.toList.map fun e => .equals e.1 e.2 := by
  have hlegal := Label.isSelectable_iff.1 h
  unfold parse
  rw [toList_selector]
  by_cases hempty : m.toList = []
  · rw [hempty]
    rfl
  · have hcommas : ∀ p ∈ m.toList.map clause, ',' ∉ p := by
      intro p hp
      obtain ⟨e, he, rfl⟩ := List.mem_map.1 hp
      exact Label.comma_not_mem_clause (hlegal e he).1 (hlegal e he).2.2
    have htrim : (m.toList.map clause).map Text.trimChars = m.toList.map clause := by
      rw [List.map_map]
      exact List.map_congr_left fun e he => Label.trimChars_clause (hlegal e he).1 (hlegal e he).2.2
    have hfilled : (m.toList.map clause).filter (!·.isEmpty) = m.toList.map clause := by
      refine List.filter_eq_self.2 fun p hp => ?_
      obtain ⟨e, -, rfl⟩ := List.mem_map.1 hp
      simp [clause]
    rw [Text.cutAll_joinChars (by simpa using hempty) hcommas, htrim, hfilled, List.map_map]
    exact List.map_congr_left fun e he => term_eq (hlegal e he).1 (hlegal e he).2.1 (hlegal e he).2.2

theorem matches_selector (h : IsSelectable m) : Matches (Label.selector m) labels ↔ labels.Includes m := by
  unfold Matches
  rw [parse_selector h, SortedMap.includes_iff]
  exact List.forall_mem_map

end Selector

/-! ## Listing by labels -/

namespace Cluster

variable {c : Cluster} {k : Kind} {ns : String} {m : StringMap} {o : Object}

/-- The object is kept under the kind in the namespace. -/
def Has (c : Cluster) (k : Kind) (ns : String) (o : Object) : Prop := ∃ name, c.objects.get? ⟨k, ns, name⟩ = some o

/-- The objects of a kind in a namespace that have labels, in the order of their names. -/
def labelled (c : Cluster) (k : Kind) (ns : String) (wanted : StringMap) : List Object :=
  (c.objects.toList.filter fun e => e.1.kind == k && e.1.ns == ns && decide (e.2.labelMap.Includes wanted)).map (·.2)

theorem mem_labelled : o ∈ c.labelled k ns m ↔ c.Has k ns o ∧ o.labelMap.Includes m := by
  simp only [labelled, List.mem_map, List.mem_filter, Bool.and_eq_true, beq_iff_eq, decide_eq_true_eq, Prod.exists,
    exists_eq_right]
  constructor
  · rintro ⟨⟨kind, namespace', name⟩, hmem, ⟨rfl, rfl⟩, hlabels⟩
    exact ⟨⟨name, (SortedMap.mem_entries_iff c.objects _ o).1 hmem⟩, hlabels⟩
  · rintro ⟨⟨name, hget⟩, hlabels⟩
    exact ⟨⟨k, ns, name⟩, (SortedMap.mem_entries_iff c.objects _ o).2 hget, ⟨rfl, rfl⟩, hlabels⟩

theorem matching_selector (h : Label.IsSelectable m) (c : Cluster) (k : Kind) (ns : String) :
    c.matching k ns (some (Label.selector m)) = c.labelled k ns m := by
  unfold matching labelled
  rw [List.filter_map, List.filter_filter]
  refine congrArg _ (List.filter_congr fun e _ => ?_)
  simp only [Option.all_some, Function.comp_apply, Selector.matches_selector h]
  exact Bool.and_comm _ _

/-- What a listing of a kind comes to: what there is, unless a rule of the cluster has it fail. -/
def listed {α : Type} (c : Cluster) (k : Kind) (x : α) : Result α :=
  match c.refusal? .list k "", c.fault? .list k "" with
  | some f, _ => .error f
  | none, some f => .error f
  | none, none => .ok x

theorem outcome_list_selector (h : Label.IsSelectable m) (c : Cluster) (k : Kind) (ns : String) :
    outcome (list k ns (some (Label.selector m))) c = (c.listed k (c.labelled k ns m), c) := by
  rw [list_outcome, matching_selector h]
  unfold listed
  cases c.refusal? .list k "" <;> cases c.fault? .list k "" <;> rfl

end Cluster

/-! ## Healthy servers -/

namespace Transfer

variable {t : Transfer} {c : Cluster} {labels : StringMap}

theorem isTidy_component (t : Transfer) (side : Side) : Label.IsTidy (t.component side) := by
  unfold component
  cases t.type <;> cases side <;> decide +kernel

theorem isSelectable_healthLabels (h : Label.IsSelectable t.endpoint.labels) : Label.IsSelectable t.healthLabels :=
  h.insert (by decide) (by decide) (t.isTidy_component .server)

/-- The labels are those of a server's pod: they say so, and have what else the endpoint has. -/
def MarksServer (t : Transfer) (labels : StringMap) : Prop :=
  labels.get? Label.component = some (t.component .server) ∧
    ∀ k v, k ≠ Label.component → t.endpoint.labels.get? k = some v → labels.get? k = some v

theorem includes_healthLabels : labels.Includes t.healthLabels ↔ t.MarksServer labels := SortedMap.includes_insert

/-- A server is healthy if it has pods and all of them run. -/
def HasHealthyPods (t : Transfer) (c : Cluster) (ns : String) : Prop :=
  (∃ pod, c.Has .pod ns pod ∧ t.MarksServer pod.labelMap) ∧
    ∀ pod, c.Has .pod ns pod → t.MarksServer pod.labelMap → pod.podPhase? = some "Running"

theorem outcome_isServerHealthy (h : Label.IsSelectable t.endpoint.labels) (c : Cluster) :
    ∃ healthy, outcome t.isServerHealthy c = (c.listed .pod healthy, c) ∧
      (healthy = true ↔ t.HasHealthyPods c t.serverNamespace) := by
  refine ⟨!(c.labelled .pod t.serverNamespace t.healthLabels).isEmpty &&
    (c.labelled .pod t.serverNamespace t.healthLabels).all (·.podPhase? == some "Running"), ?_, ?_⟩
  · unfold isServerHealthy
    rw [outcome_bind, Cluster.outcome_list_selector (isSelectable_healthLabels h)]
    unfold Cluster.listed
    cases c.refusal? .list .pod "" <;> cases c.fault? .list .pod "" <;> rfl
  · have hpods : ∀ pod, pod ∈ c.labelled .pod t.serverNamespace t.healthLabels ↔
        c.Has .pod t.serverNamespace pod ∧ t.MarksServer pod.labelMap := by
      intro pod
      rw [Cluster.mem_labelled, includes_healthLabels]
    have hsome : (c.labelled .pod t.serverNamespace t.healthLabels).isEmpty = false ↔
        ∃ pod, pod ∈ c.labelled .pod t.serverNamespace t.healthLabels := by
      rw [List.isEmpty_eq_false_iff_exists_mem]
    rw [Bool.and_eq_true, Bool.not_eq_true', hsome, List.all_eq_true]
    simp only [hpods, beq_iff_eq]
    exact and_congr_right fun _ => ⟨fun hall pod hpod hmarks => hall pod ⟨hpod, hmarks⟩,
      fun hall pod hpod => hall pod hpod.1 hpod.2⟩

end Transfer

/-- Listing by the selector of a label map finds the objects of the kind in the namespace that have all of the labels.
So a server is found healthy if there are pods in the namespace of the destination claims that are marked as its own,
and all of them run. -/
theorem Cluster.list_selector_isServerHealthy (c : Cluster) :
    (∀ k ns m, Label.IsSelectable m →
      outcome (list k ns (some (Label.selector m))) c = (c.listed k (c.labelled k ns m), c) ∧
      ∀ o, o ∈ c.labelled k ns m ↔ c.Has k ns o ∧ o.labelMap.Includes m) ∧
    ∀ t : Transfer, t.Arises → Label.IsSelectable t.endpoint.labels →
      ∃ healthy, outcome t.isServerHealthy c = (c.listed .pod healthy, c) ∧
        (healthy = true ↔ t.HasHealthyPods c t.pairs.destinationNamespace) := by
  refine ⟨fun k ns m hm => ⟨outcome_list_selector hm c k ns, fun o => mem_labelled⟩, fun t harises hlabels => ?_⟩
  obtain ⟨hplace, -⟩ := Transfer.checkCompatible_ok harises.checked
  rw [← hplace]
  exact Transfer.outcome_isServerHealthy hlabels c

namespace Transfer

/-- A tree of files that goes to an endpoint whose labels say that it is a part of its own. -/
def toWeb : Transfer where
  method := .rsync .archive
  pairs := misverified.pairs
  endpoint := .ofClusterIP ⟨"depot", "inbox"⟩ (.ofList [("app", "inbox"), (Label.component, "web")])
  transport := .direct none
  credentials := .ofPassword "secret"
  workload := {}

/-- A pod that runs and is marked as the server of the transfer. -/
def webServer : Object where
  metadata := {
    name := some "server", ns := some "depot",
    labels := some (.ofList [("app", "inbox"), (Label.component, "rsync-server")]) }
  content := .pod none (some { phase := some "Running" })

/-- The cluster with the pod. -/
def webDepot : Cluster := ({} : Cluster).place webServer

theorem eq_webServer {pod : Object} {ns : String} (h : webDepot.Has .pod ns pod) : pod = webServer := by
  obtain ⟨name, hget⟩ := h
  exact Cluster.eq_of_get?_place_empty hget

theorem marksServer_webServer : toWeb.MarksServer webServer.labelMap :=
  includes_healthLabels.1 (by decide +kernel)

theorem hasHealthyPods_webDepot : toWeb.HasHealthyPods webDepot "depot" := by
  refine ⟨⟨webServer, ⟨"server", Cluster.get?_place _ _ _⟩, marksServer_webServer⟩, fun pod hpod _ => ?_⟩
  rw [eq_webServer hpod]
  rfl

end Transfer

theorem Cluster.list_selector_isServerHealthy_webDepot : Label.IsSelectable Transfer.toWeb.endpoint.labels ∧
    Transfer.toWeb.Arises ∧
    outcome (list .pod "depot" (some (Label.selector Transfer.toWeb.endpoint.labels))) Transfer.webDepot =
      (.ok [], Transfer.webDepot) ∧
    outcome Transfer.toWeb.isServerHealthy Transfer.webDepot = (.ok true, Transfer.webDepot) := by
  have hlabels : Label.IsSelectable Transfer.toWeb.endpoint.labels := by decide +kernel
  have harises : Transfer.toWeb.Arises := .new (Transfer.new_of_checks (by decide +kernel) (by decide +kernel) rfl)
  obtain ⟨hlist, hhealth⟩ := list_selector_isServerHealthy Transfer.webDepot
  obtain ⟨hlisted, hmem⟩ := hlist .pod "depot" _ hlabels
  obtain ⟨healthy, hrun, hhealthy⟩ := hhealth Transfer.toWeb harises hlabels
  have hnone : Transfer.webDepot.labelled .pod "depot" Transfer.toWeb.endpoint.labels = [] := by
    refine List.eq_nil_iff_forall_not_mem.2 fun pod hpod => ?_
    obtain ⟨hhas, hincludes⟩ := (hmem pod).1 hpod
    rw [Transfer.eq_webServer hhas] at hincludes
    exact absurd hincludes (by decide +kernel)
  rw [hnone] at hlisted
  rw [hhealthy.2 Transfer.hasHealthyPods_webDepot] at hrun
  exact ⟨hlabels, harises, hlisted, hrun⟩

/-- A server is found healthy, and no pod has all of the endpoint's labels and the mark of a server: the mark goes
before what the endpoint's labels say under its key. -/
theorem Transfer.isServerHealthy_without_labels : toWeb.Arises ∧ Label.IsSelectable toWeb.endpoint.labels ∧
    outcome toWeb.isServerHealthy webDepot = (.ok true, webDepot) ∧
    ¬∃ pod, webDepot.Has .pod toWeb.pairs.destinationNamespace pod ∧ pod.labelMap.Includes toWeb.endpoint.labels ∧
      pod.labelMap.get? Label.component = some (toWeb.component .server) := by
  have hlabels : Label.IsSelectable toWeb.endpoint.labels := by decide +kernel
  obtain ⟨healthy, hrun, hhealthy⟩ := outcome_isServerHealthy hlabels webDepot
  rw [hhealthy.2 hasHealthyPods_webDepot] at hrun
  refine ⟨.new (new_of_checks (by decide +kernel) (by decide +kernel) rfl), hlabels, hrun, ?_⟩
  rintro ⟨pod, hpod, hincludes, -⟩
  rw [eq_webServer hpod] at hincludes
  exact absurd hincludes (by decide +kernel)

end VolumeMigration
