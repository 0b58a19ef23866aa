import Mathlib.Data.List.Nodup
import VolumeMigration.Proofs.CreationOrder
/-!
# All parts of an endpoint

To create an endpoint and to mark it for cleanup, every object of it is
attempted whatever became of the others. What is reported are the failures that
the parts have alone, in order, and none of what is kept in the cluster changes
but the parts that did not fail (`Endpoint.create_markForCleanup_all`).
-/

namespace VolumeMigration

open Attempt

/-- What a group comes to whose parts failed so: a value if no part did, and a report of all failures else. -/
inductive Failure.Reports (resource : String) (failures : List Failure) : Result Unit → Prop where
  | passed (h : failures = []) : Reports resource failures (.ok ())
  | failed (h : failures ≠ []) : Reports resource failures (.error (.partialCreation resource failures))

theorem Failure.reports_checkPartial (resource : String) (failures : List Failure) :
    Reports resource failures (checkPartial resource failures) := by
  cases failures with
  | nil => exact .passed rfl
  | cons f fs => exact .failed (List.cons_ne_nil f fs)

theorem Failure.Reports.ok_iff {resource : String} {failures : List Failure} {r : Result Unit}
    (h : Reports resource failures r) : r = .ok () ↔ failures = [] := by
  cases h with
  | passed h => exact iff_of_true rfl h
  | failed h => exact iff_of_false (by rintro ⟨⟩) h

/-! ## Creation -/

namespace WriteStep

variable {s : WriteStep} {c c' : Cluster}

/-- The step's object was not there, and was created. -/
def Created (s : WriteStep) (c c' : Cluster) : Prop :=
  ∃ o, s.object c = .ok o ∧ c.objects.get? o.key = none ∧ c'.Holds o

/-- An object is created only where nothing is kept under its key. -/
theorem absent_of_createObject {o : Object} (h : outcome (Endpoint.createObject o) c = (.ok (), c')) :
    c.objects.get? o.key = none := by
  obtain ⟨x, c₁, hcreate, -⟩ := bind_eq_ok.1 h
  rw [Cluster.create_outcome] at hcreate
  cases hthere : c.objects.get? o.key with
  | none => rfl
  | some a =>
    have hcontains : c.objects.contains o.key = true := by rw [SortedMap.contains, hthere]; rfl
    cases hadmits : c.admits .create o <;> simp [hadmits, hcontains] at hcreate

/-- What a step that creates needs to succeed: nothing under its key. -/
theorem absent (hcreates : s.operation c = .create) (hpass : s.failure? c = none) : c.objects.get? s.key = none := by
  have hrun : outcome s.attempt c = (.ok (), (outcome s.attempt c).2) := by
    unfold failure? at hpass
    rcases h : outcome s.attempt c with ⟨f | ⟨⟩, c'⟩
    · rw [h] at hpass
      cases hpass
    · rfl
  cases s with
  | create o => exact absent_of_createObject hrun
  | upsert o =>
    have habsent : ¬c.objects.contains o.key = true := fun hthere => by
      rw [operation, if_pos hthere] at hcreates
      cases hcreates
    exact Option.not_isSome_iff_eq_none.1 habsent
  | route e termination subdomain =>
    obtain ⟨host, c₁, hhost, hroute⟩ := bind_eq_ok.1 hrun
    obtain rfl := (Endpoint.routeHost_reads e subdomain).state_eq hhost
    exact absent_of_createObject hroute

/-- A step fails that has no object to write. -/
theorem failure?_of_object {f : Failure} (h : s.object c = .error f) : s.failure? c = some f := by
  cases s with
  | create o | upsert o => cases h
  | route e termination subdomain =>
    change (outcome (e.routeHost subdomain) c).1.map (e.route termination) = .error f at h
    cases hhost : outcome (e.routeHost subdomain) c with
    | mk r c₁ =>
      rw [hhost] at h
      cases r with
      | ok host => cases h
      | error g =>
        cases h
        have hrun : outcome (route e termination subdomain).attempt c = (.error f, c₁) := by
          show outcome (e.routeHost subdomain >>= fun host => Endpoint.createObject (e.route termination host)) c = _
          rw [outcome_bind, hhost]
        exact failure?_eq_some hrun

end WriteStep

namespace Endpoint

variable {e : Endpoint} {c c' : Cluster}

theorem nodup_keys (e : Endpoint) : e.keys.Nodup := by
  unfold keys kinds
  cases e.type <;> simp

theorem apart_writeSteps (e : Endpoint) : WriteStep.Apart e.writeSteps := by
  refine WriteStep.apart_of_nodup (e.keys_writeSteps ▸ e.nodup_keys) ?_
  refine e.looksAt_writeSteps.imp id fun hother s hs hkey => hother s hs ?_
  rw [hkey]
  rfl

theorem creates_writeSteps {s : WriteStep} (hs : s ∈ e.writeSteps) (c : Cluster) : s.operation c = .create := by
  unfold writeSteps at hs
  rcases List.mem_cons.1 hs with rfl | hs
  · rfl
  · cases hentry : e.entry <;> simp only [hentry, List.mem_singleton, List.not_mem_nil] at hs <;> rw [hs] <;> rfl

/-- How the creation of an endpoint ends. -/
structure CreatesAll (e : Endpoint) (c : Cluster) (done : Result Unit × Cluster) : Prop where
  /-- Reported are the failures that the parts have in the cluster as it was, one after the other. -/
  report : Failure.Reports s!"{e.type} endpoint {e.name}" (e.writeSteps.filterMap (WriteStep.failure? c)) done.1
  /-- A route whose host is not found fails with what its host fails with. -/
  hostless : ∀ s ∈ e.writeSteps, ∀ f, s.object c = .error f → s.failure? c = some f
  /-- A part that does not fail is created, even if others fail. -/
  created : ∀ s ∈ e.writeSteps, s.failure? c = none → s.Created c done.2
  ok_iff : done.1 = .ok () ↔ ∀ s ∈ e.writeSteps, s.Created c done.2
  /-- Nothing else is written. -/
  made : c.Made (e.writeSteps.filter fun s => (s.failure? c).isNone) done.2
  grows : c.Grows done.2

/-- What is under the key of a part that fails is not of the parts that do not. -/
theorem key_not_mem_of_failure? {s : WriteStep} {f : Failure} (hs : s ∈ e.writeSteps) (hfails : s.failure? c = some f) :
    s.key ∉ (e.writeSteps.filter fun s => (s.failure? c).isNone).map WriteStep.key := by
  intro hmem
  obtain ⟨d, hd, hkey⟩ := List.mem_map.1 hmem
  obtain ⟨hmem, hpass⟩ := List.mem_filter.1 hd
  obtain rfl := List.inj_on_of_nodup_map (e.keys_writeSteps ▸ e.nodup_keys) hmem hs hkey
  rw [hfails] at hpass
  cases hpass

/-- What was made of an endpoint's parts, where the failures of all of them are reported. -/
theorem createsAll_of_made {done : Result Unit × Cluster}
    (hreport : Failure.Reports s!"{e.type} endpoint {e.name}" (e.writeSteps.filterMap (WriteStep.failure? c)) done.1)
    (hmade : c.Made (e.writeSteps.filter fun s => (s.failure? c).isNone) done.2) : e.CreatesAll c done := by
  have habsent : ∀ s ∈ e.writeSteps, s.failure? c = none → c.objects.get? s.key = none := fun s hs hpass =>
    WriteStep.absent (creates_writeSteps hs c) hpass
  have hcreated : ∀ s ∈ e.writeSteps, s.failure? c = none → s.Created c done.2 := by
    intro s hs hpass
    obtain ⟨o, hobject, hheld⟩ := hmade.holds s (List.mem_filter.2 ⟨hs, by rw [hpass]; rfl⟩)
    refine ⟨o, hobject, ?_, hheld⟩
    rw [WriteStep.key_object hobject]
    exact habsent s hs hpass
  refine ⟨hreport, fun s _ f h => WriteStep.failure?_of_object h, hcreated, ?_, hmade, ?_⟩
  · rw [hreport.ok_iff, List.filterMap_eq_nil_iff]
    refine ⟨fun hpass s hs => hcreated s hs (hpass s hs), fun hall s hs => ?_⟩
    cases hfails : s.failure? c with
    | none => rfl
    | some f =>
      obtain ⟨o, hobject, hnone, a, ha, -⟩ := hall s hs
      rw [WriteStep.key_object hobject] at hnone ha
      rw [hmade.kept s.key (key_not_mem_of_failure? hs hfails), hnone] at ha
      cases ha
  · intro key o ho
    rw [hmade.kept key, ho]
    intro hmem
    obtain ⟨d, hd, rfl⟩ := List.mem_map.1 hmem
    obtain ⟨hmem, hpass⟩ := List.mem_filter.1 hd
    rw [habsent d hmem (Option.isNone_iff_eq_none.1 hpass)] at ho
    cases ho

/-- What is there under the key of a part and was not there before is the part. -/
theorem CreatesAll.object_of_present {done : Result Unit × Cluster} {s : WriteStep} {a : Object}
    (h : e.CreatesAll c done) (hs : s ∈ e.writeSteps) (habsent : c.objects.get? s.key = none)
    (hthere : done.2.objects.get? s.key = some a) : ∃ o, s.object c = .ok o ∧ a.Alike o := by
  cases hpass : s.failure? c with
  | some f =>
    rw [h.made.kept _ (key_not_mem_of_failure? hs hpass), habsent] at hthere
    cases hthere
  | none =>
    obtain ⟨o, hobject, -, b, hb, halike⟩ := h.created s hs hpass
    rw [WriteStep.key_object hobject, hthere] at hb
    cases hb
    exact ⟨o, hobject, halike⟩

theorem create_createsAll (e : Endpoint) (c : Cluster) : e.CreatesAll c (outcome e.create c) := by
  obtain ⟨c', hrun, hmade⟩ := WriteStep.outcome_all s!"{e.type} endpoint {e.name}" e.apart_writeSteps c
  rw [create_eq, hrun]
  exact createsAll_of_made (Failure.reports_checkPartial _ _) hmade

end Endpoint

/-! ## Labels -/

namespace Object

/-- The object without its labels and its version. -/
def unlabelled (o : Object) : Object :=
  { o with metadata := { o.metadata with labels := none, resourceVersion := none } }

/-- The second object is the first one with a label set, under whatever version. -/
structure Relabels (key value : String) (o o' : Object) : Prop where
  label : o'.labelMap.get? key = some value
  others : ∀ k, k ≠ key → o'.labelMap.get? k = o.labelMap.get? k
  rest : o'.unlabelled = o.unlabelled

theorem relabels_label (key value : String) (o : Object) :
    Relabels key value o { o with metadata := o.metadata.label key value } where
  label := SortedMap.get?_insert_self o.labelMap key value
  others _ hk := SortedMap.get?_insert_of_ne o.labelMap value hk
  rest := rfl

theorem Relabels.withVersion {key value : String} {o o' : Object} (h : o.Relabels key value o')
    (version : Option String) : o.Relabels key value (o'.withVersion version) := ⟨h.label, h.others, h.rest⟩

end Object

/-- An object that has to exist is looked for under its key alone. -/
theorem Cluster.AgreesOn.require {keys : List Key} {c c' : Cluster} (h : c.AgreesOn keys c') {k : Kind} {n : ObjectName}
    (hkey : ⟨k, n.ns, n.name⟩ ∈ keys) :
    (outcome (Cluster.require k n) c').1 = (outcome (Cluster.require k n) c).1 := by
  refine fst_outcome_bind (Cluster.find?_reads k n) (h.find? hkey) fun found _ => ?_
  cases found <;> rfl

namespace Endpoint

variable {e : Endpoint} {key value : String} {k : Kind} {ks later : List Kind} {c c' c'' : Cluster}

/-- Where the endpoint's object of a kind is kept. -/
def keyOf (e : Endpoint) (k : Kind) : Key := ⟨k, e.name.ns, e.name.name⟩

/-- The failure of labelling the object of a kind alone. -/
def labelFailure? (e : Endpoint) (key value : String) (c : Cluster) (k : Kind) : Option Failure :=
  match (outcome (e.labelObject key value k) c).1 with
  | .error f => some f
  | .ok _ => none

/-- The endpoint's objects of the kinds were labelled, and nothing else changed. -/
structure Labelled (e : Endpoint) (key value : String) (c : Cluster) (ks : List Kind) (c' : Cluster) : Prop where
  relabels : ∀ k ∈ ks, ∃ o o', c.objects.get? (e.keyOf k) = some o ∧ c'.objects.get? (e.keyOf k) = some o' ∧
    o.Relabels key value o'
  kept : ∀ other ∉ ks.map e.keyOf, c'.objects.get? other = c.objects.get? other
  refusals : c'.refusals = c.refusals
  faults : c'.faults = c.faults

namespace Labelled

theorem version (e : Endpoint) (key value : String) (c : Cluster) (n : Nat) :
    e.Labelled key value c [] { c with version := n } := ⟨by simp, fun _ _ => rfl, rfl, rfl⟩

theorem nothing (e : Endpoint) (key value : String) (c : Cluster) : e.Labelled key value c [] c :=
  version e key value c c.version

theorem agreesOn (h : e.Labelled key value c ks c') (hk : k ∉ ks) : c.AgreesOn [e.keyOf k] c' := by
  refine ⟨h.refusals, h.faults, fun other hother => h.kept other fun hmem => ?_⟩
  obtain ⟨k', hk', hkey⟩ := List.mem_map.1 hmem
  rw [List.mem_singleton.1 hother] at hkey
  cases hkey
  exact hk hk'

theorem append (h : e.Labelled key value c ks c') (h' : e.Labelled key value c' later c'')
    (hapart : ∀ k ∈ ks, k ∉ later) : e.Labelled key value c (ks ++ later) c'' where
  relabels k hk := by
    rcases List.mem_append.1 hk with hk | hk
    · obtain ⟨o, o', ho, ho', hrelabels⟩ := h.relabels k hk
      refine ⟨o, o', ho, ?_, hrelabels⟩
      rw [(h'.agreesOn (hapart k hk)).objects _ List.mem_cons_self, ho']
    · obtain ⟨o, o', ho, ho', hrelabels⟩ := h'.relabels k hk
      refine ⟨o, o', ?_, ho', hrelabels⟩
      rw [← (h.agreesOn fun hmem => hapart k hmem hk).objects _ List.mem_cons_self, ho]
  kept other hother := by
    rw [List.map_append, List.mem_append, not_or] at hother
    rw [h'.kept other hother.2, h.kept other hother.1]
  refusals := h'.refusals.trans h.refusals
  faults := h'.faults.trans h.faults

end Labelled

/-- How labelling one object ends: it fails and changes nothing, or the object is labelled. -/
inductive LabelEnds (e : Endpoint) (key value : String) (k : Kind) (c : Cluster) : Result Unit × Cluster → Prop where
  | failed {f : Failure} {c' : Cluster} (hkept : c'.WellKept) (h : e.Labelled key value c [] c') :
    LabelEnds e key value k c (.error f, c')
  | labelled {c' : Cluster} (hkept : c'.WellKept) (h : e.Labelled key value c [k] c') :
    LabelEnds e key value k c (.ok (), c')

theorem labelObject_ends (hkept : c.WellKept) : e.LabelEnds key value k c (outcome (e.labelObject key value k) c) := by
  unfold labelObject
  rw [outcome_bind]
  rcases hrequire : outcome (Cluster.require k e.name) c with ⟨f | o, c₁⟩
  · obtain rfl := (Cluster.require_reads k e.name).state_eq hrequire
    exact .failed hkept (.nothing e key value _)
  · obtain ⟨rfl, ho⟩ := Cluster.require_ok hrequire
    show LabelEnds e key value k c₁
      (outcome (Cluster.update { o with metadata := o.metadata.label key value } >>= _) c₁)
    have hkey : o.key = e.keyOf k := hkept _ o ho
    have hwrite := Cluster.writeOutcome_update c₁ { o with metadata := o.metadata.label key value }
    rw [outcome_bind]
    generalize outcome (Cluster.update { o with metadata := o.metadata.label key value }) c₁ = done at hwrite ⊢
    cases hwrite with
    | turnedAway _ => exact .failed hkept (.nothing e key value c₁)
    | failed _ => exact .failed hkept (.version e key value c₁ _)
    | @written ns x _ =>
      refine .labelled (hkept.wrote _ _ _) ⟨fun k' hk' => ?_, fun other hother => ?_, rfl, rfl⟩
      · rw [List.mem_singleton.1 hk', ← hkey]
        exact ⟨o, _, hkey ▸ ho, c₁.get?_wrote_self .update ns _, (o.relabels_label key value).withVersion _⟩
      · have hne : other ≠ o.key := by
          rw [hkey]
          simpa using hother
        exact c₁.get?_wrote_of_ne .update ns _ hne

/-- Only what is kept under the key of an object and the rules decide on what labelling it comes to. -/
theorem fst_labelObject_congr (hkept : c.WellKept) (h : c.AgreesOn [e.keyOf k] c') :
    (outcome (e.labelObject key value k) c').1 = (outcome (e.labelObject key value k) c).1 := by
  refine fst_outcome_bind (Cluster.require_reads k e.name) (h.require List.mem_cons_self) fun o ho => ?_
  have hfound : outcome (Cluster.require k e.name) c = (.ok o, c) := Prod.ext ho (Cluster.require_reads k e.name c)
  have hkey : o.key = e.keyOf k := hkept _ o (Cluster.require_ok hfound).2
  exact h.updateObject (o := { o with metadata := o.metadata.label key value }) (hkey ▸ List.mem_cons_self)

theorem labelFailure?_congr (hkept : c.WellKept) (h : c.AgreesOn [e.keyOf k] c') :
    e.labelFailure? key value c' k = e.labelFailure? key value c k := by
  unfold labelFailure?
  rw [fst_labelObject_congr hkept h]

theorem labelled_labelObject (e : Endpoint) (key value : String) (k : Kind) (hkept : c.WellKept) :
    (outcome (e.labelObject key value k) c).2.WellKept ∧
      e.Labelled key value c ([k].filter fun k => (e.labelFailure? key value c k).isNone)
        (outcome (e.labelObject key value k) c).2 := by
  have hends : e.LabelEnds key value k c (outcome (e.labelObject key value k) c) := labelObject_ends hkept
  rcases hrun : outcome (e.labelObject key value k) c with ⟨f | ⟨⟩, c₁⟩
  · rw [hrun] at hends
    cases hends with
    | failed hkept₁ h => exact ⟨hkept₁, by rwa [List.filter_cons_of_neg (by simp [labelFailure?, hrun])]⟩
  · rw [hrun] at hends
    cases hends with
    | labelled hkept₁ h => exact ⟨hkept₁, by rwa [List.filter_cons_of_pos (by simp [labelFailure?, hrun])]⟩

/-- Labelling is attempted for every kind, and comes to what it comes to for each alone. -/
theorem outcome_mapM_labelObject (e : Endpoint) (key value : String) (hnodup : ks.Nodup) (hkept : c.WellKept) : ∃ c',
    outcome ((ks.map (e.labelObject key value)).mapM caught) c =
        (.ok (ks.map fun k => (outcome (e.labelObject key value k) c).1), c') ∧
      e.Labelled key value c (ks.filter fun k => (e.labelFailure? key value c k).isNone) c' := by
  induction ks generalizing c with
  | nil => exact ⟨c, rfl, .nothing e key value c⟩
  | cons k ks ih =>
    obtain ⟨hout, hnodup⟩ := List.nodup_cons.1 hnodup
    obtain ⟨hkept₁, hlabelled⟩ := labelled_labelObject e key value k hkept
    obtain ⟨c₂, hrest, hlabelled'⟩ := ih hnodup hkept₁
    have hother : ∀ k' ∈ ks, k' ∉ [k].filter fun k => (e.labelFailure? key value c k).isNone := by
      intro k' hk' hmem
      rw [List.mem_singleton.1 (List.mem_filter.1 hmem).1] at hk'
      exact hout hk'
    have hagrees : ∀ k' ∈ ks, c.AgreesOn [e.keyOf k'] (outcome (e.labelObject key value k) c).2 := fun k' hk' =>
      hlabelled.agreesOn (hother k' hk')
    have hresults :
        (ks.map fun k' => (outcome (e.labelObject key value k') (outcome (e.labelObject key value k) c).2).1) =
        ks.map fun k' => (outcome (e.labelObject key value k') c).1 :=
      List.map_congr_left fun k' hk' => fst_labelObject_congr hkept (hagrees k' hk')
    have hpassed :
        (ks.filter fun k' => (e.labelFailure? key value (outcome (e.labelObject key value k) c).2 k').isNone) =
          ks.filter fun k' => (e.labelFailure? key value c k').isNone :=
      List.filter_congr fun k' hk' => by rw [labelFailure?_congr hkept (hagrees k' hk')]
    rw [hresults] at hrest
    rw [hpassed] at hlabelled'
    refine ⟨c₂, ?_, ?_⟩
    · rw [List.map_cons, List.mapM_cons, outcome_bind_ok (outcome_caught (e.labelObject key value k) c),
        outcome_bind_ok hrest]
      rfl
    · rw [← List.singleton_append, List.filter_append]
      exact hlabelled.append hlabelled' fun k' hk' hmem => hother k' (List.mem_filter.1 hmem).1 hk'

/-- How marking an endpoint for cleanup ends. -/
structure LabelsAll (e : Endpoint) (key value : String) (c : Cluster) (done : Result Unit × Cluster) : Prop where
  /-- Reported are the failures that the objects have in the cluster as it was, one after the other. -/
  report : Failure.Reports s!"cleanup labels for {e.type} endpoint {e.name}"
    (e.kinds.filterMap (e.labelFailure? key value c)) done.1
  /-- The objects that do not fail are labelled, even if others fail, and nothing else changes. -/
  labelled : e.Labelled key value c (e.kinds.filter fun k => (e.labelFailure? key value c k).isNone) done.2

theorem nodup_kinds (e : Endpoint) : e.kinds.Nodup := by
  unfold kinds
  cases e.type <;> decide

theorem markForCleanup_labelsAll (e : Endpoint) (key value : String) (hkept : c.WellKept) :
    e.LabelsAll key value c (outcome (e.markForCleanup key value) c) := by
  obtain ⟨c', hrun, hlabelled⟩ := outcome_mapM_labelObject e key value e.nodup_kinds hkept
  unfold markForCleanup all
  rw [outcome_bind_ok hrun, outcome_ofResult, List.filterMap_map]
  exact ⟨Failure.reports_checkPartial _ _, hlabelled⟩

/-! ## Both -/

/-- To create an endpoint and to mark it for cleanup, all parts of it are attempted and all that fail are reported,
whatever a cluster keeps and refuses. -/
theorem create_markForCleanup_all (e : Endpoint) (key value : String) {c : Cluster} (hkept : c.WellKept) :
    e.CreatesAll c (outcome e.create c) ∧ e.LabelsAll key value c (outcome (e.markForCleanup key value) c) := by
  constructor
  · exact e.create_createsAll c
  · exact e.markForCleanup_labelsAll key value hkept

/-- An endpoint of two objects. -/
def wharf : Endpoint := .ofRoute ⟨"depot", "wharf"⟩ (.ofList [("app", "wharf")]) .edge none

/-- A cluster with the first of them. -/
def servedWharf : Cluster := ({} : Cluster).place wharf.service

theorem create_markForCleanup_all_wharf : servedWharf.WellKept ∧
    wharf.CreatesAll servedWharf (outcome wharf.create servedWharf) ∧
      wharf.LabelsAll "stage" "done" servedWharf (outcome (wharf.markForCleanup "stage" "done") servedWharf) := by
  have hkept : servedWharf.WellKept := Cluster.wellKept_empty.place _
  exact ⟨hkept, create_markForCleanup_all wharf "stage" "done" hkept⟩

/-- The route is created where the service is in the way, and the service labelled where the route is missing. -/
example : (outcome wharf.create servedWharf).2.log.map LogEntry.line = ["create Route depot/wharf"] ∧
    (outcome (wharf.markForCleanup "stage" "done") servedWharf).2.log.map LogEntry.line =
      ["update Service depot/wharf"] := by
  decide +kernel

end Endpoint

end VolumeMigration
