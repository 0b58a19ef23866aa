import VolumeMigration.Proofs.FailureFree
import VolumeMigration.Proofs.QuiesceChanges
/-!
# What stopping a namespace reports

Where no rule fails an operation, stopping visits every controller of the
namespace once and reports it as changed or as left, and its writes are logged
as it reports them (`visitKinds_quiesceObject`). Afterwards every controller is
stopped, so that stopping again changes nothing, and the same holds of restoring
(`quiesce_settles`).
-/

namespace VolumeMigration

open Attempt

/-! ## Contents apart from their settings -/

/-- What a controller holds besides its setting, where a missing specification is one made from
nothing. -/
def Content.apart : Content → Content
  | cronJob spec => cronJob (some { spec.getD .new with suspend := none })
  | deployment spec => deployment (some { spec.getD .new with replicas := none })
  | deploymentConfig spec => deploymentConfig { spec with replicas := none }
  | statefulSet spec => statefulSet (some { spec.getD .newStatefulSet with replicas := none })
  | replicaSet spec => replicaSet (some { spec.getD .newReplicaSet with replicas := none })
  | daemonSet spec => daemonSet (some ((spec.getD .new).onNodes .empty))
  | job spec => job (some { spec.getD .new with parallelism := none })
  | c => c

@[simp] theorem Content.apart_withSetting (c : Content) (s : Setting) : (c.withSetting s).apart = c.apart := by
  cases c <;> cases s <;> rfl

namespace Quiesce

variable {ns : String} {k : WorkloadKind} {c c' : Cluster} {o o' : Object}

/-! ## One controller -/

/-- A controller at the value that keeps it from running. For a daemon set that is a label of the
nodes, whatever other labels there are. -/
def AtSentinel : WorkloadKind → Object → Prop
  | .daemonSet, o =>
    ∃ nodes, o.content.setting? = some (.nodes nodes) ∧ nodes.get? Setting.noNodeKey = some Setting.noNodeValue
  | k, o => o.content.setting? = some (.stopped k)

theorem isStopped_iff_atSentinel (hk : o.kind = k.kind) : isStopped o = true ↔ AtSentinel k o := by
  by_cases hd : k = .daemonSet
  · subst hd
    refine ⟨nodes_of_isStopped hk, ?_⟩
    rintro ⟨nodes, hset, hlabel⟩
    rw [isStopped_of_setting hset, Setting.isStopped, hlabel, beq_self_eq_true]
  · have hat : AtSentinel k o ↔ o.content.setting? = some (.stopped k) := by
      cases k <;> first | exact absurd rfl hd | exact Iff.rfl
    rw [hat]
    refine ⟨setting?_of_isStopped hk hd, fun hset => ?_⟩
    rw [isStopped_of_setting hset]
    cases k <;> first | exact absurd rfl hd | rfl

/-- What became of a controller that ran and was stopped: it has the stopped setting and the record of
the one before, and nothing else is different but the version. -/
structure StoppedFrom (k : WorkloadKind) (o o' : Object) : Prop where
  setting : o'.content.setting? = some (.stopped k)
  record : o'.metadata.annotation? k.recordKey = some (settingOf k o).encode
  annotations : ∀ key, key ≠ k.recordKey → o'.metadata.annotation? key = o.metadata.annotation? key
  metadata : { o'.metadata with annotations := none, resourceVersion := none } =
    { o.metadata with annotations := none, resourceVersion := none }
  content : o'.content.apart = o.content.apart
  rest : o'.rest = o.rest

theorem annotation?_stop_of_ne (k : WorkloadKind) (o : Object) {key : String} (h : key ≠ k.recordKey) :
    (stop k o).metadata.annotation? key = o.metadata.annotation? key := by
  rw [stop, Metadata.annotation?, Metadata.annotate, Option.bind_some, SortedMap.get?_insert_of_ne _ _ h,
    Metadata.annotation?]
  cases o.metadata.annotations <;> rfl

theorem StoppedFrom.of_alike (hk : o.kind = k.kind) (h : o'.Alike (stop k o)) : StoppedFrom k o o' where
  setting := by rw [h.content_eq, setting?_stop hk]
  record := by rw [h.annotation?_eq, annotation?_stop, recordOf_eq]
  annotations := fun key hkey => by rw [h.annotation?_eq, annotation?_stop_of_ne k o hkey]
  metadata := congrArg (fun a : Object => { a.metadata with annotations := none, resourceVersion := none }) h
  content := by rw [h.content_eq, stop, Content.apart_withSetting]
  rest := h.rest_eq

/-- Whatever stopping makes of a controller is stopped. -/
theorem Stops.isStopped_eq (hk : o.kind = k.kind) (h : Stops k o o') : isStopped o' = true := by
  cases hs : isStopped o with
  | true => rwa [h.of_stopped hs]
  | false => rw [isStopped_alike (h.of_running hs), isStopped_stop hk]

theorem Stops.listed (hl : Listed ns k o) (h : Stops k o o') : Listed ns k o' := by
  cases hs : isStopped o with
  | true => rwa [h.of_stopped hs]
  | false => exact (Course.nowStopped (h.of_running hs)).listed hl

/-- Restoring leaves no record. -/
theorem Resumes.unrecorded (h : Resumes k o o') : o'.metadata.annotation? k.recordKey = none := by
  cases hr : o.metadata.annotation? k.recordKey with
  | none => rwa [h.of_fresh hr]
  | some text =>
    cases hs : isStopped o with
    | true =>
      obtain ⟨r, hres, hal⟩ := h.of_stopped hr hs
      rw [restore_eq] at hres
      obtain ⟨s, -, rfl⟩ := Result.map_eq_ok.1 hres
      rw [hal.annotation?_eq, annotation?_forget]
    | false =>
      have hal : o'.Alike (forget k o) := by simpa [Resumes, hr, hs] using h
      rw [hal.annotation?_eq, annotation?_forget]

/-! ## The controllers of a kind -/

/-- The controllers of a kind that can be stopped, in the order of their names. -/
def controllers (ns : String) (k : WorkloadKind) (c : Cluster) : List Object :=
  (c.matching k.kind ns none).filter (isEligible k)

theorem eligible_ok (hc : c.FailureFree) (ns : String) (k : WorkloadKind) :
    outcome (eligible k ns) c = (.ok (controllers ns k c), c) := by
  rw [eligible, outcome_bind, outcome_caught, hc.list_ok]
  rfl

/-- The controllers of a kind are the objects of that kind only. -/
theorem controllers_congr (h : ∀ key : Key, key.kind = k.kind → c.objects.get? key = c'.objects.get? key) :
    controllers ns k c = controllers ns k c' := by
  have hsame : c.objects.toList.filter (fun e => e.1.kind == k.kind && e.1.ns == ns) =
      c'.objects.toList.filter (fun e => e.1.kind == k.kind && e.1.ns == ns) := by
    refine SortedMap.toList_filter_congr (fun key : Key => key.kind == k.kind && key.ns == ns) fun key hkey => ?_
    rw [Bool.and_eq_true, beq_iff_eq] at hkey
    exact h key hkey.1
  rw [controllers, controllers, Cluster.matching, Cluster.matching, hsame]

/-- A visit of every controller that leaves the cluster as it is. -/
theorem visit_of_still {f : Object → Attempt Cluster (Option QuiesceStep)} {g : Object → Option QuiesceStep}
    (os : List Object) (h : ∀ o ∈ os, outcome (f o) c = (.ok (g o), c)) :
    outcome (visit f os) c = (.ok (os.filterMap g), c) := by
  induction os with
  | nil => rfl
  | cons o os ih =>
    rw [visit, outcome_bind_ok (h o (by simp)), outcome_bind_ok (ih fun a ha => h a (by simp [ha])), outcome_pure,
      List.filterMap_cons]
    cases g o <;> rfl

theorem visitKinds_of_still {f : WorkloadKind → Object → Attempt Cluster (Option QuiesceStep)}
    {g : WorkloadKind → Object → Option QuiesceStep} (hc : c.FailureFree)
    (h : ∀ k, ∀ o ∈ controllers ns k c, outcome (f k o) c = (.ok (g k o), c)) (ks : List WorkloadKind) :
    outcome (visitKinds f ns ks) c = (.ok (ks.flatMap fun k => (controllers ns k c).filterMap (g k)), c) := by
  induction ks with
  | nil => rfl
  | cons k ks ih =>
    rw [visitKinds, outcome_bind_ok (eligible_ok hc ns k), outcome_bind_ok (visit_of_still _ (h k)), outcome_bind_ok ih,
      outcome_pure, List.flatMap_cons]

/-! ## Steps and what they report -/

/-- The controller that a step is about. -/
def workloadOf : QuiesceStep → WorkloadRef
  | .acted w | .skipped w => w

/-- The controller as a report names it. -/
def refOf (k : WorkloadKind) (o : Object) : WorkloadRef := ⟨k, o.lookupName⟩

/-- What stopping reports of a controller. -/
def stepOf (k : WorkloadKind) (o : Object) : QuiesceStep :=
  if isStopped o then .skipped (refOf k o) else .acted (refOf k o)

/-- What stopping reports of the controllers of kinds. -/
def stepsOf (ns : String) (ks : List WorkloadKind) (c : Cluster) : List QuiesceStep :=
  ks.flatMap fun k => (controllers ns k c).map (stepOf k)

/-- The controllers of every kind as a report names them. -/
def refsOf (ns : String) (c : Cluster) : List WorkloadRef :=
  WorkloadKind.all.flatMap fun k => (controllers ns k c).map (refOf k)

/-- The log entry of a controller that was updated. -/
def updateOf (ns : String) (w : WorkloadRef) : LogEntry := ⟨.update, w.kind.kind, ⟨ns, w.name⟩⟩

/-- A cluster in which steps were taken, each change logged. -/
structure Stepped (ns : String) (c : Cluster) (steps : List QuiesceStep) (c' : Cluster) : Prop where
  failureFree : c'.FailureFree
  log : c'.log = c.log ++ (steps.filterMap (·.acted?)).map (updateOf ns)

theorem Stepped.nil (hc : c.FailureFree) : Stepped ns c [] c := ⟨hc, by simp⟩

theorem Stepped.append {c'' : Cluster} {steps steps' : List QuiesceStep} (h : Stepped ns c steps c')
    (h' : Stepped ns c' steps' c'') : Stepped ns c (steps ++ steps') c'' := by
  refine ⟨h'.failureFree, ?_⟩
  rw [h'.log, h.log, List.filterMap_append, List.map_append, List.append_assoc]

theorem Listed.ns_eq (hns : ns ≠ "") (hl : Listed ns k o) : o.metadata.ns = some ns := by
  have h := hl.ns
  cases hm : o.metadata.ns with
  | none => exact absurd (by rw [hm] at h; exact h.symm) hns
  | some n => rw [hm] at h; exact congrArg some h

theorem quiesceObject_ok (hns : ns ≠ "") (hc : c.FailureFree) (hl : Listed ns k o)
    (ho : c.objects.get? o.key = some o) :
    ∃ c', outcome (quiesceObject k o) c = (.ok (some (stepOf k o)), c') ∧ Stepped ns c [stepOf k o] c' := by
  unfold quiesceObject stepOf
  cases hs : isStopped o with
  | true => exact ⟨c, rfl, hc, by simp [QuiesceStep.acted?]⟩
  | false =>
    have hthere : c.objects.contains (stop k o).key = true := by
      rw [key_stop, SortedMap.contains, ho]
      rfl
    have hsame : (stop k o).metadata.ns = some ns := Listed.ns_eq (k := k) (o := o) hns hl
    have hupdate := hc.update_ok hsame hthere
    refine ⟨_, outcome_bind_ok hupdate _, hc.wrote _ _ _, ?_⟩
    have hentry : updateOf ns (refOf k o) = ⟨.update, (stop k o).kind, ⟨ns, o.lookupName⟩⟩ := by
      rw [kind_stop, hl.kind]
      rfl
    change c.log ++ [_] = c.log ++ [updateOf ns (refOf k o)]
    rw [hentry]
    rfl

/-- The visits of the controllers of one kind. -/
theorem visit_quiesceObject (hns : ns ≠ "") (os : List Object) : ∀ c : Cluster, c.FailureFree → c.WellKept →
    (os.map Object.key).Nodup → (∀ o ∈ os, Listed ns k o ∧ c.objects.get? o.key = some o) →
      ∃ c', outcome (visit (quiesceObject k) os) c = (.ok (os.map (stepOf k)), c') ∧
        Stepped ns c (os.map (stepOf k)) c' := by
  induction os with
  | nil => exact fun c hc _ _ _ => ⟨c, rfl, .nil hc⟩
  | cons o os ih =>
    intro c hc hwell hnd hos
    obtain ⟨hout, hnd'⟩ := List.nodup_cons.1 hnd
    obtain ⟨hl, ho⟩ := hos o (by simp)
    obtain ⟨c₁, hone, hstep⟩ := quiesceObject_ok hns hc hl ho
    have hgoes := Visited.goes (E := fun a _ => a.metadata.ns = none) ho (quiesceObject_visited k c o hl ho)
    rw [hone] at hgoes
    have hcur : ∀ a ∈ os, Listed ns k a ∧ c₁.objects.get? a.key = some a := by
      intro a ha
      refine ⟨(hos a (by simp [ha])).1, ?_⟩
      rw [← (hos a (by simp [ha])).2]
      refine hgoes.moved_last.get?_eq fun b _ hb hS => hout ?_
      rw [← hS.1, hwell _ b hb]
      exact List.mem_map_of_mem ha
    obtain ⟨c₂, hrest, hsteps⟩ := ih c₁ hstep.failureFree (hgoes.moved_last.kept hwell) hnd' hcur
    refine ⟨c₂, ?_, hstep.append hsteps⟩
    rw [visit, outcome_bind_ok hone, outcome_bind_ok hrest]
    rfl

theorem mem_controllers (hc : c.WellKept) : o ∈ controllers ns k c ↔ Listed ns k o ∧ c.objects.get? o.key = some o :=
  mem_listed hc

theorem nodup_controllers (hc : c.WellKept) : ((controllers ns k c).map Object.key).Nodup :=
  (List.filter_sublist.map _).nodup (Cluster.nodup_matching hc k.kind ns none)

/-- The visits of the controllers of kinds. -/
theorem visitKinds_quiesceObject (hns : ns ≠ "") (ks : List WorkloadKind) : ∀ c : Cluster, c.FailureFree →
    c.WellKept → ks.Nodup → ∃ c', outcome (visitKinds quiesceObject ns ks) c = (.ok (stepsOf ns ks c), c') ∧
      Stepped ns c (stepsOf ns ks c) c' := by
  induction ks with
  | nil => exact fun c hc _ _ => ⟨c, rfl, .nil hc⟩
  | cons k ks ih =>
    intro c hc hwell hnd
    obtain ⟨hout, hnd'⟩ := List.nodup_cons.1 hnd
    have hlisted : ∀ o ∈ controllers ns k c, Listed ns k o ∧ c.objects.get? o.key = some o :=
      fun o ho => (mem_controllers hwell).1 ho
    obtain ⟨c₁, hkind, hsteps⟩ := visit_quiesceObject hns _ c hc hwell (nodup_controllers hwell) hlisted
    have hgoes := goes_visit (quiesceObject_visited k) _ c hwell (nodup_controllers hwell) hlisted
    rw [hkind] at hgoes
    have hsame : ∀ k' ∈ ks, controllers ns k' c₁ = controllers ns k' c := by
      intro k' hk'
      refine controllers_congr fun key hkey => hgoes.moved_last.get?_eq fun a _ ha hS => hout ?_
      have hka : key.kind = k.kind := by rw [← hwell key a ha]; exact (hlisted a hS.1).1.kind
      rwa [← kind_injective (hkey.symm.trans hka)]
    obtain ⟨c₂, hrest, hsteps'⟩ := ih c₁ hsteps.failureFree (hgoes.moved_last.kept hwell) hnd'
    have heq : stepsOf ns ks c₁ = stepsOf ns ks c := by
      rw [stepsOf, stepsOf, List.flatMap_def, List.flatMap_def]
      exact congrArg List.flatten (List.map_congr_left fun k' hk' => by rw [hsame k' hk'])
    rw [heq] at hrest hsteps'
    refine ⟨c₂, ?_, ?_⟩
    · rw [visitKinds, outcome_bind_ok (eligible_ok hc ns k), outcome_bind_ok hkind, outcome_bind_ok hrest]
      rfl
    · exact hsteps.append hsteps'

/-! ## What a report names -/

/-- The controllers that a report names. -/
def named (report : QuiesceReport) : List WorkloadRef := report.acted ++ report.skipped

/-- Every step is reported once. -/
theorem named_ofSteps_perm (ns : String) (steps : List QuiesceStep) :
    (named (.ofSteps ns steps)).Perm (steps.map workloadOf) := by
  unfold named QuiesceReport.ofSteps
  induction steps with
  | nil => exact .nil
  | cons step steps ih =>
    cases step with
    | acted w => exact ih.cons w
    | skipped w => exact List.perm_middle.trans (ih.cons w)

theorem workloadOf_stepOf (k : WorkloadKind) (o : Object) : workloadOf (stepOf k o) = refOf k o := by
  unfold stepOf
  split <;> rfl

theorem map_workloadOf_stepsOf (ns : String) (c : Cluster) :
    (stepsOf ns WorkloadKind.all c).map workloadOf = refsOf ns c := by
  rw [stepsOf, refsOf, List.map_flatMap]
  simp only [List.map_map, Function.comp_def, workloadOf_stepOf]

theorem mem_refsOf {w : WorkloadRef} (hc : c.WellKept) :
    w ∈ refsOf ns c ↔ ∃ o, c.objects.get? o.key = some o ∧ Listed ns w.kind o ∧ o.lookupName = w.name := by
  simp only [refsOf, List.mem_flatMap, List.mem_map, mem_controllers hc]
  constructor
  · rintro ⟨k, -, o, ⟨hl, ho⟩, rfl⟩
    exact ⟨o, ho, hl, rfl⟩
  · rintro ⟨o, ho, hl, hname⟩
    exact ⟨w.kind, w.kind.mem_all, o, ⟨hl, ho⟩, by rw [refOf, hname]⟩

/-- No controller is named twice: names of a kind differ, and so do the kinds. -/
theorem nodup_refsOf (hc : c.WellKept) : (refsOf ns c).Nodup := by
  refine List.pairwise_flatMap.2 ⟨fun k _ => ?_, ?_⟩
  · have hkeys : (controllers ns k c).map Object.key =
        ((controllers ns k c).map (refOf k)).map fun w => ⟨w.kind.kind, ns, w.name⟩ := by
      rw [List.map_map]
      refine List.map_congr_left fun o ho => ?_
      have hl := ((mem_controllers hc).1 ho).1
      change Key.mk o.kind (o.metadata.ns.getD "") o.lookupName = ⟨k.kind, ns, o.lookupName⟩
      rw [hl.kind, hl.ns]
    have hnd : ((controllers ns k c).map Object.key).Nodup := nodup_controllers hc
    rw [hkeys] at hnd
    exact List.Pairwise.of_map _ (fun a b h e => h (e ▸ rfl)) hnd
  · refine (show WorkloadKind.all.Nodup by decide).imp fun {k k'} hne w hw w' hw' he => hne ?_
    obtain ⟨o, -, rfl⟩ := List.mem_map.1 hw
    obtain ⟨o', -, rfl⟩ := List.mem_map.1 hw'
    exact congrArg WorkloadRef.kind he

/-- A controller is reported as changed exactly if it ran. -/
theorem mem_acted {w : WorkloadRef} (hc : c.WellKept) :
    w ∈ (QuiesceReport.ofSteps ns (stepsOf ns WorkloadKind.all c)).acted ↔
      ∃ o, c.objects.get? o.key = some o ∧ Listed ns w.kind o ∧ o.lookupName = w.name ∧ ¬AtSentinel w.kind o := by
  simp only [QuiesceReport.ofSteps, stepsOf, List.mem_filterMap, List.mem_flatMap, List.mem_map, mem_controllers hc]
  constructor
  · rintro ⟨_, ⟨k, -, o, ⟨hl, ho⟩, rfl⟩, hacted⟩
    unfold stepOf at hacted
    split at hacted
    · cases hacted
    · rename_i hs
      cases hacted
      exact ⟨o, ho, hl, rfl, fun hat => hs ((isStopped_iff_atSentinel hl.kind).2 hat)⟩
  · rintro ⟨o, ho, hl, hname, hat⟩
    refine ⟨stepOf w.kind o, ⟨w.kind, w.kind.mem_all, o, ⟨hl, ho⟩, rfl⟩, ?_⟩
    have hs : ¬isStopped o = true := fun hs => hat ((isStopped_iff_atSentinel hl.kind).1 hs)
    rw [stepOf, if_neg hs, refOf, hname]
    rfl

/-- Cron jobs are stopped before any other controller. -/
theorem cronJobs_first (ns : String) (c : Cluster) :
    (QuiesceReport.ofSteps ns (stepsOf ns WorkloadKind.all c)).acted.Pairwise
      fun a b => b.kind = .cronJob → a.kind = .cronJob := by
  have hkind : ∀ {k : WorkloadKind} {w : WorkloadRef},
      w ∈ ((controllers ns k c).map (stepOf k)).filterMap (·.acted?) → w.kind = k := by
    intro k w hw
    obtain ⟨_, hstep, hacted⟩ := List.mem_filterMap.1 hw
    obtain ⟨o, -, rfl⟩ := List.mem_map.1 hstep
    unfold stepOf at hacted
    split at hacted <;> cases hacted
    rfl
  have hall : WorkloadKind.all.Pairwise fun k k' => k' = .cronJob → k = .cronJob := by decide
  rw [QuiesceReport.ofSteps, stepsOf, List.filterMap_flatMap, List.pairwise_flatMap]
  refine ⟨fun k _ => List.pairwise_of_forall_mem_list fun a ha b hb he => ?_, hall.imp fun {k k'} h a ha b hb he => ?_⟩
  · rw [hkind ha, ← hkind hb, he]
  · rw [hkind ha]
    exact h ((hkind hb).symm.trans he)

/-! ## Whole calls -/

/-- What a call that came to a report made of the controllers. -/
structure Makes (ns : String) (a : Action) (c c' : Cluster) : Prop where
  failureFree : c'.FailureFree
  kept : c'.WellKept
  /-- Every controller became what the action makes of it. -/
  after : ∀ k o, c.objects.get? o.key = some o → Listed ns k o →
    ∃ o', c'.objects.get? o.key = some o' ∧ a.Makes k o o'
  /-- Every controller came from one. -/
  before : ∀ k o', c'.objects.get? o'.key = some o' → Listed ns k o' →
    ∃ o, c.objects.get? o'.key = some o ∧ Listed ns k o ∧ a.Makes k o o'
  /-- Every other object is as it was. -/
  others : ∀ key, (∀ k o o', c.objects.get? key = some o → Listed ns k o → a.Makes k o o' → o' = o) →
    c'.objects.get? key = c.objects.get? key

theorem served_of_failureFree (hc : c.FailureFree) (k : WorkloadKind) : Served c k := by
  simp [Served, hc.refusal?_eq_none]

theorem makes_of_ok {a : Action} {report : QuiesceReport} (hwell : c.WellKept) (hc : c.FailureFree)
    (h : outcome (a.run ns) c = (.ok report, c')) : Makes ns a c c' := by
  have hgoes := Call.goes ns ⟨a, c.refusals, c.faults⟩ hwell
  have hcall : Call.outcome ns ⟨a, c.refusals, c.faults⟩ c = (.ok report, c') := h
  rw [hcall] at hgoes
  have hmoved : Moved (fun x y => ∃ k, Served c k ∧ Listed ns k x ∧ a.Makes k x y) c c' := hgoes.moved_last
  have hwell' : c'.WellKept := hmoved.kept hwell
  have hafter : ∀ k o, c.objects.get? o.key = some o → Listed ns k o →
      ∃ o', c'.objects.get? o.key = some o' ∧ a.Makes k o o' := by
    intro k o ho hl
    obtain ⟨o', ho', k', -, hl', hmakes⟩ := hgoes.completed report rfl o ho ⟨k, served_of_failureFree hc k, hl⟩
    obtain rfl := kind_injective (hl'.kind.symm.trans hl.kind)
    exact ⟨o', ho', hmakes⟩
  refine ⟨hc.of_rules_eq hmoved.refusals hmoved.faults, hwell', hafter, fun k o' ho' hl => ?_, fun key hstill => ?_⟩
  · rcases hmoved.objects o'.key with he | ⟨o, o'', ho, ho'', k', -, hlo, hmakes⟩
    · obtain ⟨o'', ho'', hmakes⟩ := hafter k o' (he ▸ ho') hl
      cases ho'.symm.trans ho''
      exact ⟨o', he ▸ ho', hl, hmakes⟩
    · cases ho'.symm.trans ho''
      have hkind : o.kind = o'.kind := congrArg Key.kind (hwell _ o ho)
      obtain rfl := kind_injective (hlo.kind.symm.trans (hkind.trans hl.kind))
      exact ⟨o, ho, hlo, hmakes⟩
  · rcases hmoved.objects key with he | ⟨o, o', ho, ho', k, -, hl, hmakes⟩
    · exact he
    · rw [ho', ho, hstill k o o' ho hl hmakes]

/-- What stopping a namespace comes to. -/
structure Quiesced (ns : String) (c : Cluster) (report : QuiesceReport) (c' : Cluster) : Prop where
  place : report.ns = ns
  /-- No controller is reported twice. -/
  once : (named report).Nodup
  /-- The report names every controller that can be stopped and no other object. -/
  reported : ∀ w, w ∈ named report ↔
    ∃ o, c.objects.get? o.key = some o ∧ Listed ns w.kind o ∧ o.lookupName = w.name
  /-- It names those as changed that were not stopped. -/
  acted : ∀ w, w ∈ report.acted ↔
    ∃ o, c.objects.get? o.key = some o ∧ Listed ns w.kind o ∧ o.lookupName = w.name ∧ ¬AtSentinel w.kind o
  /-- Each of them is stopped, with the record of what it did. -/
  stopped : ∀ k o, c.objects.get? o.key = some o → Listed ns k o → ¬AtSentinel k o →
    ∃ o', c'.objects.get? o.key = some o' ∧ StoppedFrom k o o'
  /-- Every other object is as it was. -/
  others : ∀ key, (∀ k o, c.objects.get? key = some o → Listed ns k o → AtSentinel k o) →
    c'.objects.get? key = c.objects.get? key
  /-- The log has one line more for each changed controller, in the order of the report. -/
  log : c'.log = c.log ++ report.acted.map (updateOf ns)
  cronJobsFirst : report.acted.Pairwise fun a b => b.kind = .cronJob → a.kind = .cronJob

section Calls
variable (hns : ns ≠ "") (hwell : c.WellKept) (hc : c.FailureFree)
include hns hwell hc

theorem quiesce_eq : ∃ c', outcome (quiesce ns) c = (.ok (.ofSteps ns (stepsOf ns WorkloadKind.all c)), c') ∧
    Stepped ns c (stepsOf ns WorkloadKind.all c) c' := by
  obtain ⟨c', hrun, hstep⟩ := visitKinds_quiesceObject hns WorkloadKind.all c hc hwell (by decide)
  exact ⟨c', outcome_bind_ok hrun _, hstep⟩

theorem quiesced : ∃ report c', outcome (quiesce ns) c = (.ok report, c') ∧ Quiesced ns c report c' ∧
    (named report).Perm (refsOf ns c) := by
  obtain ⟨c', hrun, hstep⟩ := quiesce_eq hns hwell hc
  have hmakes := makes_of_ok (a := .quiesce) hwell hc hrun
  have hperm := map_workloadOf_stepsOf ns c ▸ named_ofSteps_perm ns (stepsOf ns WorkloadKind.all c)
  refine ⟨_, c', hrun, ⟨rfl, ?_, fun w => ?_, fun w => mem_acted hwell, fun k o ho hl hat => ?_, fun key hstill => ?_,
    hstep.log, cronJobs_first ns c⟩, hperm⟩
  · exact hperm.nodup_iff.2 (nodup_refsOf hwell)
  · rw [hperm.mem_iff, mem_refsOf hwell]
  · obtain ⟨o', ho', hstops⟩ := hmakes.after k o ho hl
    have hrun : isStopped o = false := Bool.eq_false_iff.2 fun hs => hat ((isStopped_iff_atSentinel hl.kind).1 hs)
    exact ⟨o', ho', .of_alike hl.kind (hstops.of_running hrun)⟩
  · refine hmakes.others key fun k o o' ho hl hstops => ?_
    exact Stops.of_stopped hstops ((isStopped_iff_atSentinel hl.kind).2 (hstill k o ho hl))

omit hns in
/-- Stopping leaves a namespace alone that was stopped. -/
theorem quiesce_again {report : QuiesceReport} (h : outcome (quiesce ns) c = (.ok report, c')) :
    outcome (quiesce ns) c' = (.ok ⟨ns, [], refsOf ns c'⟩, c') ∧ (refsOf ns c').Perm (refsOf ns c) := by
  have hmakes := makes_of_ok (a := .quiesce) hwell hc h
  have hstill : ∀ k, ∀ o ∈ controllers ns k c',
      outcome (quiesceObject k o) c' = (.ok (some (.skipped (refOf k o))), c') := by
    intro k o ho
    obtain ⟨hl, hget⟩ := (mem_controllers hmakes.kept).1 ho
    obtain ⟨a, -, hla, hstops⟩ := hmakes.before k o hget hl
    rw [quiesceObject, if_pos (Stops.isStopped_eq hla.kind hstops)]
    rfl
  constructor
  · have hrun := visitKinds_of_still hmakes.failureFree hstill WorkloadKind.all
    rw [quiesce, outcome_bind_ok hrun, outcome_pure]
    simp [QuiesceReport.ofSteps, refsOf, List.filterMap_flatMap, QuiesceStep.acted?, QuiesceStep.skipped?]
  · refine (List.perm_ext_iff_of_nodup (nodup_refsOf hmakes.kept) (nodup_refsOf hwell)).2 fun w => ?_
    rw [mem_refsOf hmakes.kept, mem_refsOf hwell]
    constructor
    · rintro ⟨o', ho', hl, hname⟩
      obtain ⟨o, ho, hlo, -⟩ := hmakes.before w.kind o' ho' hl
      have hkey : o.key = o'.key := hwell _ o ho
      exact ⟨o, hkey ▸ ho, hlo, (congrArg Key.name hkey).trans hname⟩
    · rintro ⟨o, ho, hl, hname⟩
      obtain ⟨o', ho', hstops⟩ := hmakes.after w.kind o ho hl
      have hkey : o'.key = o.key := hmakes.kept _ o' ho'
      exact ⟨o', hkey ▸ ho', Stops.listed hl hstops, (congrArg Key.name hkey).trans hname⟩

omit hns in
/-- Restoring leaves no record, and then nothing to restore. -/
theorem unquiesce_again {report : QuiesceReport} (h : outcome (unquiesce ns) c = (.ok report, c')) :
    (∀ k o, c'.objects.get? o.key = some o → Listed ns k o → o.metadata.annotation? k.recordKey = none) ∧
      outcome (unquiesce ns) c' = (.ok ⟨ns, [], []⟩, c') := by
  have hmakes := makes_of_ok (a := .unquiesce) hwell hc h
  have hnone : ∀ k o, c'.objects.get? o.key = some o → Listed ns k o →
      o.metadata.annotation? k.recordKey = none := by
    intro k o ho hl
    obtain ⟨a, -, -, hresumes⟩ := hmakes.before k o ho hl
    exact Resumes.unrecorded hresumes
  refine ⟨hnone, ?_⟩
  have hstill : ∀ k, ∀ o ∈ controllers ns k c', outcome (unquiesceObject k o) c' = (.ok none, c') := by
    intro k o ho
    obtain ⟨hl, hget⟩ := (mem_controllers hmakes.kept).1 ho
    rw [unquiesceObject, hnone k o hget hl]
    rfl
  have hrun := visitKinds_of_still hmakes.failureFree hstill WorkloadKind.all
  rw [unquiesce, outcome_bind_ok hrun, outcome_pure]
  simp [QuiesceReport.ofSteps]

/-- Where no rule fails an operation, stopping a namespace comes to a report of all its controllers,
and doing it again changes nothing. Nor does restoring it again, once that came to a report. -/
theorem quiesce_settles : ∃ report c', outcome (quiesce ns) c = (.ok report, c') ∧ Quiesced ns c report c' ∧
    (∃ skipped, outcome (quiesce ns) c' = (.ok ⟨ns, [], skipped⟩, c') ∧ skipped.Perm (named report)) ∧
    ∀ restored c'', outcome (unquiesce ns) c = (.ok restored, c'') →
      (∀ k o, c''.objects.get? o.key = some o → Listed ns k o → o.metadata.annotation? k.recordKey = none) ∧
        outcome (unquiesce ns) c'' = (.ok ⟨ns, [], []⟩, c'') := by
  obtain ⟨report, c', hrun, hquiesced, hperm⟩ := quiesced hns hwell hc
  obtain ⟨hagain, hsame⟩ := quiesce_again hwell hc hrun
  exact ⟨report, c', hrun, hquiesced, ⟨_, hagain, hsame.trans hperm.symm⟩, fun _ _ h => unquiesce_again hwell hc h⟩

end Calls

/-- What is not stopped in the shop. -/
theorem openShop_still : ∀ o ∈ [idleSet, ownedSet, ownedPod],
    openShop.objects.get? o.key = some o ∧ ∀ k, Listed "shop" k o → AtSentinel k o := by
  intro o ho
  rcases List.mem_cons.1 ho with rfl | ho
  · refine ⟨rfl, fun k hl => ?_⟩
    obtain rfl : k = .statefulSet := kind_injective hl.kind.symm
    rfl
  rcases List.mem_pair.1 ho with rfl | rfl
  · refine ⟨rfl, fun k hl => ?_⟩
    obtain rfl : k = .replicaSet := kind_injective hl.kind.symm
    cases hl.eligible
  · refine ⟨rfl, fun k hl => ?_⟩
    have hkind := hl.kind
    cases k <;> cases hkind

/-- The controllers that run are stopped, the one that is stopped is skipped, and the rest is left alone. -/
theorem quiesce_settles_openShop : ∃ report c', outcome (quiesce "shop") openShop = (.ok report, c') ∧
    Quiesced "shop" openShop report c' ∧
    report.acted = [⟨.cronJob, "nightly"⟩, ⟨.deployment, "web"⟩] ∧ report.skipped = [⟨.statefulSet, "db"⟩] ∧
    (∀ o ∈ [idleSet, ownedSet, ownedPod], c'.objects.get? o.key = some o) ∧
    (∃ skipped, outcome (quiesce "shop") c' = (.ok ⟨"shop", [], skipped⟩, c') ∧ skipped.Perm (named report)) ∧
    ∀ restored c'', outcome (unquiesce "shop") openShop = (.ok restored, c'') →
      (∀ k o, c''.objects.get? o.key = some o → Listed "shop" k o → o.metadata.annotation? k.recordKey = none) ∧
        outcome (unquiesce "shop") c'' = (.ok ⟨"shop", [], []⟩, c'') := by
  obtain ⟨report, c', hrun, hquiesced, hagain, hrestored⟩ :=
    quiesce_settles (by decide : "shop" ≠ "") fresh_openShop.kept ⟨rfl, rfl⟩
  have hreport : report = ⟨"shop", [⟨.cronJob, "nightly"⟩, ⟨.deployment, "web"⟩], [⟨.statefulSet, "db"⟩]⟩ := by
    have hresult := congrArg (·.1.toOption) hrun
    exact Option.some.inj (hresult.symm.trans (by decide +kernel))
  refine ⟨report, c', hrun, hquiesced, by rw [hreport], by rw [hreport], fun o ho => ?_, hagain, hrestored⟩
  obtain ⟨hget, hstill⟩ := openShop_still o ho
  rw [hquiesced.others o.key, hget]
  intro k o' ho' hl
  cases hget.symm.trans ho'
  exact hstill k hl

end Quiesce

end VolumeMigration
