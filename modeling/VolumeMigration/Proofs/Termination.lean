import VolumeMigration.Command.Quiesce
import VolumeMigration.Proofs.Polling
import VolumeMigration.Proofs.QuiesceReports
/-!
# When the writers of a namespace have ended

A namespace is stopped first, and then its pods are looked at until none may
write any more. While nobody but pods changes, the controllers stay as stopping
left them, so the wait ends in a cluster where every controller that the cluster
serves is stopped and no pod may write, at the first look at which that is so
(`quiesceAndWait_ends`). A kind that the cluster says it does not serve is left
alone (`quiesceAndWait_unserved_runs`).
-/

namespace VolumeMigration.Quiesce

open Attempt

variable {ns : String} {k : WorkloadKind} {c c' : Cluster} {f : Failure}

/-! ## Pods that may write -/

/-- A pod that belongs to a controller and has not ended. One that has reported no phase has not. -/
structure MayWrite (pod : Object) : Prop where
  owned : ∃ owner ∈ pod.metadata.owners.getD [],
    owner.kind ∈ ["ReplicationController", "StatefulSet", "ReplicaSet", "DaemonSet", "Job"]
  alive : ∀ phase ∈ ["Succeeded", "Failed", "Unknown"], pod.podPhase? ≠ some phase

theorem isActiveWriter_iff (pod : Object) : isActiveWriter pod = true ↔ MayWrite pod := by
  have howned : ((pod.metadata.owners.getD []).any fun o => writerOwners.contains o.kind) = true ↔
      ∃ owner ∈ pod.metadata.owners.getD [], owner.kind ∈ writerOwners := by
    simp only [List.any_eq_true, List.contains_iff_mem]
  have halive : (!(pod.podPhase?.any finalPhases.contains)) = true ↔
      ∀ phase ∈ finalPhases, pod.podPhase? ≠ some phase := by
    cases pod.podPhase? with
    | none => simp
    | some phase =>
      simp only [Option.any_some, Bool.not_eq_true', ← Bool.not_eq_true, List.contains_iff_mem]
      constructor
      · intro h phase' hmem he
        exact h (Option.some.inj he ▸ hmem)
      · intro h hmem
        exact h phase hmem rfl
  rw [isActiveWriter, Bool.and_eq_true, howned, halive]
  exact ⟨fun h => ⟨h.1, h.2⟩, fun h => ⟨h.owned, h.alive⟩⟩

/-- No pod of the namespace may write. -/
def Quiet (ns : String) (c : Cluster) : Prop :=
  ∀ key pod, c.objects.get? key = some pod → key.kind = .pod → key.ns = ns → ¬MayWrite pod

/-- The cluster fails to list the pods of the namespace. -/
def Unlisted (ns : String) (c : Cluster) (f : Failure) : Prop := (outcome (Cluster.list .pod ns) c).1 = .error f

theorem quiet_iff : Quiet ns c ↔ ∀ pod ∈ c.matching .pod ns none, ¬MayWrite pod := by
  simp only [Cluster.matching, Option.all_none, List.mem_map, List.mem_filter, Bool.and_eq_true, beq_iff_eq,
    SortedMap.toList, Prod.exists, and_true]
  constructor
  · rintro h pod ⟨key, pod, ⟨hmem, hkind, hns⟩, rfl⟩
    exact h key pod ((SortedMap.mem_entries_iff c.objects key pod).1 hmem) hkind hns
  · intro h key pod hget hkind hns
    exact h pod ⟨key, pod, ⟨(SortedMap.mem_entries_iff c.objects key pod).2 hget, hkind, hns⟩, rfl⟩

/-- What looking at the pods comes to: it says whether the namespace is quiet, unless the pods are not listed. -/
theorem hasTerminated_cases (ns : String) (c : Cluster) :
    (∃ f, outcome (hasTerminated ns) c = (.error f, c) ∧ Unlisted ns c f) ∨
    ∃ b, outcome (hasTerminated ns) c = (.ok b, c) ∧ (∀ f, ¬Unlisted ns c f) ∧ (b = true ↔ Quiet ns c) := by
  have hlist := Cluster.list_outcome c .pod ns none
  unfold Unlisted hasTerminated activeWriters
  rw [outcome_bind, outcome_bind]
  cases hrefusal : c.refusal? .list .pod "" with
  | some f =>
    simp only [hrefusal] at hlist
    exact .inl ⟨f, by simp [hlist], by simp [hlist]⟩
  | none =>
    cases hfault : c.fault? .list .pod "" with
    | some f =>
      simp only [hrefusal, hfault] at hlist
      exact .inl ⟨f, by simp [hlist], by simp [hlist]⟩
    | none =>
      simp only [hrefusal, hfault] at hlist
      simp only [hlist, outcome_pure]
      refine .inr ⟨_, rfl, by simp, ?_⟩
      rw [quiet_iff, List.isEmpty_iff, List.map_eq_nil_iff, List.filter_eq_nil_iff]
      simp only [isActiveWriter_iff]

theorem hasTerminated_reads (ns : String) : Reads (hasTerminated ns) := by
  intro c
  rcases hasTerminated_cases ns c with ⟨f, h, -⟩ | ⟨b, h, -⟩ <;> rw [h]

theorem hasTerminated_error_iff : (outcome (hasTerminated ns) c).1 = .error f ↔ Unlisted ns c f := by
  rcases hasTerminated_cases ns c with ⟨g, h, hunlisted⟩ | ⟨b, h, hlisted, -⟩
  · rw [h]
    constructor
    · intro he
      cases he
      exact hunlisted
    · intro hf
      cases hunlisted.symm.trans hf
      rfl
  · rw [h]
    exact ⟨fun he => (nomatch he), fun hf => absurd hf (hlisted f)⟩

theorem hasTerminated_ok_iff {b : Bool} :
    (outcome (hasTerminated ns) c).1 = .ok b ↔ (∀ f, ¬Unlisted ns c f) ∧ (b = true ↔ Quiet ns c) := by
  rcases hasTerminated_cases ns c with ⟨f, h, hunlisted⟩ | ⟨quiet, h, hlisted, hquiet⟩
  · rw [h]
    exact ⟨fun he => (nomatch he), fun hb => absurd hunlisted (hb.1 f)⟩
  · rw [h, ← hquiet, Except.ok.injEq, and_iff_right hlisted, Bool.eq_iff_iff]
    exact Iff.comm

theorem hasTerminated_true_iff :
    (outcome (hasTerminated ns) c).1 = .ok true ↔ (∀ f, ¬Unlisted ns c f) ∧ Quiet ns c := by
  simp [hasTerminated_ok_iff]

theorem hasTerminated_false_iff :
    (outcome (hasTerminated ns) c).1 = .ok false ↔ (∀ f, ¬Unlisted ns c f) ∧ ¬Quiet ns c := by
  simp [hasTerminated_ok_iff]

/-! ## Controllers that stay stopped -/

/-- Stopping leaves every controller of a kind that the cluster serves at its sentinel. -/
theorem atSentinel_of_quiesce {report : QuiesceReport} (hwell : c.WellKept)
    (hrun : outcome (quiesce ns) c = (.ok report, c')) (hserved : Served c k) {o : Object}
    (ho : c'.objects.get? o.key = some o) (hl : Listed ns k o) : AtSentinel k o := by
  have hgoes := Call.goes ns ⟨.quiesce, c.refusals, c.faults⟩ hwell
  have hcall : Call.outcome ns ⟨.quiesce, c.refusals, c.faults⟩ c = (.ok report, c') := hrun
  rw [hcall] at hgoes
  apply (isStopped_iff_atSentinel hl.kind).1
  rcases hgoes.moved_last.objects o.key with hsame | ⟨a, b, ha, hb, k', -, hla, hstops⟩
  · obtain ⟨b, hb, k', -, hlo, hstops⟩ := hgoes.completed report rfl o (hsame ▸ ho) ⟨k, hserved, hl⟩
    cases ho.symm.trans hb
    obtain rfl := kind_injective (hlo.kind.symm.trans hl.kind)
    exact Stops.isStopped_eq hl.kind hstops
  · cases ho.symm.trans hb
    exact Stops.isStopped_eq hla.kind hstops

/-- Every controller of the namespace of a kind that is served is stopped, and no pod may write. -/
structure AtRest (ns : String) (served : WorkloadKind → Prop) (c : Cluster) : Prop where
  controllers : ∀ key k o, c.objects.get? key = some o → key.kind = k.kind → key.ns = ns → isEligible k o = true →
    served k → AtSentinel k o
  quiet : Quiet ns c

/-- Others change pods only. -/
def ChangesPods (change : Cluster → Cluster) : Prop :=
  ∀ c key, key.kind ≠ .pod → (change c).objects.get? key = c.objects.get? key

/-- What is no pod stays as it is while others change pods only. -/
theorem get?_of_passes {w w' : Timed Cluster} (h : w.Passes w') (hpods : ∀ e ∈ w.coming, ChangesPods e.change)
    {key : Key} (hkey : key.kind ≠ .pod) : w'.state.objects.get? key = w.state.objects.get? key := by
  have hkeeps : w.Keeps fun c => c.objects.get? key = w.state.objects.get? key := by
    refine ⟨rfl, fun e he c hc => ?_⟩
    rw [hpods e he c key hkey, hc]
  exact (hkeeps.passes h).state

/-- Once a namespace is stopped and while others change pods only, it is at rest as soon as it is quiet. -/
theorem atRest_iff_quiet {report : QuiesceReport} {w w' : Timed Cluster} (hwell : c.WellKept)
    (hrun : outcome (quiesce ns) c = (.ok report, w.state)) (hpods : ∀ e ∈ w.coming, ChangesPods e.change)
    (h : w.Passes w') : AtRest ns (Served c) w'.state ↔ Quiet ns w'.state := by
  have hgoes := Call.goes ns ⟨.quiesce, c.refusals, c.faults⟩ hwell
  have hcall : Call.outcome ns ⟨.quiesce, c.refusals, c.faults⟩ c = (.ok report, w.state) := hrun
  rw [hcall] at hgoes
  refine ⟨fun hrest => hrest.quiet, fun hquiet => ⟨?_, hquiet⟩⟩
  intro key k o ho hkind hns heligible hserved
  have hpod : key.kind ≠ .pod := by
    rw [hkind]
    cases k <;> decide
  rw [get?_of_passes h hpods hpod] at ho
  have hkey := hgoes.moved_last.kept hwell key o ho
  subst hkey
  exact atSentinel_of_quiesce hwell hrun hserved ho ⟨hkind, hns, heligible⟩

/-! ## Waiting for the writers -/

/-- The look with the given number is the first one to see a state with a property. -/
structure FirstLook (interval : Nat) (w : Timed Cluster) (P : Cluster → Prop) (k : Nat) (w' : Timed Cluster) :
    Prop where
  seen : w' = w.atLook interval k
  /-- As many intervals have passed as looks were in vain. -/
  time : w'.now = w.now + k * interval
  holds : P w'.state
  first : ∀ j < k, ¬P (w.atLook interval j).state

/-- How a wait for the writers of a stopped namespace ends: at the first look that sees the namespace at rest or
cannot see its pods. -/
structure EndsAtRest (ns : String) (served : WorkloadKind → Prop) (p : Patience) (report : QuiesceReport)
    (w : Timed Cluster) (done : Except CommandFailure QuiesceReport × Timed Cluster) : Prop where
  returned : ∀ r w', done = (.ok r, w') ↔ r = report ∧ ∃ k, k * p.interval ≤ p.last w.now - w.now ∧
    FirstLook p.interval w (fun c => AtRest ns served c ∨ ∃ f, Unlisted ns c f) k w' ∧
    AtRest ns served w'.state ∧ ∀ f, ¬Unlisted ns w'.state f
  failed : ∀ f w', done = (.error (.failure f), w') ↔ ∃ k, k * p.interval ≤ p.last w.now - w.now ∧
    FirstLook p.interval w (fun c => AtRest ns served c ∨ ∃ f, Unlisted ns c f) k w' ∧ Unlisted ns w'.state f

/-- In a namespace that is at rest as soon as it is quiet, looking at the pods has its first answer at the first look
that sees the namespace at rest or cannot see its pods. -/
theorem answersAt_iff {served : WorkloadKind → Prop} {interval n : Nat} {w : Timed Cluster} {r : Result Bool}
    (hrest : ∀ j, AtRest ns served (w.atLook interval j).state ↔ Quiet ns (w.atLook interval j).state)
    (hholds : AtRest ns served (w.atLook interval n).state ∨ ∃ f, Unlisted ns (w.atLook interval n).state f) :
    AnswersAt (hasTerminated ns) interval w n r ↔
      FirstLook interval w (fun c => AtRest ns served c ∨ ∃ f, Unlisted ns c f) n (w.atLook interval n) ∧
        (outcome (hasTerminated ns) (w.atLook interval n).state).1 = r := by
  have hvain : ∀ j, (outcome (hasTerminated ns) (w.atLook interval j).state).1 = .ok false ↔
      ¬(AtRest ns served (w.atLook interval j).state ∨ ∃ f, Unlisted ns (w.atLook interval j).state f) := by
    intro j
    rw [hasTerminated_false_iff, hrest j, not_or, not_exists, and_comm]
  constructor
  · intro h
    exact ⟨⟨rfl, w.now_atLook interval n, hholds, fun j hj => (hvain j).1 (h.waited j hj)⟩, h.answer⟩
  · rintro ⟨hlook, hanswer⟩
    exact ⟨fun j hj => (hvain j).2 (hlook.first j hj), hanswer⟩

/-- The wait of a namespace that is at rest as soon as it is quiet. -/
theorem endsAtRest_of_await {served : WorkloadKind → Prop} {p : Patience} (hinterval : 0 < p.interval) (what : String)
    (report : QuiesceReport) {w : Timed Cluster}
    (hrest : ∀ k, AtRest ns served (w.atLook p.interval k).state ↔ Quiet ns (w.atLook p.interval k).state) :
    EndsAtRest ns served p report w
      (Command.outcome (do awaitTermination p what ns; return report : Command Cluster QuiesceReport) w) := by
  have hreads := hasTerminated_reads ns
  constructor
  · intro r w'
    rw [Command.outcome_return_ok_iff, awaitTermination, Command.await_ok_iff hreads hinterval]
    constructor
    · rintro ⟨rfl, k, hk, hanswer, rfl⟩
      obtain ⟨hlisted, hquiet⟩ := hasTerminated_true_iff.1 hanswer.answer
      have hat := (hrest k).2 hquiet
      exact ⟨rfl, k, hk, ((answersAt_iff hrest (.inl hat)).1 hanswer).1, hat, hlisted⟩
    · rintro ⟨rfl, k, hk, hlook, hat, hlisted⟩
      obtain rfl := hlook.seen
      have hanswer := hasTerminated_true_iff.2 ⟨hlisted, hat.quiet⟩
      exact ⟨rfl, k, hk, (answersAt_iff hrest (.inl hat)).2 ⟨hlook, hanswer⟩, rfl⟩
  · intro f w'
    rw [Command.outcome_return_error_iff, awaitTermination, Command.await_failed_iff hreads hinterval]
    constructor
    · rintro ⟨k, hk, hanswer, rfl⟩
      have hunlisted := hasTerminated_error_iff.1 hanswer.answer
      exact ⟨k, hk, ((answersAt_iff hrest (.inr ⟨f, hunlisted⟩)).1 hanswer).1, hunlisted⟩
    · rintro ⟨k, hk, hlook, hunlisted⟩
      obtain rfl := hlook.seen
      have hanswer := hasTerminated_error_iff.2 hunlisted
      exact ⟨k, hk, (answersAt_iff hrest (.inr ⟨f, hunlisted⟩)).2 ⟨hlook, hanswer⟩, rfl⟩

/-! ## Stopping and waiting -/

/-- A namespace is stopped, and then others change pods only. The wait for its writers returns at the first look
at which every controller of a kind that the cluster served is at its sentinel and no pod may write, and it fails
with the failure of a look that cannot list the pods. If stopping fails, nothing is waited for. -/
theorem quiesceAndWait_ends (options : QuiesceOptions) (hwait : options.wait = true) {w : Timed Cluster}
    (hwell : w.state.WellKept) (hpods : ∀ e ∈ w.coming, ChangesPods e.change) (ns : String) (timeout : Option Nat)
    (horizon : Nat) (what : String) :
    (∀ f c, outcome (quiesce ns) w.state = (.error f, c) →
      Command.outcome (quiesceAndWait ns options timeout horizon what) w =
        (.error (.failure f), { w with state := c })) ∧
    ∀ report c, outcome (quiesce ns) w.state = (.ok report, c) →
      EndsAtRest ns (Served w.state) { interval := options.pollInterval * 1000, timeout, horizon } report
        { w with state := c } (Command.outcome (quiesceAndWait ns options timeout horizon what) w) := by
  constructor
  · intro f c hrun
    exact Command.outcome_bind_error (Command.outcome_attempt hrun) _
  · intro report c hrun
    rw [quiesceAndWait, Command.outcome_bind_ok (Command.outcome_attempt hrun)]
    simp only [hwait, if_true]
    refine endsAtRest_of_await ?_ what report fun k => ?_
    · change 0 < max options.pollIntervalSeconds 1 * 1000
      omega
    · exact atRest_iff_quiet hwell (w := { w with state := c }) hrun hpods (Timed.passes_atLook _ k _)

/-- A pod of the deployment, in a phase. -/
def writer (phase : String) : Object :=
  { metadata := { name := some "web-0", ns := some "shop", owners := some [{ kind := "ReplicaSet" }] }
    content := .pod (some {}) (some { phase := some phase }) }

/-- A namespace with a deployment whose pod goes on running for a while. -/
def busy : Timed Cluster where
  state := (({} : Cluster).place threePods).place (writer "Running")
  coming := [⟨6500, fun c => c.place (writer "Succeeded")⟩]

theorem changesPods_place_writer (phase : String) : ChangesPods fun c => c.place (writer phase) := by
  intro c key hkey
  rw [Cluster.get?_place, if_neg]
  rintro rfl
  exact hkey rfl

theorem quiesceAndWait_ends_busy : ∃ report c, outcome (quiesce "shop") busy.state = (.ok report, c) ∧
    EndsAtRest "shop" (Served busy.state) { interval := 5000, horizon := 3600000 } report { busy with state := c }
      (Command.outcome (quiesceAndWait "shop" {} none 3600000 "the writers") busy) := by
  have hwell : busy.state.WellKept := (Cluster.wellKept_empty.place threePods).place (writer "Running")
  have hpods : ∀ e ∈ busy.coming, ChangesPods e.change := by
    intro e he
    rw [List.mem_singleton.1 he]
    exact changesPods_place_writer "Succeeded"
  exact ⟨_, _, rfl, (quiesceAndWait_ends {} rfl hwell hpods "shop" none 3600000 "the writers").2 _ _ rfl⟩

/-- The pod ends between the second look and the third one. -/
example : (Command.outcome (quiesceAndWait "shop" {} none 3600000 "the writers") busy).2.now = 10000 := by
  decide +kernel

/-- A deployment configuration of three pods. -/
def configured : Object :=
  { metadata := { name := some "web", ns := some "shop" }, content := .deploymentConfig { replicas := some 3 } }

/-- A cluster that keeps a deployment configuration and answers that it does not serve any. -/
def unserving : Cluster :=
  { ({} : Cluster).place configured with
    refusals := [({ operation := .list, kind := .deploymentConfig }, .notFound "DeploymentConfig" ⟨"shop", ""⟩)] }

/-- The wait returns, and the deployment configuration has its three pods. -/
theorem quiesceAndWait_unserved_runs : unserving.WellKept ∧ ∃ report w,
    Command.outcome (quiesceAndWait "shop" {} none 3600000 "the writers") { state := unserving } = (.ok report, w) ∧
      w.state.objects.get? configured.key = some configured ∧ ¬AtRest "shop" (fun _ => True) w.state := by
  refine ⟨Cluster.wellKept_empty.place configured, _, _, rfl, rfl, fun hrest => ?_⟩
  have hstopped := hrest.controllers configured.key .deploymentConfig configured rfl rfl rfl rfl True.intro
  exact absurd hstopped (show configured.content.setting? ≠ some (.stopped .deploymentConfig) by decide)

end VolumeMigration.Quiesce
