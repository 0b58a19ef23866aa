import VolumeMigration.Proofs.QuiesceVisits
/-!
# Runs of stopping and restoring

Over any sequence of calls, each of which may fail midway, a controller that ran
at the start is at every moment either stopped, with the record of its setting
from the start, or runs with that setting (`reversible_of_mem_runStates`). So restoring
never finds a record that it cannot read, and brings every controller back.
-/

namespace VolumeMigration.Quiesce

open Attempt

/-! ## Calls -/

inductive Action where
  | quiesce
  | unquiesce
deriving DecidableEq, Repr

namespace Action

/-- What an action does with one controller. -/
def visitor : Action → WorkloadKind → Object → Attempt Cluster (Option QuiesceStep)
  | quiesce => quiesceObject
  | unquiesce => unquiesceObject

/-- An action on a namespace. -/
def run (ns : String) : Action → Attempt Cluster QuiesceReport
  | quiesce => VolumeMigration.quiesce ns
  | unquiesce => VolumeMigration.unquiesce ns

/-- What an action makes of a controller. -/
def Makes : Action → WorkloadKind → Object → Object → Prop
  | quiesce => Stops
  | unquiesce => Resumes

/-- The failures of an action on a controller: one without a namespace cannot be written. -/
def Fails : Action → WorkloadKind → Object → Failure → Prop
  | quiesce => fun _ o _ => o.metadata.ns = none
  | unquiesce => fun k o f => o.metadata.ns = none ∨ RecordFails k o f

end Action

/-- A call of an action, with the rules by which operations fail during the call. -/
structure Call where
  action : Action
  refusals : List (FaultRule × Failure) := []
  faults : List FaultRule := []

namespace Call

/-- The cluster under the rules of a call. -/
def start (call : Call) (c : Cluster) : Cluster := { c with refusals := call.refusals, faults := call.faults }

/-- The result of a call, and the cluster after it. -/
def outcome (ns : String) (call : Call) (c : Cluster) : Result QuiesceReport × Cluster :=
  Attempt.outcome (call.action.run ns) (call.start c)

/-- The states that a call passes through. -/
def states (ns : String) (call : Call) (c : Cluster) : List Cluster :=
  call.start c :: kindStates call.action.visitor ns WorkloadKind.all (call.start c)

end Call

/-- The states that calls pass through, one call after the other. -/
def runStates (ns : String) : List Call → Cluster → List Cluster
  | [], c => [c]
  | call :: calls, c => c :: call.states ns c ++ runStates ns calls (call.outcome ns c).2

/-! ## One call -/

variable {ns : String} {k : WorkloadKind} {c c₀ : Cluster}

theorem visitor_visited (ns : String) (a : Action) (k : WorkloadKind) (c : Cluster) (o : Object) (hl : Listed ns k o)
    (ho : c.objects.get? o.key = some o) :
    Visited (a.Makes k) (a.Fails k o) ns c o (Attempt.outcome (a.visitor k o) c) := by
  cases a with
  | quiesce => exact quiesceObject_visited k c o hl ho
  | unquiesce => exact unquiesceObject_visited k c o hl ho

theorem run_eq (ns : String) (a : Action) :
    a.run ns = .ofSteps ns <$> visitKinds a.visitor ns WorkloadKind.all := by
  cases a <;> rfl

/-- What a call comes to. -/
theorem Call.goes (ns : String) (call : Call) (hc : c.WellKept) :
    Goes (fun a b => ∃ k, Served (call.start c) k ∧ Listed ns k a ∧ call.action.Makes k a b)
      (fun a => ∃ k, Served (call.start c) k ∧ Listed ns k a)
      (fun a f => ∃ k, Listed ns k a ∧ call.action.Fails k a f) (call.start c)
      (kindStates call.action.visitor ns WorkloadKind.all (call.start c))
      (call.outcome ns c).1 (call.outcome ns c).2 := by
  have h := goes_visitKinds (visitor_visited ns call.action) WorkloadKind.all (call.start c) hc (by decide)
  rw [Call.outcome, run_eq, outcome_map]
  refine (h.map (QuiesceReport.ofSteps ns)).mono ?_ ?_ ?_
  · rintro a b ⟨k, -, h⟩
    exact ⟨k, h⟩
  · rintro a - ⟨k, h⟩
    exact ⟨k, k.mem_all, h⟩
  · rintro a f ⟨k, -, h⟩
    exact ⟨k, h⟩

/-! ## What calls lead to -/

/-- A cluster before its first call: no controller of the namespace has a record, and numbers of pods
are of 32 bits and not negative. -/
structure Fresh (ns : String) (c : Cluster) : Prop where
  kept : c.WellKept
  unrecorded : ∀ k o, c.objects.get? o.key = some o → Listed ns k o →
    o.metadata.annotation? k.recordKey = none
  counts : ∀ k o n, c.objects.get? o.key = some o → Listed ns k o →
    o.content.setting? = some (.replicas n) → 0 ≤ n ∧ n ≤ Text.maxInt32

theorem Fresh.empty (ns : String) : Fresh ns {} where
  kept := Cluster.wellKept_empty
  unrecorded _ _ h := by cases h
  counts _ _ _ h := by cases h

/-- An object without annotations, and with a number of pods that fits if it has one, may be there as well. -/
theorem Fresh.place (h : Fresh ns c) (o : Object) (hnew : o.metadata.annotations = none)
    (hcount : ∀ n, o.content.setting? = some (.replicas n) → 0 ≤ n ∧ n ≤ Text.maxInt32) : Fresh ns (c.place o) := by
  refine ⟨h.kept.place o, ?_, ?_⟩
  · intro k o' ho' hl
    rw [Cluster.get?_place] at ho'
    split at ho'
    · cases ho'
      rw [Metadata.annotation?, hnew]
      rfl
    · exact h.unrecorded k o' ho' hl
  · intro k o' n ho' hl hn
    rw [Cluster.get?_place] at ho'
    split at ho'
    · cases ho'
      exact hcount n hn
    · exact h.counts k o' n ho' hl hn

/-- A cluster whose controllers are each as at the start, or on their course since they ran then. -/
structure Tracks (ns : String) (c₀ c : Cluster) : Prop where
  kept : c.WellKept
  objects : ∀ key, c.objects.get? key = c₀.objects.get? key ∨
    ∃ k o o', c₀.objects.get? key = some o ∧ Listed ns k o ∧ isStopped o = false ∧
      c.objects.get? key = some o' ∧ Course k o o'

theorem Fresh.fits (h : Fresh ns c) {o : Object} (ho : c.objects.get? o.key = some o) (hl : Listed ns k o) :
    (settingOf k o).Fits k := by
  have hcounts := h.counts k o
  unfold settingOf
  cases hs : o.content.setting? with
  | none => exact Setting.fits_unset k
  | some s => exact Content.fits_of_setting? hl.kind hs fun n hn => hcounts n ho hl (hn ▸ hs)

/-- What a call makes of a controller on its course. -/
theorem Course.makes {a : Action} {o o' o'' : Object} (hk : o.kind = k.kind) (hfit : (settingOf k o).Fits k)
    (hnew : o.metadata.annotation? k.recordKey = none) (hrun : isStopped o = false) (h : Course k o o')
    (hm : a.Makes k o' o'') : Course k o o'' := by
  cases a with
  | quiesce => exact h.stops hk hfit hrun hm
  | unquiesce => exact h.resumes hk hfit hnew hm

/-- A controller that is stopped and has no record stays as it is. -/
theorem Action.Makes.eq_of_stopped {a : Action} {o o' : Object} (h : a.Makes k o o')
    (hnew : o.metadata.annotation? k.recordKey = none) (hs : isStopped o = true) : o' = o := by
  cases a with
  | quiesce => exact Stops.of_stopped h hs
  | unquiesce => exact Resumes.of_fresh h hnew

section Steps
variable (hfresh : Fresh ns c₀)
include hfresh

/-- The controllers of a tracked cluster by what they were at the start. -/
theorem Tracks.course (h : Tracks ns c₀ c) {o' : Object} (ho' : c.objects.get? o'.key = some o')
    (hl : Listed ns k o') :
    (isStopped o' = true ∧ c₀.objects.get? o'.key = some o' ∧ o'.metadata.annotation? k.recordKey = none) ∨
    ∃ o, c₀.objects.get? o'.key = some o ∧ o.key = o'.key ∧ Listed ns k o ∧ isStopped o = false ∧
      Course k o o' := by
  rcases h.objects o'.key with he | ⟨k', o, d, ho, hlo, hrun, hd, hco⟩
  · rw [ho'] at he
    cases hs : isStopped o' with
    | true => exact .inl ⟨rfl, he.symm, hfresh.unrecorded k o' he.symm hl⟩
    | false => exact .inr ⟨o', he.symm, rfl, hl, hs, .untouched⟩
  · cases ho'.symm.trans hd
    have hk : k' = k := kind_injective (hlo.kind.symm.trans (hco.kind_eq.symm.trans hl.kind))
    subst hk
    exact .inr ⟨o, ho, hfresh.kept _ o ho, hlo, hrun, hco⟩

/-- Every state that a call passes through is tracked. -/
theorem Tracks.moved (h : Tracks ns c₀ c) {a : Action} {d : Cluster}
    (hm : Moved (fun x y => ∃ k, Served c k ∧ Listed ns k x ∧ a.Makes k x y) c d) : Tracks ns c₀ d := by
  -- A key that did not move keeps its course, one that did takes the next step of it.
  refine ⟨hm.kept h.kept, fun key => ?_⟩
  rcases hm.objects key with he | ⟨o', o'', ho', ho'', k, -, hl, hmake⟩
  · rcases h.objects key with he' | ⟨k, o, o', ho, hl, hrun, ho', hco⟩
    · exact .inl (he.trans he')
    · exact .inr ⟨k, o, o', ho, hl, hrun, he.trans ho', hco⟩
  · have hkey : o'.key = key := h.kept key o' ho'
    subst hkey
    rcases h.course hfresh ho' hl with ⟨hs, ho, hnew⟩ | ⟨o, ho, hkey, hlo, hrun, hco⟩
    · rw [hmake.eq_of_stopped hnew hs] at ho''
      exact .inl (ho''.trans ho.symm)
    · have ho₀ : c₀.objects.get? o.key = some o := hkey ▸ ho
      exact .inr ⟨k, o, o'', ho, hlo, hrun, ho'',
        hco.makes hlo.kind (hfresh.fits ho₀ hlo) (hfresh.unrecorded k o ho₀ hlo) hrun hmake⟩

theorem Tracks.states (h : Tracks ns c₀ c) (call : Call) :
    (∀ d ∈ call.states ns c, Tracks ns c₀ d) ∧ Tracks ns c₀ (call.outcome ns c).2 := by
  have hstart : Tracks ns c₀ (call.start c) := ⟨h.kept, h.objects⟩
  have hgoes := call.goes ns h.kept
  refine ⟨fun d hd => ?_, hstart.moved hfresh hgoes.moved_last⟩
  rcases List.mem_cons.1 hd with rfl | hd
  · exact hstart
  · exact hstart.moved hfresh (hgoes.moved d hd)

/-- Every state of a run is tracked. -/
theorem Tracks.runStates (calls : List Call) :
    ∀ c, Tracks ns c₀ c → ∀ d ∈ runStates ns calls c, Tracks ns c₀ d := by
  induction calls with
  | nil =>
    intro c h d hd
    rw [List.mem_singleton.1 hd]
    exact h
  | cons call calls ih =>
    intro c h d hd
    obtain ⟨hstates, hlast⟩ := h.states hfresh call
    rcases List.mem_append.1 hd with hd | hd
    · rcases List.mem_cons.1 hd with rfl | hd
      · exact h
      · exact hstates d hd
    · exact ih _ hlast d hd

end Steps

/-! ## Reversibility -/

/-- What remains true of a cluster since the start, whatever calls there were. -/
structure Reversible (ns : String) (c₀ c : Cluster) : Prop where
  /-- A controller that ran is stopped with the record of its setting, or runs with that setting. -/
  controllers : ∀ k o, c₀.objects.get? o.key = some o → Listed ns k o → isStopped o = false →
    ∃ o', c.objects.get? o.key = some o' ∧ (Halted k o o' ∨ Running k o o')
  /-- Under every other key the cluster is as it was, a stopped controller included. -/
  others : ∀ key, (∀ k o, c₀.objects.get? key = some o → Listed ns k o → isStopped o = true) →
    c.objects.get? key = c₀.objects.get? key
  /-- Every record of a controller can be read. -/
  records : ∀ k o text, c.objects.get? o.key = some o → Listed ns k o →
    o.metadata.annotation? k.recordKey = some text → ∃ s, Setting.decode k text = .ok s
  /-- Restoring fails only as a rule of the cluster says. -/
  failures : ∀ call : Call, call.action = .unquiesce → ∀ f, (call.outcome ns c).1 = .error f →
    (call.start c).Injects f
  /-- Restoring without such rules brings back every controller that ran. -/
  restored : ∃ report c', Call.outcome ns ⟨.unquiesce, [], []⟩ c = (.ok report, c') ∧
    ∀ k o, c₀.objects.get? o.key = some o → Listed ns k o → isStopped o = false →
      ∃ o', c'.objects.get? o.key = some o' ∧ Running k o o'

section Reversible
variable (hfresh : Fresh ns c₀)
include hfresh

omit hfresh in
/-- What became of a controller that ran at the start. -/
theorem Tracks.course_of_running (h : Tracks ns c₀ c) {o : Object} (ho : c₀.objects.get? o.key = some o)
    (hl : Listed ns k o) : ∃ o', c.objects.get? o.key = some o' ∧ o'.key = o.key ∧ Course k o o' := by
  rcases h.objects o.key with he | ⟨k', a, o', ha, hla, -, ho', hco⟩
  · exact ⟨o, he.trans ho, rfl, .untouched⟩
  · cases ho.symm.trans ha
    have hk : k' = k := kind_injective (hla.kind.symm.trans hl.kind)
    subst hk
    exact ⟨o', ho', h.kept _ o' ho', hco⟩

theorem Tracks.records (h : Tracks ns c₀ c) {o : Object} {text : String} (ho : c.objects.get? o.key = some o)
    (hl : Listed ns k o) (hr : o.metadata.annotation? k.recordKey = some text) :
    ∃ s, Setting.decode k text = .ok s := by
  rcases h.course hfresh ho hl with ⟨-, -, hnew⟩ | ⟨a, ha, hkey, hla, -, hco⟩
  · rw [hnew] at hr
    cases hr
  · have ha' : c₀.objects.get? a.key = some a := hkey ▸ ha
    obtain ⟨-, rfl⟩ := Course.record_eq (hfresh.unrecorded k a ha' hla) hco hr
    exact ⟨_, Setting.decode_encode (hfresh.fits ha' hla)⟩

theorem Tracks.failures (hns : ns ≠ "") (h : Tracks ns c₀ c) {call : Call} (hcall : call.action = .unquiesce)
    {f : Failure} (hf : (call.outcome ns c).1 = .error f) : (call.start c).Injects f := by
  rcases (call.goes ns h.kept).failed f hf with hi | ⟨o, ho, k, hl, hfail⟩
  · exact hi
  · rw [hcall] at hfail
    rcases hfail with hnone | ⟨-, text, hr, hres⟩
    · exact absurd (hl.ns.symm.trans (congrArg (·.getD "") hnone)) hns
    · obtain ⟨s, hs⟩ := h.records hfresh (k := k) ho hl hr
      rw [restore_eq, hs] at hres
      cases hres

theorem Tracks.reversible (hns : ns ≠ "") (h : Tracks ns c₀ c) : Reversible ns c₀ c where
  controllers := by
    intro k o ho hl hrun
    obtain ⟨o', ho', -, hco⟩ := h.course_of_running ho hl
    exact ⟨o', ho', hco.halted_or_running hl.kind (hfresh.fits ho hl) (hfresh.unrecorded k o ho hl)⟩
  others := by
    intro key hstill
    rcases h.objects key with he | ⟨k, o, -, ho, hl, hrun, -⟩
    · exact he
    · rw [hstill k o ho hl] at hrun
      cases hrun
  records := fun _ _ _ ho hl hr => h.records hfresh ho hl hr
  failures := fun _ hcall _ hf => h.failures hfresh hns hcall hf
  restored := by
    have hgoes := Call.goes ns ⟨.unquiesce, [], []⟩ h.kept
    cases hr : (Call.outcome ns ⟨.unquiesce, [], []⟩ c).1 with
    | error f =>
      have hi := h.failures hfresh hns rfl hr
      simp [Cluster.Injects, Cluster.fault?, Call.start] at hi
    | ok report =>
      refine ⟨report, _, Prod.ext hr rfl, fun k o ho hl hrun => ?_⟩
      obtain ⟨o', ho', hkey, hco⟩ := h.course_of_running ho hl
      have hserved : Served (Call.start ⟨.unquiesce, [], []⟩ c) k := by
        simp [Served, Cluster.refusal?, Call.start]
      obtain ⟨o'', ho'', k', -, hl', hmake⟩ := hgoes.completed report hr o' (hkey ▸ ho') ⟨k, hserved, hco.listed hl⟩
      have hk : k' = k := kind_injective (hl'.kind.symm.trans (hco.listed hl).kind)
      subst hk
      have hfit := hfresh.fits ho hl
      have hnew := hfresh.unrecorded _ o ho hl
      refine ⟨o'', hkey ▸ ho'', ?_⟩
      rcases hco.resumes_cases hl.kind hfit hnew hmake with rfl | hal
      · exact .refl hnew
      · exact .of_resumed hl.kind hfit hnew hal

end Reversible

/-- However calls are put together and wherever they end, stopping is reversible. -/
theorem reversible_of_mem_runStates (hns : ns ≠ "") (hfresh : Fresh ns c₀) (calls : List Call) :
    ∀ c ∈ runStates ns calls c₀, Reversible ns c₀ c := by
  intro c hc
  have hstart : Tracks ns c₀ c₀ := ⟨hfresh.kept, fun _ => .inl rfl⟩
  exact (Tracks.runStates hfresh calls c₀ hstart c hc).reversible hfresh hns

/-- A deployment of three pods. -/
def threePods : Object :=
  { metadata := { name := some "web", ns := some "shop" }, content := .deployment (some { replicas := some 3 }) }

/-- Its replica set, which is left to it. -/
def ownedSet : Object where
  metadata := { name := some "web-7d4", ns := some "shop", owners := some [{ kind := "Deployment" }] }
  content := .replicaSet (some { replicas := some 3 })

/-- A pod of the replica set. -/
def ownedPod : Object where
  metadata := { name := some "web-7d4-0", ns := some "shop", owners := some [{ kind := "ReplicaSet" }] }
  content := .pod (some {}) (some { phase := some "Running" })

/-- A cron job that goes off. -/
def nightly : Object where
  metadata := { name := some "nightly", ns := some "shop" }
  content := .cronJob (some { suspend := some false })

/-- A stateful set that was stopped by hand. -/
def idleSet : Object where
  metadata := { name := some "db", ns := some "shop" }
  content := .statefulSet (some { replicas := some 0 })

/-- A shop with controllers that run, that are stopped and that are left to others. -/
def openShop : Cluster :=
  ((((({} : Cluster).place threePods).place ownedSet).place ownedPod).place nightly).place idleSet

theorem fresh_openShop : Fresh "shop" openShop := by
  have hweb := (Fresh.empty "shop").place threePods rfl (by rintro n ⟨⟩; decide)
  have howned := (hweb.place ownedSet rfl (by rintro n ⟨⟩; decide)).place ownedPod rfl (by rintro n ⟨⟩)
  exact (howned.place nightly rfl (by rintro n ⟨⟩)).place idleSet rfl (by rintro n ⟨⟩; decide)

/-- The end of three calls. The second one fails at the deployment, when it has let the cron job go off again. -/
theorem reversible_openShop : Reversible "shop" openShop
    ((runStates "shop" [⟨.quiesce, [], []⟩, ⟨.unquiesce, [], [⟨.update, .deployment, none⟩]⟩, ⟨.unquiesce, [], []⟩]
      openShop).getLast (List.cons_ne_nil _ _)) :=
  reversible_of_mem_runStates (by decide) fresh_openShop _ _ (List.getLast_mem _)

end VolumeMigration.Quiesce
