import VolumeMigration.Proofs.Clusters
import VolumeMigration.Proofs.Records
import VolumeMigration.Quiesce.Controller
/-!
# Stopping and restoring one controller

A controller that is stopped and then restored from its record is the controller
with its own setting written out (`restore_stop`), and stopping that one gives
the same stopped controller again (`stop_resumed`). So a record never holds
anything but the setting from before the first stop.
-/

namespace VolumeMigration

/-! ## Settings of contents -/

namespace Content

variable {k : WorkloadKind} {c : Content} {s : Setting}

@[simp] theorem kind_withSetting (c : Content) (s : Setting) : (c.withSetting s).kind = c.kind := by
  cases c <;> cases s <;> rfl

/-- A setting replaces the one before. -/
theorem withSetting_withSetting (hc : c.kind = k.kind) {s' : Setting} (h : s'.Fits k) :
    (c.withSetting s).withSetting s' = c.withSetting s' := by
  cases k <;> cases c <;> cases hc <;> cases s' <;> first | exact h.elim | (cases s <;> rfl)

theorem setting?_withSetting_getD (hc : c.kind = k.kind) (h : s.Fits k) :
    (c.withSetting s).setting?.getD (.unset k) = s := by
  cases k <;> cases c <;> cases hc <;> cases s <;> try first | exact h.elim | rfl
  case daemonSet.daemonSet.refl.nodes spec selector =>
    by_cases hs : selector.isEmpty
    · obtain rfl := SortedMap.eq_empty_of_isEmpty hs
      rfl
    · simp [withSetting, setting?, DaemonSetSpec.onNodes, DaemonSetSpec.nodeSelector?, hs]

theorem setting?_withSetting_stopped (hc : c.kind = k.kind) :
    (c.withSetting (.stopped k)).setting? = some (.stopped k) := by
  cases k <;> cases c <;> cases hc <;> rfl

/-- Numbers of pods aside, every setting of a controller is one of its kind. -/
theorem fits_of_setting? (hc : c.kind = k.kind) (h : c.setting? = some s)
    (hn : ∀ n, s = .replicas n → 0 ≤ n ∧ n ≤ Text.maxInt32) : s.Fits k := by
  cases k <;> cases c <;> cases hc <;> obtain ⟨v, -, rfl⟩ := Option.map_eq_some_iff.1 h <;>
    first | exact True.intro | exact hn v rfl

end Content

/-! ## Settings of objects -/

namespace Quiesce

variable {k : WorkloadKind} {o o' : Object}

/-- The setting of a controller, where leaving it out has its meaning. -/
def settingOf (k : WorkloadKind) (o : Object) : Setting := o.content.setting?.getD (.unset k)

/-- A controller of a kind in a namespace that can be stopped. -/
structure Listed (ns : String) (k : WorkloadKind) (o : Object) : Prop where
  kind : o.kind = k.kind
  ns : o.metadata.ns.getD "" = ns
  eligible : isEligible k o = true

/-- A controller whose setting has to be written out to come back from its record. -/
def resumed (k : WorkloadKind) (o : Object) : Object :=
  { o with
    metadata := { o.metadata with annotations := some (o.metadata.annotations.getD .empty) }
    content := o.content.withSetting (settingOf k o) }

theorem Listed.of_alike {ns : String} (h : Listed ns k o) (ha : o'.Alike o) : Listed ns k o' := by
  refine ⟨(congrArg Content.kind ha.content_eq).trans h.kind, ?_, ?_⟩
  · exact (congrArg (·.metadata.ns.getD "") ha).trans h.ns
  · rw [← h.eligible, isEligible, isEligible, ha.owners_eq]

theorem recordOf_eq (k : WorkloadKind) (o : Object) : recordOf k o = (settingOf k o).encode := rfl

/-- A controller that leaves its setting out is not stopped. -/
theorem isStopped_eq (hk : o.kind = k.kind) : isStopped o = (settingOf k o).isStopped := by
  unfold isStopped settingOf
  cases o.content.setting? with
  | some s => rfl
  | none => cases k <;> rfl

theorem isStopped_of_setting {s : Setting} (h : o.content.setting? = some s) : isStopped o = s.isStopped := by
  rw [isStopped, h]
  rfl

/-! ## Stopping -/

@[simp] theorem kind_stop (k : WorkloadKind) (o : Object) : (stop k o).kind = o.kind :=
  Content.kind_withSetting o.content _

@[simp] theorem key_stop (k : WorkloadKind) (o : Object) : (stop k o).key = o.key := by
  unfold Object.key
  rw [kind_stop]
  rfl

theorem setting?_stop (hk : o.kind = k.kind) : (stop k o).content.setting? = some (.stopped k) :=
  Content.setting?_withSetting_stopped hk

theorem isStopped_stop (hk : o.kind = k.kind) : isStopped (stop k o) = true := by
  rw [isStopped_of_setting (setting?_stop hk)]
  cases k <;> rfl

theorem annotation?_stop (k : WorkloadKind) (o : Object) :
    (stop k o).metadata.annotation? k.recordKey = some (recordOf k o) := by
  rw [stop, Metadata.annotation?, Metadata.annotate, Option.bind_some, SortedMap.get?_insert_self]

theorem stop_alike {a b : Object} (h : a.Alike b) (k : WorkloadKind) : (stop k a).Alike (stop k b) :=
  congrArg (stop k) h

/-! ## Restoring -/

@[simp] theorem key_forget (k : WorkloadKind) (o : Object) : (forget k o).key = o.key := rfl

theorem annotation?_forget (k : WorkloadKind) (o : Object) : (forget k o).metadata.annotation? k.recordKey = none := by
  unfold forget Metadata.unannotate Metadata.annotation?
  cases o.metadata.annotations with
  | none => rfl
  | some annotations => simp [SortedMap.get?_erase]

theorem restore_eq (k : WorkloadKind) (o : Object) (text : String) :
    restore k o text = (Setting.decode k text).map fun s =>
      forget k { o with content := o.content.withSetting s } := by
  unfold restore
  cases Setting.decode k text <;> rfl

theorem key_restore {r : Object} {text : String} (h : restore k o text = .ok r) : r.key = o.key := by
  rw [restore_eq] at h
  obtain ⟨s, -, rfl⟩ := Result.map_eq_ok.1 h
  rw [key_forget]
  unfold Object.key Object.kind
  rw [Content.kind_withSetting]
  rfl

theorem ns_restore {r : Object} {text : String} (h : restore k o text = .ok r) : r.metadata.ns = o.metadata.ns := by
  rw [restore_eq] at h
  obtain ⟨s, -, rfl⟩ := Result.map_eq_ok.1 h
  rfl

theorem restore_alike {a b r : Object} {text : String} (h : a.Alike b) (hr : restore k a text = .ok r) :
    ∃ r', restore k b text = .ok r' ∧ r.Alike r' := by
  rw [restore_eq] at hr
  obtain ⟨s, hs, rfl⟩ := Result.map_eq_ok.1 hr
  refine ⟨_, by rw [restore_eq, hs]; rfl, ?_⟩
  exact congrArg (fun o : Object => forget k { o with content := o.content.withSetting s }) h

/-! ## Stopping and restoring in turn -/

@[simp] theorem kind_resumed (k : WorkloadKind) (o : Object) : (resumed k o).kind = o.kind :=
  Content.kind_withSetting o.content _

theorem annotation?_resumed (k : WorkloadKind) (o : Object) (key : String) :
    (resumed k o).metadata.annotation? key = o.metadata.annotation? key := by
  unfold Metadata.annotation? resumed
  cases o.metadata.annotations <;> rfl

section Turns
variable (hk : o.kind = k.kind) (hfit : (settingOf k o).Fits k)
include hk hfit

theorem settingOf_resumed : settingOf k (resumed k o) = settingOf k o :=
  Content.setting?_withSetting_getD hk hfit

theorem isStopped_resumed : isStopped (resumed k o) = isStopped o := by
  have hk' : (resumed k o).kind = k.kind := (kind_resumed k o).trans hk
  rw [isStopped_eq hk', isStopped_eq hk, settingOf_resumed hk hfit]

/-- A restored controller is stopped as the one that it was made of. -/
theorem stop_resumed : stop k (resumed k o) = stop k o := by
  have hrec : recordOf k (resumed k o) = recordOf k o := by
    rw [recordOf_eq, settingOf_resumed hk hfit, recordOf_eq]
  have hcon : (resumed k o).content.withSetting (.stopped k) = o.content.withSetting (.stopped k) :=
    Content.withSetting_withSetting hk (Setting.fits_stopped k)
  unfold stop
  rw [hrec, hcon]
  rfl

/-- A stopped controller is restored from its record as it was. -/
theorem restore_stop (hnew : o.metadata.annotation? k.recordKey = none) :
    restore k (stop k o) (recordOf k o) = .ok (resumed k o) := by
  have hcon : (stop k o).content.withSetting (settingOf k o) = o.content.withSetting (settingOf k o) :=
    Content.withSetting_withSetting hk hfit
  have hmap : ((o.metadata.annotations.getD .empty).insert k.recordKey (recordOf k o)).erase k.recordKey =
      o.metadata.annotations.getD .empty := by
    rw [SortedMap.erase_insert_self]
    apply SortedMap.erase_of_get?_eq_none
    unfold Metadata.annotation? at hnew
    cases ha : o.metadata.annotations with
    | none => rfl
    | some m => simpa [ha] using hnew
  rw [restore_eq, recordOf_eq, Setting.decode_encode hfit]
  simp only [Except.map, hcon]
  unfold forget stop resumed Metadata.unannotate Metadata.annotate
  simp only [Option.map_some, hmap]

end Turns

/-! ## Courses -/

/-- What stopping makes of a controller: nothing of a stopped one. -/
def Stops (k : WorkloadKind) (o o' : Object) : Prop := if isStopped o then o' = o else o'.Alike (stop k o)

/-- What restoring makes of a controller: nothing without a record. -/
def Resumes (k : WorkloadKind) (o o' : Object) : Prop :=
  match o.metadata.annotation? k.recordKey with
  | none => o' = o
  | some text =>
    if isStopped o then ∃ r, restore k o text = .ok r ∧ o'.Alike r
    else o'.Alike (forget k o)

/-- What a controller may have become since it ran. -/
inductive Course (k : WorkloadKind) (o : Object) : Object → Prop where
  | untouched : Course k o o
  | nowStopped {o' : Object} (h : o'.Alike (stop k o)) : Course k o o'
  | nowResumed {o' : Object} (h : o'.Alike (resumed k o)) : Course k o o'

theorem Stops.of_stopped (h : Stops k o o') (hs : isStopped o = true) : o' = o := by
  simpa [Stops, hs] using h

theorem Stops.of_running (h : Stops k o o') (hs : isStopped o = false) : o'.Alike (stop k o) := by
  simpa [Stops, hs] using h

theorem Resumes.of_fresh (h : Resumes k o o') (hr : o.metadata.annotation? k.recordKey = none) : o' = o := by
  simpa [Resumes, hr] using h

theorem Resumes.of_stopped {text : String} (h : Resumes k o o')
    (hr : o.metadata.annotation? k.recordKey = some text) (hs : isStopped o = true) :
    ∃ r, restore k o text = .ok r ∧ o'.Alike r := by
  simpa [Resumes, hr, hs] using h

theorem isStopped_alike {a b : Object} (h : a.Alike b) : isStopped a = isStopped b := by
  rw [isStopped, isStopped, h.content_eq]

namespace Course

theorem kind_eq (h : Course k o o') : o'.kind = o.kind := by
  cases h with
  | untouched => rfl
  | nowStopped h => exact (congrArg Content.kind h.content_eq).trans (kind_stop k o)
  | nowResumed h => exact (congrArg Content.kind h.content_eq).trans (kind_resumed k o)

theorem listed {ns : String} (h : Course k o o') (hl : Listed ns k o) : Listed ns k o' := by
  cases h with
  | untouched => exact hl
  | nowStopped h =>
    have hs : Listed ns k (stop k o) := ⟨(kind_stop k o).trans hl.kind, hl.ns, hl.eligible⟩
    exact hs.of_alike h
  | nowResumed h =>
    have hr : Listed ns k (resumed k o) := ⟨(kind_resumed k o).trans hl.kind, hl.ns, hl.eligible⟩
    exact hr.of_alike h

variable (hk : o.kind = k.kind) (hfit : (settingOf k o).Fits k)
include hk hfit

/-- Stopping leads from a course to a course. -/
theorem stops (hrun : isStopped o = false) {o'' : Object} (h : Course k o o') (hs : Stops k o' o'') :
    Course k o o'' := by
  cases h with
  | untouched => exact .nowStopped (hs.of_running hrun)
  | nowStopped h =>
    have hs' : isStopped o' = true := by rw [isStopped_alike h, isStopped_stop hk]
    rw [hs.of_stopped hs']
    exact .nowStopped h
  | nowResumed h =>
    have hs' : isStopped o' = false := by rw [isStopped_alike h, isStopped_resumed hk hfit, hrun]
    have he : (stop k o').Alike (stop k o) := stop_resumed hk hfit ▸ stop_alike h k
    exact .nowStopped ((hs.of_running hs').trans he)

omit hk hfit in
/-- A record on a course is that of the setting from the start. -/
theorem record_eq (hnew : o.metadata.annotation? k.recordKey = none) {text : String} (h : Course k o o')
    (hr : o'.metadata.annotation? k.recordKey = some text) :
    o'.Alike (stop k o) ∧ text = (settingOf k o).encode := by
  cases h with
  | untouched => rw [hnew] at hr; cases hr
  | nowStopped h =>
    rw [h.annotation?_eq, annotation?_stop] at hr
    exact ⟨h, (Option.some.inj hr).symm⟩
  | nowResumed h =>
    rw [h.annotation?_eq, annotation?_resumed, hnew] at hr
    cases hr

/-- On a course every record can be restored from. -/
theorem restore_ok (hnew : o.metadata.annotation? k.recordKey = none) {text : String} (h : Course k o o')
    (hr : o'.metadata.annotation? k.recordKey = some text) :
    ∃ r, restore k o' text = .ok r ∧ r.Alike (resumed k o) := by
  obtain ⟨ha, rfl⟩ := record_eq hnew h hr
  obtain ⟨r, hr, hal⟩ := restore_alike ha.symm (restore_stop hk hfit hnew)
  exact ⟨r, hr, hal.symm⟩

/-- Restoring ends a stop. -/
theorem resumes_cases (hnew : o.metadata.annotation? k.recordKey = none) {o'' : Object} (h : Course k o o')
    (hs : Resumes k o' o'') : o'' = o ∨ o''.Alike (resumed k o) := by
  cases hr : o'.metadata.annotation? k.recordKey with
  | none =>
    rw [hs.of_fresh hr]
    cases h with
    | untouched => exact .inl rfl
    | nowStopped h => rw [h.annotation?_eq, annotation?_stop] at hr; cases hr
    | nowResumed h => exact .inr h
  | some text =>
    obtain ⟨ha, -⟩ := record_eq hnew h hr
    have hst : isStopped o' = true := by rw [isStopped_alike ha, isStopped_stop hk]
    obtain ⟨r, hok, hal⟩ := hs.of_stopped hr hst
    obtain ⟨r', hok', hal'⟩ := restore_ok hk hfit hnew h hr
    cases hok.symm.trans hok'
    exact .inr (hal.trans hal')

/-- Restoring leads from a course to a course. -/
theorem resumes (hnew : o.metadata.annotation? k.recordKey = none) {o'' : Object} (h : Course k o o')
    (hs : Resumes k o' o'') : Course k o o'' := by
  rcases resumes_cases hk hfit hnew h hs with rfl | hal
  · exact .untouched
  · exact .nowResumed hal

end Course

/-! ## Stopped or running -/

/-- Stopped, with the record of the setting from the start. -/
structure Halted (k : WorkloadKind) (o o' : Object) : Prop where
  setting : o'.content.setting? = some (.stopped k)
  record : o'.metadata.annotation? k.recordKey = some (settingOf k o).encode

/-- Without a record and with the setting from the start, as it was left or written out. -/
structure Running (k : WorkloadKind) (o o' : Object) : Prop where
  setting : settingOf k o' = settingOf k o
  record : o'.metadata.annotation? k.recordKey = none
  content : o'.content = o.content ∨ o'.content = o.content.withSetting (settingOf k o)

section Running
variable (hk : o.kind = k.kind) (hfit : (settingOf k o).Fits k)
  (hnew : o.metadata.annotation? k.recordKey = none)

include hnew in
theorem Running.refl : Running k o o := ⟨rfl, hnew, .inl rfl⟩

include hk hfit hnew in
theorem Running.of_resumed (h : o'.Alike (resumed k o)) : Running k o o' where
  setting := by rw [settingOf, h.content_eq, ← settingOf, settingOf_resumed hk hfit]
  record := by rw [h.annotation?_eq, annotation?_resumed, hnew]
  content := .inr h.content_eq

include hk in
theorem Halted.of_stopped (h : o'.Alike (stop k o)) : Halted k o o' where
  setting := by rw [h.content_eq, setting?_stop hk]
  record := by rw [h.annotation?_eq, annotation?_stop, recordOf_eq]

include hk hfit hnew in
/-- On its course a controller is stopped or runs. -/
theorem Course.halted_or_running (h : Course k o o') : Halted k o o' ∨ Running k o o' := by
  cases h with
  | untouched => exact .inr (.refl hnew)
  | nowStopped h => exact .inl (.of_stopped hk h)
  | nowResumed h => exact .inr (.of_resumed hk hfit hnew h)

end Running

end Quiesce

end VolumeMigration
