import VolumeMigration.Proofs.QuiesceRuns
/-!
# Changes made while a controller was stopped

Restoring looks at the setting of a controller before it overwrites it. For
numbers and flags that tells the setting that stopping writes from every other
one, so a change is kept. For a daemon set it looks at one label of the node
selector: a selector with that label and others is overwritten by the record
(`unquiesce_keeps_iff`).
-/

namespace VolumeMigration.Quiesce

open Attempt

variable {ns text : String} {k : WorkloadKind} {c c' : Cluster} {o o' : Object}

/-! ## Settings that count as stopped -/

/-- Apart from daemon sets, the one setting that counts as stopped is the one that stopping writes. -/
theorem setting?_of_isStopped (hk : o.kind = k.kind) (hd : k ≠ .daemonSet) (hs : isStopped o = true) :
    o.content.setting? = some (.stopped k) := by
  obtain ⟨s, hset, hstop⟩ := (Option.any_eq_true ..).1 hs
  rw [hset]
  unfold Object.kind at hk
  cases hc : o.content <;> rw [hc] at hk hset <;> cases k <;> cases hk <;>
    obtain ⟨v, -, rfl⟩ := Option.map_eq_some_iff.1 hset <;>
    first | exact absurd rfl hd | simpa [Setting.isStopped, Setting.stopped] using hstop

/-- A daemon set counts as stopped by one label of its node selector. -/
theorem nodes_of_isStopped (hk : o.kind = .daemonSet) (hs : isStopped o = true) :
    ∃ live, o.content.setting? = some (.nodes live) ∧ live.get? Setting.noNodeKey = some Setting.noNodeValue := by
  obtain ⟨s, hset, hstop⟩ := (Option.any_eq_true ..).1 hs
  unfold Object.kind at hk
  cases hc : o.content <;> rw [hc] at hk hset <;> cases hk
  obtain ⟨live, -, rfl⟩ := Option.map_eq_some_iff.1 hset
  exact ⟨live, by rw [← hset], by simpa [Setting.isStopped] using hstop⟩

/-- Writing the node selector that is there changes nothing. -/
theorem withSetting_nodes {content : Content} {live : StringMap} (h : content.setting? = some (.nodes live))
    (hne : live.isEmpty = false) : content.withSetting (.nodes live) = content := by
  cases content <;> try rfl
  case daemonSet spec =>
    obtain ⟨_, hnodes, hv⟩ := Option.map_eq_some_iff.1 h
    cases hv
    obtain ⟨⟨⟨metadata, podSpec⟩, rest⟩, rfl, hspec⟩ := Option.bind_eq_some_iff.1 hnodes
    obtain ⟨pod, hpod, hsel⟩ := Option.bind_eq_some_iff.1 hspec
    obtain rfl : podSpec = some pod := hpod
    simp [Content.withSetting, DaemonSetSpec.onNodes, hne, ← hsel]

/-! ## Exactly when a change is kept -/

/-- A daemon set whose nodes were changed beside the label that counts as stopped, so that the record
overwrites them. -/
structure Overridden (k : WorkloadKind) (o : Object) (text : String) : Prop where
  kind : k = .daemonSet
  nodes : ∃ live recorded, o.content.setting? = some (.nodes live) ∧
    live.get? Setting.noNodeKey = some Setting.noNodeValue ∧
    Setting.decode k text = .ok (.nodes recorded) ∧ recorded ≠ live

/-- A restored daemon set is the one without its record exactly if the record is what was live. -/
theorem restored_alike_iff {live : StringMap} {s : Setting} (hk : o.kind = .daemonSet)
    (hset : o.content.setting? = some (.nodes live)) (hne : live.isEmpty = false) (hs : s.Fits .daemonSet) :
    (forget .daemonSet { o with content := o.content.withSetting s }).Alike (forget .daemonSet o) ↔
      s = .nodes live := by
  constructor
  · intro h
    have hcon : o.content.withSetting s = o.content := h.content_eq
    have hget := Content.setting?_withSetting_getD (k := .daemonSet) hk hs
    rw [hcon, hset, Option.getD_some] at hget
    exact hget.symm
  · rintro rfl
    rw [withSetting_nodes hset hne]
    exact .refl _

/-- What restoring makes of a controller whose setting is not the one that stopping writes. -/
theorem Resumes.alike_forget_iff (hk : o.kind = k.kind) (hr : o.metadata.annotation? k.recordKey = some text)
    (hchanged : o.content.setting? ≠ some (.stopped k)) (h : Resumes k o o') :
    o'.Alike (forget k o) ↔ ¬Overridden k o text := by
  cases hs : isStopped o with
  | false =>
    have hal : o'.Alike (forget k o) := by simpa [Resumes, hr, hs] using h
    refine ⟨fun _ hover => ?_, fun _ => hal⟩
    obtain ⟨live, -, hset, hlabel, -⟩ := hover.nodes
    rw [isStopped_of_setting hset, Setting.isStopped, hlabel] at hs
    simp at hs
  | true =>
    have hd : k = .daemonSet := Decidable.byContradiction fun hd => hchanged (setting?_of_isStopped hk hd hs)
    subst hd
    obtain ⟨r, hres, hal⟩ := h.of_stopped hr hs
    obtain ⟨live, hset, hlabel⟩ := nodes_of_isStopped hk hs
    have hne : live.isEmpty = false := by
      refine Bool.eq_false_iff.2 fun hempty => ?_
      rw [SortedMap.eq_empty_of_isEmpty hempty] at hlabel
      cases hlabel
    rw [restore_eq] at hres
    obtain ⟨s, hdec, rfl⟩ := Result.map_eq_ok.1 hres
    have hrest := restored_alike_iff hk hset hne (Setting.fits_of_decode hdec)
    constructor
    · intro hforget hover
      obtain ⟨live', recorded, hset', -, hdec', hdiff⟩ := hover.nodes
      rw [hrest.1 (hal.symm.trans hforget)] at hdec
      cases hset.symm.trans hset'
      cases hdec.symm.trans hdec'
      exact hdiff rfl
    · intro hkeep
      refine hal.trans (hrest.2 ?_)
      cases s with
      | nodes recorded =>
        refine congrArg Setting.nodes (Decidable.byContradiction fun hdiff => hkeep ⟨rfl, ?_⟩)
        exact ⟨live, recorded, hset, hlabel, hdec, hdiff⟩
      | replicas n => exact (Setting.fits_of_decode hdec).elim
      | suspend b => exact (Setting.fits_of_decode hdec).elim

/-! ## Restoring a namespace -/

/-- A controller with a record whose setting was changed is left as it is, without the record, unless
it is a daemon set that still has the label that counts as stopped and other nodes than recorded, or
of a kind that the cluster says it does not serve. -/
theorem unquiesce_keeps_iff {report : QuiesceReport} (hc : c.WellKept) (ho : c.objects.get? o.key = some o)
    (hl : Listed ns k o) (hr : o.metadata.annotation? k.recordKey = some text)
    (hchanged : o.content.setting? ≠ some (.stopped k)) (hrun : outcome (unquiesce ns) c = (.ok report, c')) :
    ∃ o', c'.objects.get? o.key = some o' ∧ (o'.Alike (forget k o) ↔ Served c k ∧ ¬Overridden k o text) := by
  have hgoes := Call.goes ns ⟨.unquiesce, c.refusals, c.faults⟩ hc
  have hcall : Call.outcome ns ⟨.unquiesce, c.refusals, c.faults⟩ c = (.ok report, c') := hrun
  rw [hcall] at hgoes
  by_cases hserved : Served c k
  · obtain ⟨o', ho', k', -, hl', hres⟩ := hgoes.completed report rfl o ho ⟨k, hserved, hl⟩
    have hk : k' = k := kind_injective (hl'.kind.symm.trans hl.kind)
    subst hk
    have hiff := Resumes.alike_forget_iff hl.kind hr hchanged hres
    exact ⟨o', ho', hiff.trans (by simp [hserved])⟩
  · have hsame : c'.objects.get? o.key = c.objects.get? o.key := by
      refine hgoes.moved_last.get?_eq fun a b ha ⟨k', hserved', hl', _⟩ => hserved ?_
      cases ho.symm.trans ha
      rwa [kind_injective (hl.kind.symm.trans hl'.kind)]
    refine ⟨o, hsame.trans ho, fun hforget => ?_, fun h => absurd h.1 hserved⟩
    rw [hforget.annotation?_eq, annotation?_forget] at hr
    cases hr

/-- A deployment that was stopped with three pods and has five again. -/
def rescaled : Object :=
  { metadata := { name := some "web", ns := some "shop", annotations := some (.ofList [(Record.replicasKey, "3")]) }
    content := .deployment (some { replicas := some 5 }) }

theorem unquiesce_keeps_rescaled : ∃ o',
    (outcome (unquiesce "shop") (({} : Cluster).place rescaled)).2.objects.get? rescaled.key = some o' ∧
      (o'.Alike (forget .deployment rescaled) ↔
        Served (({} : Cluster).place rescaled) .deployment ∧ ¬Overridden .deployment rescaled "3") :=
  unquiesce_keeps_iff (Cluster.wellKept_empty.place rescaled) rfl ⟨rfl, rfl, rfl⟩ rfl (by decide) rfl

/-- A daemon set that its label keeps from all nodes, with a zone added since. -/
def zoned : Object :=
  { metadata := {
      name := some "agent"
      ns := some "shop"
      annotations := some (.ofList [(Record.nodeSelectorKey, "\x7b\x7d")]) }
    content := .daemonSet (some { template := { spec := some {
      nodeSelector := some (.ofList [(Setting.noNodeKey, Setting.noNodeValue), ("zone", "x")]) } } }) }

/-- The zone is lost. -/
theorem unquiesce_overrides_zoned : ∃ report c' o',
    Listed "shop" .daemonSet zoned ∧ zoned.metadata.annotation? WorkloadKind.daemonSet.recordKey = some "\x7b\x7d" ∧
      zoned.content.setting? ≠ some (.stopped .daemonSet) ∧
      outcome (unquiesce "shop") (({} : Cluster).place zoned) = (.ok report, c') ∧
      c'.objects.get? zoned.key = some o' ∧ o'.content.setting? ≠ zoned.content.setting? :=
  ⟨_, _, _, ⟨rfl, rfl, rfl⟩, rfl, by decide, rfl, rfl, by decide⟩

end VolumeMigration.Quiesce
