import VolumeMigration.Endpoint.Lifecycle
import VolumeMigration.Proofs.Clusters
import VolumeMigration.Transport.Basic
/-!
# What creation leaves behind

A creation that succeeds leaves every object that it was to create
(`Cluster.Holds`), and a creation overwrites nothing that was there before
(`Cluster.Grows`). So what the first steps of a longer creation made is still
there after the last one.
-/

namespace VolumeMigration

open Attempt

namespace Cluster

variable {c c' c'' : Cluster} {o o' : Object}

/-! ## Objects that are there -/

/-- The cluster has the object, under whatever version. -/
def Holds (c : Cluster) (o : Object) : Prop := ∃ o', c.objects.get? o.key = some o' ∧ o'.Alike o

/-- Everything in the first cluster is in the second one as it was. -/
def Grows (c c' : Cluster) : Prop := ∀ key o, c.objects.get? key = some o → c'.objects.get? key = some o

theorem Grows.refl (c : Cluster) : c.Grows c := fun _ _ h => h

theorem Grows.trans (h : c.Grows c') (h' : c'.Grows c'') : c.Grows c'' := fun key o ho => h' key o (h key o ho)

theorem Holds.grows (ho : c.Holds o) (h : c.Grows c') : c'.Holds o := by
  obtain ⟨a, ha, hal⟩ := ho
  exact ⟨a, h _ a ha, hal⟩

/-- An object that is not under a key that changed is still there. -/
theorem Holds.frame (ho : c.Holds o) (h : c'.objects.get? o.key = c.objects.get? o.key) : c'.Holds o := by
  obtain ⟨a, ha, hal⟩ := ho
  exact ⟨a, h.trans ha, hal⟩

theorem holds_wrote (c : Cluster) (operation : Operation) (ns : String) (o : Object) :
    (c.wrote operation ns o).Holds o :=
  ⟨_, c.get?_wrote_self operation ns o, o.withVersion_alike _⟩

/-! ## Creating one object -/

theorem create_grows (c : Cluster) (o : Object) : c.Grows (outcome (create o) c).2 := by
  rw [create_outcome]
  cases c.admits .create o with
  | error f => exact .refl c
  | ok ns =>
    by_cases hc : c.objects.contains o.key = true
    · simp only [hc, if_true]
      exact .refl c
    · simp only [hc]
      intro key a ha
      by_cases hk : key = o.key
      · rw [SortedMap.contains, ← hk, ha] at hc
        exact absurd rfl hc
      · exact (c.get?_wrote_of_ne .create ns o hk).trans ha

theorem create_ok {x : Object} (h : outcome (create o) c = (.ok x, c')) : ∃ ns, c' = c.wrote .create ns o := by
  rw [create_outcome] at h
  cases ha : c.admits .create o with
  | error f =>
    rw [ha] at h
    cases h
  | ok ns =>
    by_cases hc : c.objects.contains o.key = true
    · simp [ha, hc] at h
    · simp only [ha, hc] at h
      cases h
      exact ⟨ns, rfl⟩

theorem update_ok {x : Object} (h : outcome (update o) c = (.ok x, c')) :
    ∃ ns, c' = c.wrote .update ns o := by
  rw [update_outcome] at h
  cases ha : c.admits .update o with
  | error f =>
    rw [ha] at h
    cases h
  | ok ns =>
    by_cases hc : c.objects.contains o.key = true
    · simp only [ha, hc, if_true] at h
      cases h
      exact ⟨ns, rfl⟩
    · simp [ha, hc] at h

theorem failWith_reads (f? : Option Failure) : Reads (failWith f?) := by
  cases f? with
  | none => exact .pure ()
  | some f => exact .throw f

theorem find?_reads (k : Kind) (n : ObjectName) : Reads (find? k n) := by
  refine .bind .get fun c => .bind (failWith_reads _) fun _ => .bind (failWith_reads _) fun _ => ?_
  cases c.objects.get? ⟨k, n.ns, n.name⟩ with
  | none => exact .pure none
  | some o => exact .bind (.ofResult _) fun o => .pure (some o)

/-- Creating or updating an object changes nothing else. -/
theorem createOrUpdate_ok {x : Object} (h : outcome (createOrUpdate o) c = (.ok x, c')) :
    c'.Holds o ∧ ∀ key, key ≠ o.key → c'.objects.get? key = c.objects.get? key := by
  unfold createOrUpdate at h
  obtain ⟨ns, s, hns, h⟩ := bind_eq_ok.1 h
  simp only [outcome_ofResult, Prod.mk.injEq] at hns
  obtain ⟨-, rfl⟩ := hns
  obtain ⟨found, c₁, hfind, h⟩ := bind_eq_ok.1 h
  obtain rfl := (find?_reads o.kind ⟨ns, o.lookupName⟩).state_eq hfind
  cases found with
  | none =>
    obtain ⟨n, rfl⟩ := create_ok h
    exact ⟨holds_wrote c₁ .create n o, fun key hk => c₁.get?_wrote_of_ne .create n o hk⟩
  | some existing =>
    obtain ⟨n, rfl⟩ := update_ok h
    have hkey : (o.withVersion existing.metadata.resourceVersion).key = o.key := rfl
    refine ⟨?_, fun key hk => c₁.get?_wrote_of_ne .update n _ (hkey ▸ hk)⟩
    exact holds_wrote c₁ .update n (o.withVersion existing.metadata.resourceVersion)

end Cluster

/-! ## Creating several objects -/

theorem Endpoint.createObject_ok {c c' : Cluster} {o : Object}
    (h : outcome (Endpoint.createObject o) c = (.ok (), c')) : c.Grows c' ∧ c'.Holds o := by
  obtain ⟨x, c₁, hc, h⟩ := bind_eq_ok.1 h
  cases h
  have hgrows := c.create_grows o
  rw [hc] at hgrows
  obtain ⟨ns, rfl⟩ := Cluster.create_ok hc
  exact ⟨hgrows, c.holds_wrote .create ns o⟩

namespace Attempt

variable {σ : Type} {s s' : σ}

theorem inOrder_cons_ok {a : Attempt σ Unit} {as : List (Attempt σ Unit)} :
    outcome (inOrder (a :: as)) s = (.ok (), s') ↔
      ∃ s₁, outcome a s = (.ok (), s₁) ∧ outcome (inOrder as) s₁ = (.ok (), s') := by
  rw [inOrder, bind_eq_ok]
  constructor
  · rintro ⟨⟨⟩, s₁, h⟩
    exact ⟨s₁, h⟩
  · rintro ⟨s₁, h⟩
    exact ⟨(), s₁, h⟩

/-- If all parts together succeed, then each does, one after the other. -/
theorem all_cons_ok {resource : String} {a : Attempt σ Unit} {as : List (Attempt σ Unit)}
    (h : outcome (all resource (a :: as)) s = (.ok (), s')) :
    ∃ s₁, outcome a s = (.ok (), s₁) ∧ outcome (all resource as) s₁ = (.ok (), s') := by
  unfold all at h ⊢
  obtain ⟨rs, s₂, hrs, h⟩ := bind_eq_ok.1 h
  rw [List.mapM_cons] at hrs
  obtain ⟨r, s₁, hr, hrest⟩ := bind_eq_ok.1 hrs
  obtain ⟨rs', s₃, hrs', hpure⟩ := bind_eq_ok.1 hrest
  cases hpure
  rw [outcome_caught] at hr
  cases hr
  rw [outcome_ofResult] at h
  obtain ⟨hcheck, rfl⟩ := Prod.mk.inj h
  cases hr₁ : (outcome a s).1 with
  | error f => simp [hr₁, Failure.checkPartial] at hcheck
  | ok x =>
    refine ⟨(outcome a s).2, Prod.ext hr₁ rfl, bind_eq_ok.2 ⟨rs', s₂, hrs', ?_⟩⟩
    simpa [hr₁] using hcheck

end Attempt

/-- Objects that were created in order are all there. -/
theorem createAll_ok (os : List Object) : ∀ {c c' : Cluster},
    outcome (inOrder (os.map Endpoint.createObject)) c = (.ok (), c') → c.Grows c' ∧ ∀ o ∈ os, c'.Holds o := by
  induction os with
  | nil =>
    intro c c' h
    cases h
    exact ⟨.refl c, by simp⟩
  | cons o os ih =>
    intro c c' h
    rw [List.map_cons, inOrder_cons_ok] at h
    obtain ⟨c₁, ho, hos⟩ := h
    obtain ⟨hgrows, hall⟩ := ih hos
    obtain ⟨hfirst, hheld⟩ := Endpoint.createObject_ok ho
    refine ⟨hfirst.trans hgrows, fun a ha => ?_⟩
    rcases List.mem_cons.1 ha with rfl | ha
    · exact hheld.grows hgrows
    · exact hall a ha

/-- Objects under different keys that were created or updated in order are all there, and nothing
else changed. -/
theorem writeAll_ok (os : List Object) : ∀ {c c' : Cluster}, (os.map Object.key).Nodup →
    outcome (Stunnel.writeAll os) c = (.ok (), c') →
      (∀ o ∈ os, c'.Holds o) ∧ ∀ key ∉ os.map Object.key, c'.objects.get? key = c.objects.get? key := by
  unfold Stunnel.writeAll
  induction os with
  | nil =>
    intro c c' _ h
    cases h
    exact ⟨by simp, fun _ _ => rfl⟩
  | cons o os ih =>
    intro c c' hnd h
    obtain ⟨hout, hnd'⟩ := List.nodup_cons.1 hnd
    rw [List.map_cons, inOrder_cons_ok] at h
    obtain ⟨c₁, ho, hos⟩ := h
    obtain ⟨x, c₂, hx, hc⟩ := bind_eq_ok.1 ho
    cases hc
    obtain ⟨hheld, hframe⟩ := Cluster.createOrUpdate_ok hx
    obtain ⟨hall, hrest⟩ := ih hnd' hos
    refine ⟨fun a ha => ?_, fun key hk => ?_⟩
    · rcases List.mem_cons.1 ha with rfl | ha
      · exact hheld.frame (hrest _ hout)
      · exact hall a ha
    · simp only [List.map_cons, List.mem_cons, not_or] at hk
      exact (hrest key hk.2).trans (hframe key hk.1)

end VolumeMigration
