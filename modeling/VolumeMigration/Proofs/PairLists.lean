import VolumeMigration.Claim.PairList
import VolumeMigration.Proofs.Maps
/-!
# What a list of pairs promises

A list without faults has named claims, one namespace on each side and no claim
twice, so that on each side a claim is known by its name alone
(`PairList.nodup_sourceNames`, `PairList.nodup_destinationNames`).
-/

namespace VolumeMigration

namespace PairList

variable {pairs : List Pair}

/-- A claim without a fault has a name and a namespace. -/
theorem named_of_claimFaults {pair : PairName} {c : Claim} (h : claimFaults pair c = []) : c.name ≠ "" ∧ c.ns ≠ "" := by
  simp only [claimFaults, List.append_eq_nil_iff] at h
  obtain ⟨⟨hname, hns⟩, -⟩ := h
  refine ⟨fun he => ?_, fun he => ?_⟩
  · simp [he] at hname
  · simp [he] at hns

/-- A pair without a fault shares no claim with the pairs before it. -/
structure Fits (before : List Pair) (p : Pair) : Prop where
  source : p.source.name ≠ "" ∧ p.source.ns ≠ ""
  destination : p.destination.name ≠ "" ∧ p.destination.ns ≠ ""
  consistent : p.isConsistent = true
  freshSource : ∀ q ∈ before, q.source.objectName ≠ p.source.objectName
  freshDestination : ∀ q ∈ before, q.destination.objectName ≠ p.destination.objectName

theorem fits_of_pairFaults {before : List Pair} {p : Pair} (h : pairFaults before p = []) : Fits before p := by
  simp only [pairFaults, List.append_eq_nil_iff] at h
  obtain ⟨⟨⟨⟨hs, hd⟩, hconsistent⟩, hsource⟩, hdestination⟩ := h
  refine ⟨named_of_claimFaults hs, named_of_claimFaults hd, ?_, fun q hq he => ?_, fun q hq he => ?_⟩
  · by_cases hc : p.isConsistent = true
    · exact hc
    · simp [hc] at hconsistent
  · rw [if_pos (List.any_eq_true.2 ⟨q, hq, by simp [he]⟩)] at hsource
    cases hsource
  · rw [if_pos (List.any_eq_true.2 ⟨q, hq, by simp [he]⟩)] at hdestination
    cases hdestination

/-- Pairs without a fault each fit those before them. -/
theorem fits_of_faultsAfter : ∀ {before : List Pair}, faultsAfter before pairs = [] →
    ∀ l p r, pairs = l ++ p :: r → Fits (before ++ l) p := by
  induction pairs with
  | nil => simp
  | cons q pairs ih =>
    intro before h l p r hlist
    obtain ⟨hq, hrest⟩ := List.append_eq_nil_iff.1 h
    cases l with
    | nil =>
      obtain ⟨rfl, -⟩ := List.cons.inj hlist
      simpa using fits_of_pairFaults hq
    | cons a l =>
      obtain ⟨rfl, htail⟩ := List.cons.inj hlist
      simpa using ih hrest l p r htail

/-- In a list whose members each differ from all those before them, no member is listed twice. -/
theorem nodup_map_of_fresh {f : Pair → ObjectName} (h : ∀ l p r, pairs = l ++ p :: r → ∀ q ∈ l, f q ≠ f p) :
    (pairs.map f).Nodup := by
  induction pairs with
  | nil => exact .nil
  | cons a as ih =>
    refine List.nodup_cons.2 ⟨fun hmem => ?_, ih fun l b r he c hc => h (a :: l) b r (by simp [he]) c (by simp [hc])⟩
    obtain ⟨b, hb, hab⟩ := List.mem_map.1 hmem
    obtain ⟨l, r, he⟩ := List.append_of_mem hb
    exact h (a :: l) b r (by simp [he]) a (by simp) hab.symm

/-- All members of a list whose distinct members are at most one are equal. -/
theorem eq_of_length_distinct {f : Pair → String} (h : ¬1 < (SortedMap.distinct (pairs.map f)).length) {p q : Pair}
    (hp : p ∈ pairs) (hq : q ∈ pairs) : f p = f q := by
  have hp' := SortedMap.mem_distinct.2 (List.mem_map_of_mem (f := f) hp)
  have hq' := SortedMap.mem_distinct.2 (List.mem_map_of_mem (f := f) hq)
  match hd : SortedMap.distinct (pairs.map f) with
  | [] => simp [hd] at hp'
  | [x] =>
    rw [hd, List.mem_singleton] at hp' hq'
    rw [hp', hq']
  | x :: y :: r => simp [hd] at h

/-- Claims of one namespace that are never named alike have different names. -/
theorem nodup_names {claims : List Claim} (h : (claims.map (·.objectName)).Nodup)
    (hns : ∀ a ∈ claims, ∀ b ∈ claims, a.ns = b.ns) : (claims.map (·.name)).Nodup := by
  refine List.pairwise_map.2 ((List.pairwise_map.1 h).imp_of_mem fun ha hb hne hname => hne ?_)
  exact ObjectName.mk.injEq .. ▸ ⟨hns _ ha _ hb, hname⟩

variable (l : PairList)

theorem faults_parts : ¬1 < (SortedMap.distinct (l.pairs.map (·.source.ns))).length ∧
    ¬1 < (SortedMap.distinct (l.pairs.map (·.destination.ns))).length ∧ faultsAfter [] l.pairs = [] := by
  have h := l.sound
  unfold faults at h
  rw [if_neg (by simpa using l.pairs_ne_nil)] at h
  simp only [List.append_eq_nil_iff] at h
  obtain ⟨⟨⟨hs, hd⟩, hafter⟩, -⟩ := h
  refine ⟨fun hlt => ?_, fun hlt => ?_, hafter⟩
  · simp [hlt] at hs
  · simp [hlt] at hd

theorem sourceNs_eq {p q : Pair} (hp : p ∈ l.pairs) (hq : q ∈ l.pairs) : p.source.ns = q.source.ns :=
  eq_of_length_distinct l.faults_parts.1 hp hq

theorem destinationNs_eq {p q : Pair} (hp : p ∈ l.pairs) (hq : q ∈ l.pairs) : p.destination.ns = q.destination.ns :=
  eq_of_length_distinct l.faults_parts.2.1 hp hq

theorem fits_of_append {a b : List Pair} {p : Pair} (h : l.pairs = a ++ p :: b) : Fits a p := by
  simpa using fits_of_faultsAfter l.faults_parts.2.2 a p b h

theorem nodup_sourceNames : (l.sources.map (·.name)).Nodup := by
  refine nodup_names ?_ fun a ha b hb => ?_
  · rw [sources, List.map_map]
    exact nodup_map_of_fresh fun a p b h => (l.fits_of_append h).freshSource
  · obtain ⟨p, hp, rfl⟩ := List.mem_map.1 ha
    obtain ⟨q, hq, rfl⟩ := List.mem_map.1 hb
    exact l.sourceNs_eq hp hq

theorem nodup_destinationNames : (l.destinations.map (·.name)).Nodup := by
  refine nodup_names ?_ fun a ha b hb => ?_
  · rw [destinations, List.map_map]
    exact nodup_map_of_fresh fun a p b h => (l.fits_of_append h).freshDestination
  · obtain ⟨p, hp, rfl⟩ := List.mem_map.1 ha
    obtain ⟨q, hq, rfl⟩ := List.mem_map.1 hb
    exact l.destinationNs_eq hp hq

end PairList

end VolumeMigration
