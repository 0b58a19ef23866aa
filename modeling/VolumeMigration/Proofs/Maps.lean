import VolumeMigration.SortedMap
/-!
# Laws of finite maps

How the operations of a map go together, and that listing a map and building
one from the list are inverse.
-/

namespace VolumeMigration.SortedMap

open Std

variable {κ α : Type} [Ord κ] [TransOrd κ] [LawfulEqOrd κ]

/-! ## Operations on one key -/

theorem erase_insert_self [DecidableEq κ] (m : SortedMap κ α) (k : κ) (v : α) :
    (m.insert k v).erase k = m.erase k := by
  apply ext_get?
  intro j
  rw [get?_erase, get?_erase, get?_insert]
  by_cases h : j = k <;> simp [h]

/-- Erasing a key that holds nothing changes nothing. -/
theorem erase_of_get?_eq_none [DecidableEq κ] {m : SortedMap κ α} {k : κ} (h : m.get? k = none) :
    m.erase k = m := by
  apply ext_get?
  intro j
  rw [get?_erase]
  by_cases hj : j = k
  · simp [hj, h]
  · simp [hj]

theorem get?_ofList_singleton [DecidableEq κ] (k : κ) (v : α) : (ofList [(k, v)]).get? k = some v :=
  get?_insert_self empty k v

omit [TransOrd κ] [LawfulEqOrd κ] in
theorem eq_empty_of_isEmpty {m : SortedMap κ α} (h : m.isEmpty = true) : m = empty :=
  eq_of_entries (List.isEmpty_iff.1 h)

/-! ## Several maps -/

theorem get?_foldl_insert [DecidableEq κ] (k : κ) : ∀ (l : List (κ × α)) (m : SortedMap κ α),
    l.Pairwise (fun a b => compare a.1 b.1 = .lt) →
      (l.foldl (fun m e => m.insert e.1 e.2) m).get? k = (lookup k l).or (m.get? k)
  | [], m, _ => rfl
  | (j, v) :: l, m, h => by
    obtain ⟨hj, hl⟩ := List.pairwise_cons.1 h
    rw [List.foldl_cons, get?_foldl_insert k l _ hl, get?_insert, lookup]
    by_cases hk : k = j
    · have hnone : lookup k l = none := by
        cases hv : lookup k l with
        | none => rfl
        | some w =>
          have hlt := hj (k, w) ((mem_entries_iff ⟨l, hl⟩ k w).2 hv)
          simp [hk, ReflCmp.compare_self] at hlt
      rw [hnone, if_pos hk, if_pos (hk ▸ ReflCmp.compare_self), Option.none_or, Option.some_or]
    · have hne : compare k j ≠ .eq := fun he => hk (LawfulEqOrd.eq_of_compare he)
      rw [if_neg hk, if_neg hne]

/-- The second of two maps goes before the first. -/
theorem get?_merge [DecidableEq κ] (m extra : SortedMap κ α) (k : κ) :
    (m.merge extra).get? k = (extra.get? k).or (m.get? k) :=
  get?_foldl_insert k extra.entries m extra.sorted

omit [TransOrd κ] [LawfulEqOrd κ] in
/-- The map has every entry of the other one. -/
def Includes (m n : SortedMap κ α) : Prop := ∀ k v, n.get? k = some v → m.get? k = some v

omit [TransOrd κ] in
theorem includes_iff {m n : SortedMap κ α} : m.Includes n ↔ ∀ e ∈ n.entries, m.get? e.1 = some e.2 := by
  constructor
  · intro h e he
    exact h e.1 e.2 ((mem_entries_iff n e.1 e.2).1 he)
  · intro h k v hv
    exact h (k, v) ((mem_entries_iff n k v).2 hv)

instance [DecidableEq α] (m n : SortedMap κ α) : Decidable (m.Includes n) :=
  decidable_of_iff _ includes_iff.symm

theorem merge_includes [DecidableEq κ] (m extra : SortedMap κ α) : (m.merge extra).Includes extra := by
  intro k v hv
  rw [get?_merge, hv, Option.some_or]

/-- What a map with one more entry asks of another. -/
theorem includes_insert [DecidableEq κ] {m n : SortedMap κ α} {k : κ} {v : α} :
    m.Includes (n.insert k v) ↔ m.get? k = some v ∧ ∀ j w, j ≠ k → n.get? j = some w → m.get? j = some w := by
  constructor
  · intro h
    refine ⟨h k v (get?_insert_self n k v), fun j w hj hw => h j w ?_⟩
    rwa [get?_insert_of_ne n v hj]
  · rintro ⟨hk, hrest⟩ j w hw
    rw [get?_insert] at hw
    split at hw
    · rename_i hj
      cases hw
      rwa [hj]
    · rename_i hj
      exact hrest j w hj hw

omit [TransOrd κ] [LawfulEqOrd κ] in
/-- Under the key the map has the value, or nothing. -/
def SaysOnly (m : SortedMap κ α) (k : κ) (v : α) : Prop := ∀ w, m.get? k = some w → w = v

/-- A map with one more entry includes what agrees with the entry and is in the map otherwise. -/
theorem insert_includes [DecidableEq κ] {m n : SortedMap κ α} {k : κ} {v : α} :
    (m.insert k v).Includes n ↔ n.SaysOnly k v ∧ ∀ j w, j ≠ k → n.get? j = some w → m.get? j = some w := by
  constructor
  · intro h
    refine ⟨fun w hw => ?_, fun j w hj hw => ?_⟩
    · have hsame := h k w hw
      rw [get?_insert_self] at hsame
      exact (Option.some.inj hsame).symm
    · have hsame := h j w hw
      rwa [get?_insert_of_ne m v hj] at hsame
  · rintro ⟨hk, hrest⟩ j w hw
    rw [get?_insert]
    split
    · rename_i hj
      rw [hk w (hj ▸ hw)]
    · rename_i hj
      exact hrest j w hj hw

/-! ## Listing -/

omit [LawfulEqOrd κ] in
/-- A key above all others takes its place at the end. -/
theorem place_of_lt (k : κ) (v : α) {l : List (κ × α)} (h : ∀ e ∈ l, compare e.1 k = .lt) :
    place k v l = l ++ [(k, v)] := by
  induction l with
  | nil => rfl
  | cons e r ih =>
    have he : compare k e.1 = .gt := OrientedCmp.gt_of_lt (h e (by simp))
    rw [place, he, ih fun e' he' => h e' (by simp [he']), List.cons_append]

/-- Inserting entries in the order of their keys lists them after those that are there. -/
theorem entries_foldl_insert (l : List (κ × α)) :
    ∀ m : SortedMap κ α, (m.entries ++ l).Pairwise (fun a b => compare a.1 b.1 = .lt) →
      (l.foldl (fun m e => m.insert e.1 e.2) m).entries = m.entries ++ l := by
  induction l with
  | nil => simp
  | cons e r ih =>
    intro m h
    have hm : (m.insert e.1 e.2).entries = m.entries ++ [e] :=
      place_of_lt e.1 e.2 fun a ha => (List.pairwise_append.1 h).2.2 a ha e (by simp)
    rw [List.foldl_cons, ih (m.insert e.1 e.2) (by rwa [hm, List.append_assoc]), hm, List.append_assoc]
    rfl

theorem contains_foldl_insert [DecidableEq κ] {k : κ} (l : List (κ × α)) : ∀ m : SortedMap κ α,
    (l.foldl (fun m e => m.insert e.1 e.2) m).contains k = (m.contains k || l.any (·.1 == k)) := by
  induction l with
  | nil => simp
  | cons e l ih =>
    intro m
    have hinsert : (m.insert e.1 e.2).contains k = (m.contains k || e.1 == k) := by
      rw [contains, get?_insert]
      by_cases h : k = e.1
      · simp [h]
      · simp [h, contains, Ne.symm h]
    rw [List.foldl_cons, ih, hinsert, List.any_cons, Bool.or_assoc]

omit [TransOrd κ] in
theorem mem_keys [DecidableEq κ] {m : SortedMap κ α} {k : κ} : k ∈ m.keys ↔ m.contains k = true := by
  simp only [keys, List.mem_map, Prod.exists, contains, Option.isSome_iff_exists]
  constructor
  · rintro ⟨a, v, hm, rfl⟩
    exact ⟨v, (mem_entries_iff m a v).1 hm⟩
  · rintro ⟨v, hv⟩
    exact ⟨k, v, (mem_entries_iff m k v).2 hv, rfl⟩

/-- Listing the distinct members leaves none out. -/
theorem mem_distinct [DecidableEq κ] {l : List κ} {k : κ} : k ∈ distinct l ↔ k ∈ l := by
  rw [distinct, mem_keys, ofList, contains_foldl_insert]
  simp [contains]

/-- A list in the order of its keys is the list of the map that it makes. -/
theorem toList_ofList {l : List (κ × α)} (h : l.Pairwise fun a b => compare a.1 b.1 = .lt) : (ofList l).toList = l :=
  entries_foldl_insert l empty h

/-- A map is what its own list makes. -/
theorem ofList_toList (m : SortedMap κ α) : ofList m.toList = m := by
  apply eq_of_entries
  exact toList_ofList m.sorted

omit [TransOrd κ] in
/-- No key is listed twice. -/
theorem nodup_keys (m : SortedMap κ α) : m.keys.Nodup := by
  refine List.pairwise_map.2 (m.sorted.imp fun {a b} h e => ?_)
  have hb : compare b.1 b.1 = .lt := e ▸ h
  simp [ReflCmp.compare_self] at hb

omit [TransOrd κ] in
theorem get?_filter [DecidableEq κ] (m : SortedMap κ α) (p : κ → α → Bool) (k : κ) :
    (m.filter p).get? k = (m.get? k).filter (p k) := by
  apply Option.ext
  intro v
  rw [← mem_entries_iff, Option.filter_eq_some_iff, ← mem_entries_iff]
  simp [filter]

/-- Maps that agree under some keys list the same entries of these keys. -/
theorem toList_filter_congr [DecidableEq κ] {m n : SortedMap κ α} (p : κ → Bool)
    (h : ∀ k, p k = true → m.get? k = n.get? k) :
    m.toList.filter (fun e => p e.1) = n.toList.filter (fun e => p e.1) := by
  have hmaps : m.filter (fun k _ => p k) = n.filter (fun k _ => p k) := by
    apply ext_get?
    intro k
    rw [get?_filter, get?_filter]
    cases hp : p k with
    | true => rw [h k hp]
    | false => cases m.get? k <;> cases n.get? k <;> simp [Option.filter]
  exact congrArg entries hmaps

end VolumeMigration.SortedMap
