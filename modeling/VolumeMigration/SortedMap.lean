/-!
# Finite maps listed in key order

A `SortedMap` holds its entries in strictly increasing key order, so listing a
map is reading its entries and two maps with the same lookups are equal
(`SortedMap.ext_get?`). Labels, annotations, the data of a ConfigMap and the
objects of a cluster are all such maps.
-/

namespace VolumeMigration

open Std

/-- A finite map whose entries stand in strictly increasing key order. -/
structure SortedMap (κ α : Type) [Ord κ] where
  entries : List (κ × α)
  sorted : entries.Pairwise (fun a b => compare a.1 b.1 = .lt) := by simp

namespace SortedMap

variable {κ α β : Type} [Ord κ]

theorem eq_of_entries {m n : SortedMap κ α} (h : m.entries = n.entries) : m = n := by
  cases m; cases n; simp_all

instance [DecidableEq κ] [DecidableEq α] : DecidableEq (SortedMap κ α) := fun m n =>
  if h : m.entries = n.entries then .isTrue (eq_of_entries h)
  else .isFalse (fun e => h (e ▸ rfl))

instance [BEq κ] [BEq α] : BEq (SortedMap κ α) := ⟨fun m n => m.entries == n.entries⟩

instance [Repr κ] [Repr α] : Repr (SortedMap κ α) := ⟨fun m p => reprPrec m.entries p⟩

def empty : SortedMap κ α := { entries := [] }

instance : EmptyCollection (SortedMap κ α) := ⟨empty⟩

instance : Inhabited (SortedMap κ α) := ⟨empty⟩

/-- Entries in key order. -/
def toList (m : SortedMap κ α) : List (κ × α) := m.entries

/-- Keys in order. -/
def keys (m : SortedMap κ α) : List κ := m.entries.map (·.1)

/-- Values in the order of their keys. -/
def values (m : SortedMap κ α) : List α := m.entries.map (·.2)

def size (m : SortedMap κ α) : Nat := m.entries.length

def isEmpty (m : SortedMap κ α) : Bool := m.entries.isEmpty

/-- The value under a key in a list of entries. -/
def lookup (k : κ) : List (κ × α) → Option α
  | [] => none
  | (k', v) :: r => if compare k k' = .eq then some v else lookup k r

def get? (m : SortedMap κ α) (k : κ) : Option α := lookup k m.entries

def contains (m : SortedMap κ α) (k : κ) : Bool := (m.get? k).isSome

/-- Places an entry at its position in a sorted list, replacing the one with the same key. -/
def place (k : κ) (v : α) : List (κ × α) → List (κ × α)
  | [] => [(k, v)]
  | (k', v') :: r =>
    match compare k k' with
    | .lt => (k, v) :: (k', v') :: r
    | .eq => (k, v) :: r
    | .gt => (k', v') :: place k v r

theorem mem_place {k : κ} {v : α} {l : List (κ × α)} {e : κ × α} (h : e ∈ place k v l) :
    e = (k, v) ∨ e ∈ l := by
  induction l with
  | nil => simpa [place] using h
  | cons x r ih =>
    simp only [place] at h
    split at h
    · simpa using h
    · rcases List.mem_cons.1 h with h | h
      · exact .inl h
      · exact .inr (List.mem_cons_of_mem _ h)
    · rcases List.mem_cons.1 h with h | h
      · exact .inr (h ▸ List.mem_cons_self)
      · rcases ih h with h | h
        · exact .inl h
        · exact .inr (List.mem_cons_of_mem _ h)

section Laws
variable [TransOrd κ] [LawfulEqOrd κ]

theorem pairwise_place (k : κ) (v : α) {l : List (κ × α)}
    (h : l.Pairwise (fun a b => compare a.1 b.1 = .lt)) :
    (place k v l).Pairwise (fun a b => compare a.1 b.1 = .lt) := by
  induction l with
  | nil => simp [place]
  | cons x r ih =>
    obtain ⟨hx, hr⟩ := List.pairwise_cons.1 h
    simp only [place]
    split
    · rename_i hlt
      refine List.pairwise_cons.2 ⟨fun e he => ?_, h⟩
      rcases List.mem_cons.1 he with rfl | he
      · exact hlt
      · exact TransCmp.lt_trans hlt (hx e he)
    · rename_i heq
      have e := LawfulEqOrd.eq_of_compare heq
      subst e
      exact List.pairwise_cons.2 ⟨hx, hr⟩
    · rename_i hgt
      refine List.pairwise_cons.2 ⟨fun e he => ?_, ih hr⟩
      rcases mem_place he with rfl | he
      · exact OrientedCmp.lt_of_gt hgt
      · exact hx e he

/-- The map with `k` holding `v`. -/
def insert (m : SortedMap κ α) (k : κ) (v : α) : SortedMap κ α :=
  { entries := place k v m.entries, sorted := pairwise_place k v m.sorted }

/-- The entries of a list, a later entry replacing an earlier one with the same key. -/
def ofList (l : List (κ × α)) : SortedMap κ α := l.foldl (fun m e => m.insert e.1 e.2) empty

/-- The members of a list, each once and in order. -/
def distinct (l : List κ) : List κ := (ofList (l.map (·, ()))).keys

/-- All entries of both maps, those of `extra` where a key is in both. -/
def merge (base extra : SortedMap κ α) : SortedMap κ α :=
  extra.entries.foldl (fun m e => m.insert e.1 e.2) base

omit [TransOrd κ] [LawfulEqOrd κ] in
/-- The map without `k`. -/
def erase (m : SortedMap κ α) (k : κ) : SortedMap κ α :=
  { entries := m.entries.filter (fun e => compare k e.1 != .eq), sorted := m.sorted.filter _ }

omit [TransOrd κ] [LawfulEqOrd κ] in
/-- The entries that satisfy `p`. -/
def filter (m : SortedMap κ α) (p : κ → α → Bool) : SortedMap κ α :=
  { entries := m.entries.filter (fun e => p e.1 e.2), sorted := m.sorted.filter _ }

/-! ## Lookups -/

omit [TransOrd κ] [LawfulEqOrd κ] in
@[simp] theorem get?_empty (k : κ) : (empty : SortedMap κ α).get? k = none := rfl

omit [TransOrd κ] in
theorem lookup_place [DecidableEq κ] (k j : κ) (v : α) (l : List (κ × α)) :
    lookup j (place k v l) = if j = k then some v else lookup j l := by
  induction l with
  | nil =>
    by_cases h : j = k
    · subst h; simp [place, lookup]
    · have : compare j k ≠ .eq := fun e => h (LawfulEqOrd.eq_of_compare e)
      simp [place, lookup, h, this]
  | cons x r ih =>
    by_cases h : j = k
    · subst h
      simp only [place]
      split
      · simp [lookup]
      · simp [lookup]
      · rename_i hgt
        simp [lookup, ih, hgt]
    · have hjk : compare j k ≠ .eq := fun e => h (LawfulEqOrd.eq_of_compare e)
      simp only [place]
      split
      · simp [lookup, h, hjk]
      · rename_i heq
        have e := LawfulEqOrd.eq_of_compare heq
        subst e
        simp [lookup, h, hjk]
      · simp only [lookup, ih, if_neg h]

@[simp] theorem get?_insert_self [DecidableEq κ] (m : SortedMap κ α) (k : κ) (v : α) :
    (m.insert k v).get? k = some v := by
  simp [get?, insert, lookup_place]

theorem get?_insert_of_ne [DecidableEq κ] (m : SortedMap κ α) {j k : κ} (v : α) (h : j ≠ k) :
    (m.insert k v).get? j = m.get? j := by
  simp [get?, insert, lookup_place, h]

theorem get?_insert [DecidableEq κ] (m : SortedMap κ α) (j k : κ) (v : α) :
    (m.insert k v).get? j = if j = k then some v else m.get? j := by
  by_cases h : j = k
  · subst h; simp
  · simp [get?_insert_of_ne m v h, h]

omit [TransOrd κ] in
/-- An entry is listed exactly if looking up its key finds it. -/
theorem mem_entries_iff (m : SortedMap κ α) (k : κ) (v : α) :
    (k, v) ∈ m.entries ↔ m.get? k = some v := by
  obtain ⟨l, hl⟩ := m
  simp only [get?]
  induction l with
  | nil => simp [lookup]
  | cons x r ih =>
    obtain ⟨hx, hr⟩ := List.pairwise_cons.1 hl
    by_cases h : k = x.1
    · subst h
      have hn : (x.1, v) ∉ r := fun hm => by
        have := hx _ hm
        simp [ReflCmp.compare_self] at this
      have hself : compare x.1 x.1 = .eq := ReflCmp.compare_self
      obtain ⟨a, b⟩ := x
      simp only [lookup, List.mem_cons, Prod.mk.injEq]
      rw [if_pos hself]
      simp [hn, eq_comm]
    · have hne : compare k x.1 ≠ .eq := fun e => h (LawfulEqOrd.eq_of_compare e)
      obtain ⟨a, b⟩ := x
      simp only [lookup, if_neg hne, List.mem_cons, Prod.mk.injEq]
      rw [← ih hr]
      simp [h]

omit [TransOrd κ] in
theorem get?_erase [DecidableEq κ] (m : SortedMap κ α) (j k : κ) :
    (m.erase k).get? j = if j = k then none else m.get? j := by
  have key : ∀ v, (m.erase k).get? j = some v ↔ (m.get? j = some v ∧ j ≠ k) := fun v => by
    rw [← mem_entries_iff, ← mem_entries_iff]
    simp only [erase, List.mem_filter, bne_iff_ne, ne_eq]
    refine and_congr_right fun _ => not_congr ⟨fun e => (LawfulEqOrd.eq_of_compare e).symm, ?_⟩
    rintro rfl
    exact ReflCmp.compare_self
  split
  · rename_i h
    cases e : (m.erase k).get? j with
    | none => rfl
    | some v => exact absurd h ((key v).1 e).2
  · rename_i h
    cases e : m.get? j with
    | some v => exact (key v).2 ⟨e, h⟩
    | none =>
      cases e' : (m.erase k).get? j with
      | none => rfl
      | some v => rw [((key v).1 e').1] at e; exact e

/-- A map is determined by its lookups. -/
theorem ext_get? {m n : SortedMap κ α} (h : ∀ k, m.get? k = n.get? k) : m = n := by
  apply eq_of_entries
  have hm : ∀ e, e ∈ m.entries ↔ e ∈ n.entries := fun e => by
    rw [mem_entries_iff, mem_entries_iff, h]
  have aux : ∀ (l r : List (κ × α)), l.Pairwise (fun a b => compare a.1 b.1 = .lt) →
      r.Pairwise (fun a b => compare a.1 b.1 = .lt) → (∀ e, e ∈ l ↔ e ∈ r) → l = r := by
    intro l
    induction l with
    | nil =>
      intro r _ _ he
      cases r with
      | nil => rfl
      | cons y s => exact absurd ((he y).2 List.mem_cons_self) (by simp)
    | cons x l ih =>
      intro r hl hr he
      cases r with
      | nil => exact absurd ((he x).1 List.mem_cons_self) (by simp)
      | cons y s =>
        obtain ⟨hx, hl'⟩ := List.pairwise_cons.1 hl
        obtain ⟨hy, hs'⟩ := List.pairwise_cons.1 hr
        have irr : ∀ a : κ × α, compare a.1 a.1 ≠ .lt := fun a => by simp [ReflCmp.compare_self]
        have hxy : x = y := by
          rcases List.mem_cons.1 ((he x).1 List.mem_cons_self) with h1 | h1
          · exact h1
          · rcases List.mem_cons.1 ((he y).2 List.mem_cons_self) with h2 | h2
            · exact h2.symm
            · exact absurd (TransCmp.lt_trans (hx y h2) (hy x h1)) (irr x)
        subst hxy
        congr 1
        refine ih s hl' hs' fun e => ⟨fun hm => ?_, fun hm => ?_⟩
        · rcases List.mem_cons.1 ((he e).1 (List.mem_cons_of_mem _ hm)) with h1 | h1
          · subst h1; exact absurd (hx e hm) (irr e)
          · exact h1
        · rcases List.mem_cons.1 ((he e).2 (List.mem_cons_of_mem _ hm)) with h1 | h1
          · subst h1; exact absurd (hy e hm) (irr e)
          · exact h1
  exact aux _ _ m.sorted n.sorted hm

end Laws

end SortedMap

/-- Text under text keys: labels, annotations, selectors, file contents. -/
abbrev StringMap := SortedMap String String

end VolumeMigration
