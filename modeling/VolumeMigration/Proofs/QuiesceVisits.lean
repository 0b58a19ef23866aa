import VolumeMigration.Proofs.QuiesceObjects
/-!
# Visiting the controllers of a namespace

Stopping and restoring both visit the controllers kind by kind and write at most
the controller that they visit. Whatever a visit does to one controller, the
visit of all of them does to each, at its own key and nowhere else
(`goes_visitKinds`): in every state on the way, and wherever it ends.
-/

namespace VolumeMigration.Quiesce

open Attempt

/-! ## States on the way -/

/-- The states that a visit of objects comes to, one after each object. -/
def visitStates (f : Object → Attempt Cluster (Option QuiesceStep)) : List Object → Cluster → List Cluster
  | [], _ => []
  | o :: os, c =>
    match outcome (f o) c with
    | (.ok _, c') => c' :: visitStates f os c'
    | (.error _, c') => [c']

/-- The states that a visit of kinds comes to. -/
def kindStates (f : WorkloadKind → Object → Attempt Cluster (Option QuiesceStep)) (ns : String) :
    List WorkloadKind → Cluster → List Cluster
  | [], _ => []
  | k :: ks, c =>
    match outcome (eligible k ns) c with
    | (.error _, c') => [c']
    | (.ok os, c') =>
      visitStates (f k) os c' ++
        match outcome (visit (f k) os) c' with
        | (.ok _, c'') => kindStates f ns ks c''
        | (.error _, _) => []

/-! ## Moves -/

/-- A cluster some of whose objects became what `S` says. Everything else is as it was. -/
structure Moved (S : Object → Object → Prop) (c c' : Cluster) : Prop where
  refusals : c'.refusals = c.refusals
  faults : c'.faults = c.faults
  kept : c.WellKept → c'.WellKept
  objects : ∀ key, c'.objects.get? key = c.objects.get? key ∨
    ∃ o o', c.objects.get? key = some o ∧ c'.objects.get? key = some o' ∧ S o o'

namespace Moved

variable {S S' : Object → Object → Prop} {c c' c'' : Cluster}

theorem refl (S : Object → Object → Prop) (c : Cluster) : Moved S c c := ⟨rfl, rfl, id, fun _ => .inl rfl⟩

theorem mono (h : Moved S c c') (hS : ∀ o o', S o o' → S' o o') : Moved S' c c' := by
  refine ⟨h.refusals, h.faults, h.kept, fun key => ?_⟩
  rcases h.objects key with h | ⟨o, o', ho, ho', hs⟩
  · exact .inl h
  · exact .inr ⟨o, o', ho, ho', hS o o' hs⟩

theorem injects_iff (h : Moved S c c') (f : Failure) : c'.Injects f ↔ c.Injects f := by
  unfold Cluster.Injects Cluster.fault?
  rw [h.refusals, h.faults]

/-- What did not move under a key is as it was. -/
theorem get?_eq (h : Moved S c c') {key : Key} (hs : ∀ o o', c.objects.get? key = some o → ¬S o o') :
    c'.objects.get? key = c.objects.get? key := by
  rcases h.objects key with h | ⟨o, o', ho, -, hso⟩
  · exact h
  · exact absurd hso (hs o o' ho)

/-- Moves of different objects in a row. -/
theorem trans (hc : c.WellKept) (h : Moved S c c') (h' : Moved S' c' c'')
    (hdis : ∀ a b d e, S a b → S' d e → a.key ≠ d.key) : Moved (fun o o' => S o o' ∨ S' o o') c c'' := by
  refine ⟨h'.refusals.trans h.refusals, h'.faults.trans h.faults, h'.kept ∘ h.kept, fun key => ?_⟩
  rcases h.objects key with he | ⟨a, b, ha, hb, hs⟩
  · rcases h'.objects key with he' | ⟨d, e, hd, he', hs'⟩
    · exact .inl (he'.trans he)
    · exact .inr ⟨d, e, he ▸ hd, he', .inr hs'⟩
  · rcases h'.objects key with he' | ⟨d, e, hd, -, hs'⟩
    · exact .inr ⟨a, b, ha, he' ▸ hb, .inl hs⟩
    · exact absurd ((hc key a ha).trans (h.kept hc key d hd).symm) (hdis a b d e hs hs')

end Moved

/-! ## Series of visits -/

/-- What a series of visits comes to from `c`, through `states`, with the result `r` in `c'`. Objects
move as `S` says. Those in `C` are visited unless it fails, and it fails as a rule of the cluster says
or on an object, as `E` says. -/
structure Goes {α : Type} (S : Object → Object → Prop) (C : Object → Prop) (E : Object → Failure → Prop)
    (c : Cluster) (states : List Cluster) (r : Result α) (c' : Cluster) : Prop where
  moved : ∀ d ∈ states, Moved S c d
  last : (c :: states).getLast? = some c'
  failed : ∀ f, r = .error f → c.Injects f ∨ ∃ o, c.objects.get? o.key = some o ∧ E o f
  completed : ∀ x, r = .ok x → ∀ o, c.objects.get? o.key = some o → C o →
    ∃ o', c'.objects.get? o.key = some o' ∧ S o o'

namespace Goes

variable {α β : Type} {S S' : Object → Object → Prop} {C C' : Object → Prop} {E E' : Object → Failure → Prop}
  {c c' c'' : Cluster} {st st' : List Cluster} {r : Result α}

theorem moved_last (h : Goes S C E c st r c') : Moved S c c' := by
  rcases List.mem_cons.1 (List.mem_of_getLast? h.last) with rfl | hm
  · exact .refl S c'
  · exact h.moved c' hm

theorem nothing (x : α) (hC : ∀ o, ¬C o) : Goes S C E c [] (.ok x) c where
  moved := by simp
  last := rfl
  failed := by simp
  completed := fun _ _ o _ ho => absurd ho (hC o)

theorem mono (h : Goes S C E c st r c') (hS : ∀ o o', S o o' → S' o o')
    (hC : ∀ o, c.objects.get? o.key = some o → C' o → C o) (hE : ∀ o f, E o f → E' o f) :
    Goes S' C' E' c st r c' where
  moved := fun d hd => (h.moved d hd).mono hS
  last := h.last
  failed := by
    intro f hf
    rcases h.failed f hf with hi | ⟨o, ho, he⟩
    · exact .inl hi
    · exact .inr ⟨o, ho, hE o f he⟩
  completed := by
    intro x hx o ho hCo
    obtain ⟨o', ho', hs⟩ := h.completed x hx o ho (hC o ho hCo)
    exact ⟨o', ho', hS o o' hs⟩

theorem map (g : α → β) (h : Goes S C E c st r c') : Goes S C E c st (r.map g) c' := by
  refine ⟨h.moved, h.last, ?_, ?_⟩
  · intro f hf
    cases r with
    | error f' => cases hf; exact h.failed f rfl
    | ok x => cases hf
  · intro y hy
    obtain ⟨x, hx, -⟩ := Result.map_eq_ok.1 hy
    exact h.completed x hx

/-- A series that failed fails whatever was to come. -/
theorem of_error {f : Failure} (h : Goes S C E c st (.error f : Result α) c') :
    Goes S C' E c st (.error f : Result β) c' where
  moved := h.moved
  last := h.last
  failed := by
    rintro g hg
    cases hg
    exact h.failed f rfl
  completed := by simp

/-- Series of visits of different objects in a row. -/
theorem trans {x : β} (hc : c.WellKept) (h : Goes S C E c st (.ok x) c') (h' : Goes S' C' E' c' st' r c'')
    (hS : ∀ a b d e, S a b → S' d e → a.key ≠ d.key) (hC : ∀ a b d, S a b → C' d → a.key ≠ d.key)
    (hE : ∀ a b d f, S a b → E' d f → a.key ≠ d.key) :
    Goes (fun o o' => S o o' ∨ S' o o') (fun o => C o ∨ C' o) (fun o f => E o f ∨ E' o f) c (st ++ st') r c'' where
  moved := by
    intro d hd
    rcases List.mem_append.1 hd with hd | hd
    · exact (h.moved d hd).mono fun _ _ => .inl
    · exact h.moved_last.trans hc (h'.moved d hd) hS
  last := by
    have hl := h'.last
    cases st' with
    | nil => simpa using (by simpa using hl : c' = c'') ▸ h.last
    | cons d st' => simpa [List.getLast?_append, List.getLast?_cons] using hl
  failed := by
    intro f hf
    rcases h'.failed f hf with hi | ⟨o, ho, he⟩
    · exact .inl ((h.moved_last.injects_iff f).1 hi)
    · have hsame := h.moved_last.get?_eq fun a b ha hs => hE a b o f hs he (hc _ a ha)
      exact .inr ⟨o, hsame ▸ ho, .inr he⟩
  completed := by
    rintro y rfl o ho (hCo | hCo)
    · obtain ⟨o', ho', hs⟩ := h.completed x rfl o ho hCo
      have hsame := h'.moved_last.get?_eq fun d e hd hs' =>
        hS o o' d e hs hs' (h.moved_last.kept hc _ d hd).symm
      exact ⟨o', hsame ▸ ho', .inl hs⟩
    · have hsame := h.moved_last.get?_eq fun a b ha hs => hC a b o hs hCo (hc _ a ha)
      obtain ⟨o', ho', hs⟩ := h'.completed y rfl o (hsame ▸ ho) hCo
      exact ⟨o', ho', .inr hs⟩

end Goes

/-! ## One object -/

/-- What the visit of one object comes to: the object is left, or `R` says what is written in its
place. -/
inductive Visited (R : Object → Object → Prop) (E : Failure → Prop) (ns : String) (c : Cluster) (o : Object) :
    Result (Option QuiesceStep) × Cluster → Prop where
  | left (x : Option QuiesceStep) (h : R o o) : Visited R E ns c o (.ok x, c)
  | failed (f : Failure) (h : c.Injects f ∨ E f) : Visited R E ns c o (.error f, c)
  | wrote (x : Option QuiesceStep) (o' : Object) (hkey : o'.key = o.key) (h : ∀ v, R o (o'.withVersion v)) :
    Visited R E ns c o (.ok x, c.wrote .update ns o')

variable {R : Object → Object → Prop} {E : Object → Failure → Prop} {ns : String} {k : WorkloadKind}

theorem Visited.goes {c : Cluster} {o : Object} {r : Result (Option QuiesceStep) × Cluster}
    (ho : c.objects.get? o.key = some o) (h : Visited R (E o) ns c o r) :
    Goes (fun a b => a = o ∧ R a b) (· = o) (fun a f => a = o ∧ E a f) c [r.2] r.1 r.2 := by
  cases h with
  | left x h =>
    refine ⟨by simp [Moved.refl], rfl, by simp, ?_⟩
    rintro - - a ha rfl
    exact ⟨a, ha, rfl, h⟩
  | failed f h =>
    refine ⟨by simp [Moved.refl], rfl, ?_, by simp⟩
    intro g hg
    cases hg
    rcases h with hi | he
    · exact .inl hi
    · exact .inr ⟨o, ho, rfl, he⟩
  | wrote x o' hkey h =>
    have hself := hkey ▸ c.get?_wrote_self .update ns o'
    refine ⟨?_, rfl, by simp, ?_⟩
    · rintro d hd
      rw [List.mem_singleton.1 hd]
      refine ⟨rfl, rfl, fun hc => hc.wrote .update ns o', fun key => ?_⟩
      by_cases hk : key = o.key
      · subst hk
        exact .inr ⟨o, _, ho, hself, rfl, h _⟩
      · exact .inl (c.get?_wrote_of_ne .update ns o' (hkey ▸ hk))
    · rintro - - a ha rfl
      exact ⟨_, hself, rfl, h _⟩

/-! ## The objects of a kind -/

/-- The visits of listed objects under different keys. -/
theorem goes_visit {f : Object → Attempt Cluster (Option QuiesceStep)}
    (hf : ∀ c o, Listed ns k o → c.objects.get? o.key = some o → Visited R (E o) ns c o (outcome (f o) c))
    (os : List Object) : ∀ c : Cluster, c.WellKept → (os.map Object.key).Nodup →
      (∀ o ∈ os, Listed ns k o ∧ c.objects.get? o.key = some o) →
      Goes (fun a b => a ∈ os ∧ R a b) (· ∈ os) (fun a f => a ∈ os ∧ E a f) c (visitStates f os c)
        (outcome (visit f os) c).1 (outcome (visit f os) c).2 := by
  -- By induction on the objects: the visit of one leaves the others as they were listed.
  induction os with
  | nil =>
    intro c _ _ _
    exact .nothing [] (by simp)
  | cons o os ih =>
    intro c hc hnd hos
    obtain ⟨hout, hnd'⟩ := List.nodup_cons.1 hnd
    obtain ⟨hl, ho⟩ := hos o (by simp)
    have hone := (hf c o hl ho).goes ho
    rw [visit, visitStates, outcome_bind]
    rcases hr : outcome (f o) c with ⟨e | x, c'⟩
    · rw [hr] at hone
      refine (hone.mono ?_ (fun _ _ h => h) ?_).of_error
      · rintro a b ⟨rfl, h⟩
        exact ⟨by simp, h⟩
      · rintro a g ⟨rfl, h⟩
        exact ⟨by simp, h⟩
    · rw [hr] at hone
      have hne : ∀ d ∈ os, o.key ≠ d.key := fun d hd he => hout (he ▸ List.mem_map_of_mem hd)
      have hcur : ∀ d ∈ os, Listed ns k d ∧ c'.objects.get? d.key = some d := by
        intro d hd
        refine ⟨(hos d (by simp [hd])).1, ?_⟩
        rw [← (hos d (by simp [hd])).2]
        exact hone.moved_last.get?_eq fun a b ha hs => hne d hd (hs.1 ▸ hc _ a ha)
      have hrest := ih c' (hone.moved_last.kept hc) hnd' hcur
      have hall := hone.trans hc (hrest.map (x.toList ++ ·)) (fun a b d e h h' => h.1 ▸ hne d h'.1)
        (fun a b d h h' => h.1 ▸ hne d h') (fun a b d e h h' => h.1 ▸ hne d h'.1)
      simp only [bind_pure_comp, outcome_map]
      refine hall.mono ?_ ?_ ?_
      · rintro a b (⟨rfl, h⟩ | ⟨ha, h⟩)
        · exact ⟨by simp, h⟩
        · exact ⟨by simp [ha], h⟩
      · intro a _ ha
        exact List.mem_cons.1 ha
      · rintro a g (⟨rfl, h⟩ | ⟨ha, h⟩)
        · exact ⟨by simp, h⟩
        · exact ⟨by simp [ha], h⟩

/-! ## The objects of every kind -/

/-- Whether the cluster serves a kind: one that it need not serve may be answered as not found. -/
def Served (c : Cluster) (k : WorkloadKind) : Prop :=
  ¬(k.isOptional = true ∧ ∃ f, c.refusal? .list k.kind "" = some f ∧ f.isNotFound = true)

theorem mem_listed {c : Cluster} (hc : c.WellKept) {o : Object} :
    o ∈ (c.matching k.kind ns none).filter (isEligible k) ↔ Listed ns k o ∧ c.objects.get? o.key = some o := by
  rw [List.mem_filter, Cluster.mem_matching hc]
  constructor
  · rintro ⟨⟨ho, hk, hn⟩, he⟩
    exact ⟨⟨hk, hn, he⟩, ho⟩
  · rintro ⟨h, ho⟩
    exact ⟨⟨ho, h.kind, h.ns⟩, h.eligible⟩

/-- The controllers of a kind are listed, are none that the cluster serves, or a rule fails the
listing. -/
theorem eligible_cases (c : Cluster) (k : WorkloadKind) (ns : String) :
    (∃ f, outcome (eligible k ns) c = (.error f, c) ∧ c.Injects f) ∨
    (outcome (eligible k ns) c = (.ok [], c) ∧ ¬Served c k) ∨
    (outcome (eligible k ns) c = (.ok ((c.matching k.kind ns none).filter (isEligible k)), c) ∧ Served c k) := by
  unfold eligible
  rw [outcome_bind, outcome_caught, Cluster.list_outcome]
  cases hr : c.refusal? .list k.kind "" with
  | some f =>
    by_cases hf : k.isOptional && f.isNotFound
    · right; left
      refine ⟨by simp [hf], fun hs => hs ?_⟩
      rw [Bool.and_eq_true] at hf
      exact ⟨hf.1, f, hr, hf.2⟩
    · left
      exact ⟨f, by simp [hf], Cluster.injects_of_refusal hr⟩
  | none =>
    cases hf : c.fault? .list k.kind "" with
    | some f =>
      left
      have hnf : f.isNotFound = false := by
        unfold Cluster.fault? at hf
        split at hf
        · cases hf
          rfl
        · cases hf
      exact ⟨f, by simp [hnf], .inr ⟨_, _, _, hf⟩⟩
    | none =>
      right; right
      refine ⟨by simp, ?_⟩
      rintro ⟨-, f, hf', -⟩
      rw [hr] at hf'
      cases hf'

theorem eligible_error {c c' : Cluster} {f : Failure} (h : outcome (eligible k ns) c = (.error f, c')) :
    c' = c ∧ c.Injects f := by
  rcases eligible_cases c k ns with ⟨g, hg, hi⟩ | ⟨hg, -⟩ | ⟨hg, -⟩
  · rw [hg] at h
    cases h
    exact ⟨rfl, hi⟩
  · rw [hg] at h
    cases h
  · rw [hg] at h
    cases h

theorem Moved.served_iff {S : Object → Object → Prop} {c c' : Cluster} (h : Moved S c c') (k : WorkloadKind) :
    Served c' k ↔ Served c k := by
  unfold Served Cluster.refusal?
  rw [h.refusals]

theorem kind_injective {k k' : WorkloadKind} (h : k.kind = k'.kind) : k = k' := by
  revert h
  cases k <;> cases k' <;> decide

/-- Controllers of different kinds are kept under different keys. -/
theorem Listed.key_ne {k' : WorkloadKind} {o o' : Object} (h : Listed ns k o) (h' : Listed ns k' o')
    (hk : k ≠ k') : o.key ≠ o'.key := by
  intro he
  have hkind : o.kind = o'.kind := congrArg Key.kind he
  exact hk (kind_injective (h.kind.symm.trans (hkind.trans h'.kind)))

section Kinds
variable {R : WorkloadKind → Object → Object → Prop} {E : WorkloadKind → Object → Failure → Prop}
  {f : WorkloadKind → Object → Attempt Cluster (Option QuiesceStep)}
  (hf : ∀ k c o, Listed ns k o → c.objects.get? o.key = some o → Visited (R k) (E k o) ns c o (outcome (f k o) c))
include hf

/-- The visits of the controllers of one kind. -/
theorem goes_eligible {c c' : Cluster} (hc : c.WellKept) {os : List Object}
    (h : outcome (eligible k ns) c = (.ok os, c')) :
    c' = c ∧ Goes (fun a b => Served c k ∧ Listed ns k a ∧ R k a b) (fun a => Served c k ∧ Listed ns k a)
      (fun a f => Listed ns k a ∧ E k a f) c (visitStates (f k) os c)
      (outcome (visit (f k) os) c).1 (outcome (visit (f k) os) c).2 := by
  rcases eligible_cases c k ns with ⟨g, hg, -⟩ | ⟨hg, hserved⟩ | ⟨hg, hserved⟩
  · rw [hg] at h
    cases h
  · rw [hg] at h
    cases h
    exact ⟨rfl, .nothing [] fun a ha => hserved ha.1⟩
  · rw [hg] at h
    cases h
    have hgoes := goes_visit (hf k) _ c hc
      ((List.filter_sublist.map _).nodup (Cluster.nodup_matching hc k.kind ns none))
      (fun o ho => (mem_listed hc).1 ho)
    refine ⟨rfl, hgoes.mono ?_ ?_ ?_⟩
    · rintro a b ⟨ha, h⟩
      exact ⟨hserved, ((mem_listed hc).1 ha).1, h⟩
    · rintro a ha ⟨-, hl⟩
      exact (mem_listed hc).2 ⟨hl, ha⟩
    · rintro a g ⟨ha, h⟩
      exact ⟨((mem_listed hc).1 ha).1, h⟩

/-- The visits of the controllers of kinds. -/
theorem goes_visitKinds (ks : List WorkloadKind) : ∀ c : Cluster, c.WellKept → ks.Nodup →
    Goes (fun a b => ∃ k ∈ ks, Served c k ∧ Listed ns k a ∧ R k a b) (fun a => ∃ k ∈ ks, Served c k ∧ Listed ns k a)
      (fun a f => ∃ k ∈ ks, Listed ns k a ∧ E k a f) c (kindStates f ns ks c)
      (outcome (visitKinds f ns ks) c).1 (outcome (visitKinds f ns ks) c).2 := by
  -- By induction on the kinds: a later kind is listed after the earlier ones were visited, and
  -- finds its own objects as they were at the start.
  induction ks with
  | nil =>
    intro c _ _
    exact .nothing [] (by simp)
  | cons k ks ih =>
    intro c hc hnd
    obtain ⟨hout, hnd'⟩ := List.nodup_cons.1 hnd
    rw [visitKinds, kindStates, outcome_bind]
    rcases hl : outcome (eligible k ns) c with ⟨e | os, c₁⟩
    · obtain ⟨rfl, hi⟩ := eligible_error hl
      exact ⟨by simp [Moved.refl], rfl, by rintro g ⟨⟩; exact .inl hi, by simp⟩
    · obtain ⟨rfl, hkind⟩ := goes_eligible hf hc hl
      simp only [bind_pure_comp]
      rw [outcome_bind]
      rcases hv : outcome (visit (f k) os) c₁ with ⟨e | steps, c₂⟩
      · rw [hv] at hkind
        rw [List.append_nil]
        refine (hkind.mono ?_ (fun _ _ h => h) ?_).of_error
        · rintro a b h
          exact ⟨k, by simp, h⟩
        · rintro a g h
          exact ⟨k, by simp, h⟩
      · rw [hv] at hkind
        have hrest := ih c₂ (hkind.moved_last.kept hc) hnd'
        have hne : ∀ k' ∈ ks, ∀ {a d}, Listed ns k a → Listed ns k' d → a.key ≠ d.key := by
          intro k' hk' a d ha hd
          exact ha.key_ne hd fun he => hout (he ▸ hk')
        have hall := hkind.trans hc (hrest.map (steps ++ ·))
          (fun _ _ _ _ ha ⟨k', hk', _, hd, _⟩ => hne k' hk' ha.2.1 hd)
          (fun _ _ _ ha ⟨k', hk', _, hd⟩ => hne k' hk' ha.2.1 hd)
          (fun _ _ _ _ ha ⟨k', hk', hd, _⟩ => hne k' hk' ha.2.1 hd)
        simp only [outcome_map]
        refine hall.mono ?_ ?_ ?_
        · rintro a b (h | ⟨k', hk', hs, h⟩)
          · exact ⟨k, by simp, h⟩
          · exact ⟨k', by simp [hk'], (hkind.moved_last.served_iff k').1 hs, h⟩
        · rintro a - ⟨k', hk', hs, hla⟩
          rcases List.mem_cons.1 hk' with rfl | hk'
          · exact .inl ⟨hs, hla⟩
          · exact .inr ⟨k', hk', (hkind.moved_last.served_iff k').2 hs, hla⟩
        · rintro a g (⟨hl, h⟩ | ⟨k', hk', hl, h⟩)
          · exact ⟨k, by simp, hl, h⟩
          · exact ⟨k', by simp [hk'], hl, h⟩

end Kinds

/-! ## Stopping and restoring -/

section Update
variable {c : Cluster} {o o' : Object} {R : Object → Object → Prop} {E : Failure → Prop}

/-- An update under the key of an object that exists. -/
theorem Visited.of_update (ho : c.objects.get? o.key = some o) (hkey : o'.key = o.key)
    (hsame : o'.metadata.ns = o.metadata.ns) (hns : o.metadata.ns.getD "" = ns) (hE : o.metadata.ns = none → ∀ f, E f)
    (h : ∀ v, R o (o'.withVersion v)) (x : Option QuiesceStep) :
    Visited R E ns c o (outcome (Cluster.update o' >>= fun _ => pure x) c) := by
  rw [outcome_bind, Cluster.update_outcome]
  cases ha : c.admits .update o' with
  | error f =>
    cases hm : o.metadata.ns with
    | none => exact .failed f (.inr (hE hm f))
    | some n => exact .failed f (.inl (Cluster.admits_eq_error ha (hsame.trans hm)))
  | ok n =>
    have hn : n = ns := by
      rw [← hns, ← hsame, Cluster.admits_eq_ok ha, Option.getD_some]
    have hc : c.objects.contains o'.key = true := by
      rw [hkey, SortedMap.contains, ho]
      rfl
    subst hn
    simp only [hc, if_true]
    exact .wrote x o' hkey h

end Update

/-- Stopping one controller. -/
theorem quiesceObject_visited (k : WorkloadKind) (c : Cluster) (o : Object) (hl : Listed ns k o)
    (ho : c.objects.get? o.key = some o) :
    Visited (Stops k) (fun _ => o.metadata.ns = none) ns c o (outcome (quiesceObject k o) c) := by
  unfold quiesceObject
  by_cases hs : isStopped o = true
  · rw [if_pos hs]
    exact .left _ (by rw [Stops, if_pos hs])
  · rw [if_neg hs]
    refine .of_update ho (key_stop k o) rfl hl.ns (fun hn _ => hn) (fun v => ?_) _
    rw [Stops, if_neg hs]
    exact Object.withVersion_alike _ v

/-- The record of a controller cannot be read. -/
def RecordFails (k : WorkloadKind) (o : Object) (f : Failure) : Prop :=
  isStopped o = true ∧ ∃ text, o.metadata.annotation? k.recordKey = some text ∧ restore k o text = .error f

/-- Restoring one controller. -/
theorem unquiesceObject_visited (k : WorkloadKind) (c : Cluster) (o : Object) (hl : Listed ns k o)
    (ho : c.objects.get? o.key = some o) :
    Visited (Resumes k) (fun f => o.metadata.ns = none ∨ RecordFails k o f) ns c o
      (outcome (unquiesceObject k o) c) := by
  unfold unquiesceObject
  cases hr : o.metadata.annotation? k.recordKey with
  | none => exact .left _ (by rw [Resumes, hr])
  | some text =>
    simp only
    by_cases hs : isStopped o = true
    · rw [if_pos hs, outcome_bind, outcome_ofResult]
      cases hres : restore k o text with
      | error f => exact .failed f (.inr (.inr ⟨hs, text, hr, hres⟩))
      | ok r =>
        refine .of_update ho (key_restore hres) (ns_restore hres) hl.ns (fun hn _ => .inl hn) (fun v => ?_) _
        simp only [Resumes, hr, hs, if_true]
        exact ⟨r, hres, Object.withVersion_alike r v⟩
    · rw [if_neg hs]
      refine .of_update ho (key_forget k o) rfl hl.ns (fun hn _ => .inl hn) (fun v => ?_) _
      simp only [Resumes, hr, hs]
      exact Object.withVersion_alike _ v

end VolumeMigration.Quiesce
