import VolumeMigration.Proofs.Clusters
/-!
# Runs of operations on a cluster

A run starts from an empty cluster. It writes and reads objects of namespaces,
others change the cluster between the operations, and rules may be added at any
time by which operations fail. How each call ends is told by the cluster before
it (`Cluster.Call.Ends`): a call that fails leaves the objects and the log, and
one that writes an object changes what is under its key alone. The versions that
the writes of a run give are increasing, and every object stays under its own
key (`Cluster.Call.calls_keep_cluster`).
-/

namespace VolumeMigration

open Attempt
open Std

/-- An object of the API of its kind. The cluster's own ingress configuration is none, for namespaces have ingresses of
another API. -/
def Object.IsNamespaced (o : Object) : Prop := o.content.apiVersion = o.kind.apiVersion

instance (o : Object) : Decidable o.IsNamespaced := inferInstanceAs (Decidable (_ = _))

namespace Cluster

variable {c c' : Cluster} {operation : Operation} {o x : Object} {ns : String}

/-! ## Single operations -/

/-- No rule of the cluster fails the operation. -/
def Lets (c : Cluster) (operation : Operation) (k : Kind) (name : String) : Prop :=
  c.refusal? operation k name = none ∧ c.fault? operation k name = none

theorem not_lets_of_some {k : Kind} {name : String} {f : Failure}
    (h : c.refusal? operation k name = some f ∨ c.fault? operation k name = some f) : ¬c.Lets operation k name := by
  rintro ⟨hrefusal, hfault⟩
  rcases h with h | h
  · cases hrefusal.symm.trans h
  · cases hfault.symm.trans h

/-- An object is turned away by a rule, or because it names no namespace. -/
theorem not_lets_of_admits {f : Failure} (h : c.admits operation o = .error f) :
    o.metadata.ns = none ∨ ¬c.Lets operation o.kind o.lookupName := by
  unfold admits Object.namespace? at h
  cases hns : o.metadata.ns with
  | none => exact .inl rfl
  | some ns =>
    refine .inr fun ⟨hrefusal, hfault⟩ => ?_
    rw [hrefusal, hns, hfault] at h
    cases h

/-- What is found is what is under the key, unless a rule fails the search. -/
theorem find?_cases (c : Cluster) (k : Kind) (n : ObjectName)
    (hserved : ∀ o, c.objects.get? ⟨k, n.ns, n.name⟩ = some o → o.content.apiVersion = k.apiVersion) :
    (c.Lets .get k n.name ∧ outcome (find? k n) c = (.ok (c.objects.get? ⟨k, n.ns, n.name⟩), c)) ∨
      ¬c.Lets .get k n.name ∧ ∃ f, outcome (find? k n) c = (.error f, c) := by
  rw [find?_outcome]
  cases hrefusal : c.refusal? .get k n.name with
  | some f => exact .inr ⟨not_lets_of_some (.inl hrefusal), f, rfl⟩
  | none =>
    cases hfault : c.fault? .get k n.name with
    | some f => exact .inr ⟨not_lets_of_some (.inr hfault), f, rfl⟩
    | none =>
      refine .inl ⟨⟨hrefusal, hfault⟩, ?_⟩
      cases hget : c.objects.get? ⟨k, n.ns, n.name⟩ with
      | none => rfl
      | some o => simp only [readAs, hserved o hget, if_true, Except.map]

/-- The object was written and nothing else. Under its key is what the write gave, which is the object under the next
version; every other key holds what it held, and one entry was logged. -/
structure Stores (c : Cluster) (operation : Operation) (o x : Object) (c' : Cluster) : Prop where
  alike : x.Alike o
  versioned : x.metadata.resourceVersion = some (Nat.repr c'.version)
  next : c'.version = c.version + 1
  stored : c'.objects.get? o.key = some x
  kept : ∀ key, key ≠ o.key → c'.objects.get? key = c.objects.get? key
  log : c'.log = c.log ++ [⟨operation, o.kind, o.objectName⟩]

theorem stores_wrote (c : Cluster) (operation : Operation) (o : Object) (h : o.metadata.ns = some ns) :
    c.Stores operation o (o.withVersion (some (Nat.repr (c.version + 1)))) (c.wrote operation ns o) where
  alike := o.withVersion_alike _
  versioned := rfl
  next := rfl
  stored := c.get?_wrote_self operation ns o
  kept _ hkey := c.get?_wrote_of_ne operation ns o hkey
  log := by
    rw [Object.objectName, h]
    rfl

/-- Writing an object that differs in its version writes the object. -/
theorem Stores.of_withVersion {version : Option String} (h : c.Stores operation (o.withVersion version) x c') :
    c.Stores operation o x c' :=
  ⟨h.alike.trans (o.withVersion_alike version), h.versioned, h.next, h.stored, h.kept, h.log⟩

/-- How an attempt to write an object ends where it needs that something is there, or that nothing is. -/
inductive WriteEnds (c : Cluster) (operation : Operation) (needed : Bool) (o : Object) :
    Result Object × Cluster → Prop where
  | failed {f : Failure} {c' : Cluster}
    (h : o.metadata.ns = none ∨ ¬c.Lets operation o.kind o.lookupName ∨ c.objects.contains o.key ≠ needed)
    (objects : c'.objects = c.objects) (log : c'.log = c.log) (version : c.version ≤ c'.version) :
    WriteEnds c operation needed o (.error f, c')
  | stored {x : Object} {c' : Cluster} (h : c.objects.contains o.key = needed) (hstores : c.Stores operation o x c') :
    WriteEnds c operation needed o (.ok x, c')

theorem create_ends (c : Cluster) (o : Object) : c.WriteEnds .create false o (outcome (create o) c) := by
  rw [create_outcome]
  cases hadmits : c.admits .create o with
  | error f => exact .failed ((not_lets_of_admits hadmits).imp_right .inl) rfl rfl (Nat.le_refl _)
  | ok ns =>
    cases hthere : c.objects.contains o.key with
    | true => exact .failed (.inr (.inr (by simp [hthere]))) rfl rfl (Nat.le_succ _)
    | false => exact .stored hthere (c.stores_wrote .create o (admits_eq_ok hadmits))

theorem update_ends (c : Cluster) (o : Object) : c.WriteEnds .update true o (outcome (update o) c) := by
  rw [update_outcome]
  cases hadmits : c.admits .update o with
  | error f => exact .failed ((not_lets_of_admits hadmits).imp_right .inl) rfl rfl (Nat.le_refl _)
  | ok ns =>
    cases hthere : c.objects.contains o.key with
    | true => exact .stored hthere (c.stores_wrote .update o (admits_eq_ok hadmits))
    | false => exact .failed (.inr (.inr (by simp [hthere]))) rfl rfl (Nat.le_succ _)

/-- The list has the objects of the kind in the namespace that the selector matches and no other, in the order of their
names. -/
structure Lists (c : Cluster) (k : Kind) (ns : String) (selector : Option String) (os : List Object) : Prop where
  mem_iff : ∀ o, o ∈ os ↔ c.objects.get? ⟨k, ns, o.lookupName⟩ = some o ∧
    ∀ s, selector = some s → Selector.Matches s o.labelMap
  sorted : os.Pairwise fun a b => compare a.lookupName b.lookupName = .lt

theorem WellKept.lists (hc : c.WellKept) (k : Kind) (ns : String) (selector : Option String) :
    c.Lists k ns selector (c.matching k ns selector) := by
  have hentry : ∀ e ∈ c.objects.toList, e.1.name = e.2.lookupName := by
    intro e he
    rw [← hc e.1 e.2 ((SortedMap.mem_entries_iff c.objects e.1 e.2).1 he)]
    rfl
  constructor
  · intro o
    simp only [matching, List.mem_filter, List.mem_map, Prod.exists, Bool.and_eq_true, beq_iff_eq]
    refine and_congr ⟨?_, fun h => ?_⟩ ?_
    · rintro ⟨⟨kind, ns', name⟩, a, ⟨hmem, rfl, rfl⟩, rfl⟩
      rw [← hentry _ hmem]
      exact (SortedMap.mem_entries_iff c.objects _ a).1 hmem
    · exact ⟨⟨k, ns, o.lookupName⟩, o, ⟨(SortedMap.mem_entries_iff c.objects _ o).2 h, rfl, rfl⟩, rfl⟩
    · cases selector <;> simp
  · refine List.Pairwise.filter _ (List.pairwise_map.2 ?_)
    refine List.Pairwise.imp_of_mem ?_ (c.objects.sorted.filter _)
    intro a b ha hb hlt
    obtain ⟨ha, hka⟩ := List.mem_filter.1 ha
    obtain ⟨hb, hkb⟩ := List.mem_filter.1 hb
    simp only [Bool.and_eq_true, beq_iff_eq] at hka hkb
    rw [← hentry a ha, ← hentry b hb]
    change Ordering.then _ (Ordering.then _ _) = .lt at hlt
    rw [hka.1, hkb.1, hka.2, hkb.2] at hlt
    have hrank : compare k.rank k.rank = .eq := ReflCmp.compare_self
    have hns : compare ns ns = .eq := ReflCmp.compare_self
    rw [hrank, hns] at hlt
    exact hlt

/-! ## Calls -/

/-- What a call answers. -/
inductive Answer where
  | done
  | written (o : Object)
  | found (o : Option Object)
  | listed (os : List Object)

/-- A call on a cluster: an operation, a change that others make, or a rule by which operations fail from now on. -/
inductive Call where
  | create (o : Object)
  | update (o : Object)
  | createOrUpdate (o : Object)
  | get (k : Kind) (n : ObjectName)
  | list (k : Kind) (ns : String) (selector : Option String)
  /-- Places an object. -/
  | seed (o : Object)
  /-- Places what becomes of an object, if it exists. -/
  | modify (k : Kind) (n : ObjectName) (change : Object → Object)
  | refuse (rule : FaultRule) (f : Failure)
  | injectFault (rule : FaultRule)

namespace Call

/-- The call handles objects of namespaces. -/
def IsNamespaced : Call → Prop
  | create o | update o | createOrUpdate o | seed o => o.IsNamespaced
  | modify _ _ change => ∀ o, o.IsNamespaced → (change o).IsNamespaced
  | get .. | list .. | refuse .. | injectFault _ => True

/-- The object that a call is to write. -/
def target? : Call → Option Object
  | create o | update o | createOrUpdate o => some o
  | get .. | list .. | seed _ | modify .. | refuse .. | injectFault _ => none

/-- The cluster after a change that others make to an object. -/
def modified (c : Cluster) (k : Kind) (n : ObjectName) (change : Object → Object) : Cluster :=
  match c.objects.get? ⟨k, n.ns, n.name⟩ with
  | some o => c.place (change o)
  | none => c

/-- What a call answers, and the cluster after it. -/
def result (c : Cluster) : Call → Result Answer × Cluster
  | create o => outcome (.written <$> Cluster.create o) c
  | update o => outcome (.written <$> Cluster.update o) c
  | createOrUpdate o => outcome (.written <$> Cluster.createOrUpdate o) c
  | get k n => outcome (.found <$> Cluster.find? k n) c
  | list k ns selector => outcome (.listed <$> Cluster.list k ns selector) c
  | seed o => (.ok .done, c.place o)
  | modify k n change => (.ok .done, modified c k n change)
  | refuse rule f => (.ok .done, { c with refusals := c.refusals ++ [(rule, f)] })
  | injectFault rule => (.ok .done, { c with faults := c.faults ++ [rule] })

/-- The cluster after calls, one after the other. -/
def after : List Call → Cluster → Cluster
  | [], c => c
  | call :: calls, c => after calls (call.result c).2

/-- The object that a call wrote. -/
def written? : Result Answer → Option Object
  | .ok (.written o) => some o
  | _ => none

theorem result_of_written? {call : Call} (h : written? (call.result c).1 = some x) :
    call.result c = (.ok (.written x), (call.result c).2) := by
  refine Prod.ext ?_ rfl
  unfold written? at h
  split at h
  · rename_i o ho
    cases h
    exact ho
  · cases h

/-- What the writes among calls gave, in order. -/
def written : List Call → Cluster → List Object
  | [], _ => []
  | call :: calls, c => (written? (call.result c).1).toList ++ written calls (call.result c).2

/-- What keeps a call from succeeding: a rule, a namespace that is not named, something that is there already or is not
there. -/
def Blocked (c : Cluster) : Call → Prop
  | create o => o.metadata.ns = none ∨ ¬c.Lets .create o.kind o.lookupName ∨ c.objects.get? o.key ≠ none
  | update o => o.metadata.ns = none ∨ ¬c.Lets .update o.kind o.lookupName ∨ c.objects.get? o.key = none
  | createOrUpdate o => o.metadata.ns = none ∨ ¬c.Lets .get o.kind o.lookupName ∨
    ¬c.Lets (if c.objects.contains o.key then .update else .create) o.kind o.lookupName
  | get k n => ¬c.Lets .get k n.name
  | list k _ _ => ¬c.Lets .list k ""
  | seed _ | modify .. | refuse .. | injectFault _ => False

/-- How a call ends. -/
inductive Ends (c : Cluster) : Call → Result Answer × Cluster → Prop where
  | failed {call : Call} {f : Failure} {c' : Cluster} (h : call.Blocked c) (objects : c'.objects = c.objects)
    (log : c'.log = c.log) (version : c.version ≤ c'.version) : Ends c call (.error f, c')
  | created {o x : Object} {c' : Cluster} (absent : c.objects.get? o.key = none) (h : c.Stores .create o x c') :
    Ends c (.create o) (.ok (.written x), c')
  | updated {o a x : Object} {c' : Cluster} (present : c.objects.get? o.key = some a) (h : c.Stores .update o x c') :
    Ends c (.update o) (.ok (.written x), c')
  /-- What exists is updated, and what does not is created. -/
  | upserted {o x : Object} {c' : Cluster}
    (h : c.Stores (if c.objects.contains o.key then .update else .create) o x c') :
    Ends c (.createOrUpdate o) (.ok (.written x), c')
  | got {k : Kind} {n : ObjectName} : Ends c (.get k n) (.ok (.found (c.objects.get? ⟨k, n.ns, n.name⟩)), c)
  | listed {k : Kind} {ns : String} {selector : Option String} {os : List Object} (h : c.Lists k ns selector os) :
    Ends c (.list k ns selector) (.ok (.listed os), c)
  | seeded {o : Object} : Ends c (.seed o) (.ok .done, c.place o)
  | modified {k : Kind} {n : ObjectName} {change : Object → Object} :
    Ends c (.modify k n change) (.ok .done, modified c k n change)
  | refused {rule : FaultRule} {f : Failure} :
    Ends c (.refuse rule f) (.ok .done, { c with refusals := c.refusals ++ [(rule, f)] })
  | faulted {rule : FaultRule} : Ends c (.injectFault rule) (.ok .done, { c with faults := c.faults ++ [rule] })

/-! ## One call -/

/-- Every object is under its own key, and is one of a namespace. -/
structure Sound (c : Cluster) : Prop where
  kept : c.WellKept
  namespaced : ∀ key o, c.objects.get? key = some o → o.IsNamespaced

theorem sound_empty : Sound {} := ⟨wellKept_empty, fun _ _ h => nomatch h⟩

namespace Sound

variable (hc : Sound c)
include hc

theorem of_objects_eq (h : c'.objects = c.objects) : Sound c' := by
  refine ⟨fun key o ho => hc.kept key o ?_, fun key o ho => hc.namespaced key o ?_⟩ <;> rwa [← h]

theorem place (ho : o.IsNamespaced) : Sound (c.place o) := by
  refine ⟨hc.kept.place o, fun key a ha => ?_⟩
  rw [get?_place] at ha
  split at ha
  · cases ha
    exact ho
  · exact hc.namespaced key a ha

theorem stores (ho : o.IsNamespaced) (h : c.Stores operation o x c') : Sound c' := by
  have hcases : ∀ key a, c'.objects.get? key = some a → (key = o.key ∧ a = x) ∨ c.objects.get? key = some a := by
    intro key a ha
    by_cases hkey : key = o.key
    · rw [hkey, h.stored] at ha
      exact .inl ⟨hkey, (Option.some.inj ha).symm⟩
    · rw [h.kept key hkey] at ha
      exact .inr ha
  constructor
  · intro key a ha
    rcases hcases key a ha with ⟨rfl, rfl⟩ | ha
    · exact h.alike.key_eq
    · exact hc.kept key a ha
  · intro key a ha
    rcases hcases key a ha with ⟨-, rfl⟩ | ha
    · unfold Object.IsNamespaced Object.kind at ho ⊢
      rwa [h.alike.content_eq]
    · exact hc.namespaced key a ha

/-- What is kept under a key is served by the API of the key's kind. -/
theorem served (k : Kind) (n : ObjectName) (a : Object) (ha : c.objects.get? ⟨k, n.ns, n.name⟩ = some a) :
    a.content.apiVersion = k.apiVersion := by
  have hkind : a.kind = k := congrArg Key.kind (hc.kept _ a ha)
  rw [hc.namespaced _ a ha, hkind]

theorem ends_get (k : Kind) (n : ObjectName) : Ends c (.get k n) (result c (.get k n)) := by
  rw [result, outcome_map]
  rcases c.find?_cases k n (hc.served k n) with ⟨hlets, hfind⟩ | ⟨hlets, f, hfind⟩
  · rw [hfind]
    exact .got
  · rw [hfind]
    exact .failed hlets rfl rfl (Nat.le_refl _)

theorem ends_createOrUpdate (o : Object) : Ends c (.createOrUpdate o) (result c (.createOrUpdate o)) := by
  rw [result, outcome_map]
  unfold Cluster.createOrUpdate Object.namespace?
  cases hns : o.metadata.ns with
  | none => exact .failed (.inl hns) rfl rfl (Nat.le_refl _)
  | some ns =>
    have hkey : o.key = ⟨o.kind, ns, o.lookupName⟩ := by simp [Object.key, Object.objectName, hns]
    rw [outcome_bind, outcome_ofResult]
    dsimp only
    rw [outcome_bind]
    rcases c.find?_cases o.kind ⟨ns, o.lookupName⟩ (hc.served _ _) with ⟨hlets, hfind⟩ | ⟨hlets, f, hfind⟩
    · rw [hfind]
      dsimp only
      rw [← hkey]
      cases hget : c.objects.get? o.key with
      | none =>
        have habsent : c.objects.contains o.key = false := by rw [SortedMap.contains, hget]; rfl
        have hends := c.create_ends o
        generalize outcome (Cluster.create o) c = done at hends ⊢
        cases hends with
        | failed h hobjects hlog hversion =>
          refine .failed ?_ hobjects hlog hversion
          rcases h with h | h | h
          · exact .inl h
          · exact .inr (.inr (by rwa [habsent]))
          · exact absurd habsent h
        | stored h hstores => exact .upserted (by rwa [habsent])
      | some existing =>
        have hthere : c.objects.contains o.key = true := by rw [SortedMap.contains, hget]; rfl
        have hends := c.update_ends (o.withVersion existing.metadata.resourceVersion)
        generalize outcome (Cluster.update (o.withVersion existing.metadata.resourceVersion)) c = done at hends ⊢
        cases hends with
        | failed h hobjects hlog hversion =>
          refine .failed ?_ hobjects hlog hversion
          rcases h with h | h | h
          · exact .inl h
          · exact .inr (.inr (by rw [if_pos hthere]; exact h))
          · exact absurd hthere h
        | stored h hstores => exact .upserted (by rw [if_pos hthere]; exact hstores.of_withVersion)
    · rw [hfind]
      exact .failed (.inr (.inl hlets)) rfl rfl (Nat.le_refl _)

/-- How a call ends is told by the cluster before it. -/
theorem ends (call : Call) : Ends c call (call.result c) := by
  cases call with
  | create o =>
    rw [result, outcome_map]
    have hends := c.create_ends o
    generalize outcome (Cluster.create o) c = done at hends ⊢
    cases hends with
    | failed h hobjects hlog hversion =>
      refine .failed (h.imp_right (.imp_right fun hthere => ?_)) hobjects hlog hversion
      simpa [SortedMap.contains] using hthere
    | stored h hstores => exact .created (by simpa [SortedMap.contains] using h) hstores
  | update o =>
    rw [result, outcome_map]
    have hends := c.update_ends o
    generalize outcome (Cluster.update o) c = done at hends ⊢
    cases hends with
    | failed h hobjects hlog hversion =>
      refine .failed (h.imp_right (.imp_right fun hthere => ?_)) hobjects hlog hversion
      simpa [SortedMap.contains] using hthere
    | stored h hstores =>
      obtain ⟨a, ha⟩ := Option.isSome_iff_exists.1 h
      exact .updated ha hstores
  | createOrUpdate o => exact hc.ends_createOrUpdate o
  | get k n => exact hc.ends_get k n
  | list k ns selector =>
    rw [result, outcome_map, list_outcome]
    cases hrefusal : c.refusal? .list k "" with
    | some f => exact .failed (not_lets_of_some (.inl hrefusal)) rfl rfl (Nat.le_refl _)
    | none =>
      cases hfault : c.fault? .list k "" with
      | some f => exact .failed (not_lets_of_some (.inr hfault)) rfl rfl (Nat.le_refl _)
      | none => exact .listed (hc.kept.lists k ns selector)
  | seed o => exact .seeded
  | modify k n change => exact .modified
  | refuse rule f => exact .refused
  | injectFault rule => exact .faulted

theorem result (call : Call) (hcall : call.IsNamespaced) : Sound (call.result c).2 := by
  have hends := hc.ends call
  generalize Call.result c call = done at hends ⊢
  cases hends with
  | failed h hobjects hlog hversion => exact hc.of_objects_eq hobjects
  | created absent h | updated present h | upserted h => exact hc.stores hcall h
  | got | listed h => exact hc
  | seeded => exact hc.place hcall
  | @modified k n change =>
    unfold modified
    cases hget : c.objects.get? ⟨k, n.ns, n.name⟩ with
    | none => exact hc
    | some a => exact hc.place (hcall a (hc.namespaced _ a hget))
  | refused | faulted => exact hc.of_objects_eq rfl

/-- An object just written is what is read under its key. -/
theorem get_target {call : Call} (hcall : call.IsNamespaced) (ho : call.target? = some o)
    (h : call.result c = (.ok (.written x), c')) (hlets : c'.Lets .get o.kind o.lookupName) :
    Call.result c' (.get o.kind o.objectName) = (.ok (.found (some x)), c') := by
  have hstored : c'.objects.get? o.key = some x := by
    have hends := hc.ends call
    rw [h] at hends
    cases hends with
    | created absent h | updated present h | upserted h =>
      cases ho
      exact h.stored
  have hc' := hc.result call hcall
  rw [h] at hc'
  have hread := hc'.ends_get o.kind o.objectName
  generalize Call.result c' (.get o.kind o.objectName) = read at hread ⊢
  cases hread with
  | failed hblocked => exact absurd hlets hblocked
  | got => exact congrArg (fun found => (Except.ok (Answer.found found), c')) hstored

/-- A write gives the cluster's next version to what it writes. -/
theorem version_of_written {call : Call} (h : call.result c = (.ok (.written x), c')) :
    c.version < c'.version ∧ x.metadata.resourceVersion = some (Nat.repr c'.version) := by
  have hends := hc.ends call
  rw [h] at hends
  cases hends with
  | created absent h | updated present h | upserted h => exact ⟨h.next ▸ Nat.lt_succ_self _, h.versioned⟩

/-- A version that a failed write took is given to no object. -/
theorem version_le (call : Call) : c.version ≤ (call.result c).2.version := by
  have hends := hc.ends call
  generalize Call.result c call = done at hends ⊢
  cases hends with
  | failed h objects log version => exact version
  | created absent h | updated present h | upserted h => exact h.next ▸ Nat.le_succ _
  | @modified k n change =>
    unfold modified
    cases c.objects.get? ⟨k, n.ns, n.name⟩ <;> exact Nat.le_refl _
  | got | listed | seeded | refused | faulted => exact Nat.le_refl _

/-! ## Runs -/

theorem after {calls : List Call} (hcalls : ∀ call ∈ calls, call.IsNamespaced) : Sound (after calls c) := by
  induction calls generalizing c with
  | nil => exact hc
  | cons call calls ih =>
    exact ih (hc.result call (hcalls call (List.mem_cons_self ..))) fun a ha => hcalls a (List.mem_cons_of_mem _ ha)

/-- The versions that the writes give are increasing, from the cluster's own on. -/
theorem versions_written {calls : List Call} (hcalls : ∀ call ∈ calls, call.IsNamespaced) :
    ∃ versions : List Nat, (∀ v ∈ versions, c.version < v) ∧ versions.Pairwise (· < ·) ∧
      (written calls c).map (·.metadata.resourceVersion) = versions.map fun v => some (Nat.repr v) := by
  induction calls generalizing c with
  | nil => exact ⟨[], List.forall_mem_nil _, .nil, rfl⟩
  | cons call calls ih =>
    obtain ⟨versions, hgt, hsorted, hversions⟩ := ih (hc.result call (hcalls call (List.mem_cons_self ..)))
      fun a ha => hcalls a (List.mem_cons_of_mem _ ha)
    have hle := hc.version_le call
    rw [written]
    cases hwritten : written? (call.result c).1 with
    | none => exact ⟨versions, fun v hv => Nat.lt_of_le_of_lt hle (hgt v hv), hsorted, hversions⟩
    | some x =>
      obtain ⟨hlt, hversion⟩ := hc.version_of_written (result_of_written? hwritten)
      refine ⟨(call.result c).2.version :: versions, ?_, List.pairwise_cons.2 ⟨hgt, hsorted⟩, ?_⟩
      · exact List.forall_mem_cons.2 ⟨hlt, fun v hv => Nat.lt_of_le_of_lt hle (hgt v hv)⟩
      · rw [Option.toList_some, List.singleton_append, List.map_cons, List.map_cons, hversion, hversions]

end Sound

/-- Runs of calls on a cluster keep it sound. Every object is under its own key; the versions of what the run wrote are
increasing; and of the next call, whichever it is, the cluster tells how it ends, and an object that it writes is then
read. -/
theorem calls_keep_cluster (calls : List Call) (hcalls : ∀ call ∈ calls, call.IsNamespaced) :
    (after calls {}).WellKept ∧
      (∃ versions : List Nat, versions.Pairwise (· < ·) ∧
        (written calls {}).map (·.metadata.resourceVersion) = versions.map fun v => some (Nat.repr v)) ∧
      ∀ call : Call, call.IsNamespaced →
        call.Ends (after calls {}) (call.result (after calls {})) ∧
          ∀ o x c', call.target? = some o → call.result (after calls {}) = (.ok (.written x), c') →
            c'.Lets .get o.kind o.lookupName →
            result c' (.get o.kind o.objectName) = (.ok (.found (some x)), c') := by
  have hsound := sound_empty.after hcalls
  obtain ⟨versions, -, hsorted, hversions⟩ := sound_empty.versions_written hcalls
  refine ⟨hsound.kept, ⟨versions, hsorted, hversions⟩, fun call hcall => ⟨hsound.ends call, ?_⟩⟩
  intro o x c' ho hwritten hlets
  exact hsound.get_target hcall ho hwritten hlets

/-- A secret of the depot. -/
def label (metadata : Metadata) : Object :=
  { metadata := { metadata with ns := some "depot" }, content := .secret none (some "Opaque") }

def crate : Object := label { generateName := some "crate-" }

/-- Labels are put up, one of them twice; one is renamed by others; and one can no more be created. -/
def relabelling : List Call := [
  .seed crate,
  .create (label { name := some "jar" }),
  .create (label { name := some "jar" }),
  .update (label { name := some "pot" }),
  .modify .secret ⟨"depot", "jar"⟩ fun _ => label { name := some "pot", resourceVersion := some "old" },
  .injectFault ⟨.create, .secret, some "lid"⟩,
  .createOrUpdate (label { name := some "lid" }),
  .createOrUpdate (label { name := some "pot" })]

/-- The cluster once the label of the crates was updated too. -/
def relabelled : Cluster := (result (after relabelling {}) (.update crate)).2

theorem calls_keep_cluster_relabelling :
    (∀ call ∈ relabelling, call.IsNamespaced) ∧ (after relabelling {}).WellKept ∧
      (∃ versions : List Nat, versions.Pairwise (· < ·) ∧
        (written relabelling {}).map (·.metadata.resourceVersion) = versions.map fun v => some (Nat.repr v)) ∧
      (written relabelling {}).map (·.metadata.resourceVersion) = [some "1", some "4"] ∧
      (update crate).Ends (after relabelling {}) (result (after relabelling {}) (.update crate)) ∧
      ∃ x, result (after relabelling {}) (.update crate) = (.ok (.written x), relabelled) ∧
        relabelled.Lets .get crate.kind crate.lookupName ∧
        result relabelled (.get crate.kind crate.objectName) = (.ok (.found (some x)), relabelled) := by
  have hcalls : ∀ call ∈ relabelling, call.IsNamespaced := by
    simp only [relabelling, List.forall_mem_cons]
    exact ⟨rfl, rfl, rfl, rfl, fun _ _ => rfl, trivial, rfl, rfl, List.forall_mem_nil _⟩
  have hcrate : (update crate).IsNamespaced := show crate.IsNamespaced by decide +kernel
  have hsome : (written? (result (after relabelling {}) (.update crate)).1).isSome = true := by decide +kernel
  have hlets : relabelled.Lets .get crate.kind crate.lookupName := ⟨by decide +kernel, by decide +kernel⟩
  obtain ⟨hkept, hversions, hcall⟩ := calls_keep_cluster relabelling hcalls
  obtain ⟨hends, hreads⟩ := hcall (.update crate) hcrate
  obtain ⟨x, hx⟩ := Option.isSome_iff_exists.1 hsome
  have hwritten := result_of_written? hx
  exact ⟨hcalls, hkept, hversions, by decide +kernel, hends, x, hwritten, hlets, hreads crate x _ rfl hwritten hlets⟩

end Call

end Cluster

end VolumeMigration
