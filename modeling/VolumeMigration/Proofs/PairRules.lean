import VolumeMigration.Proofs.Names
import VolumeMigration.Proofs.PairLists
import VolumeMigration.Transfer.Basic
/-!
# The rules for lists of pairs

A list of pairs passes exactly if it meets every rule (`PairingRule.Holds`), and
a list that does not is turned down with a fault for each rule that it breaks
(`PairList.ofPairs_guards`). So no volume reaches a program that cannot copy it:
trees of files go to rsync and rclone, devices to blockrsync.
-/

namespace VolumeMigration

/-! ## Identities are legal label values -/

namespace Text

theorem utf8Size_of_isHexDigit {c : Char} (h : isHexDigit c = true) : c.utf8Size = 1 := by
  rw [Char.utf8Size_eq_one_iff]
  simp only [isHexDigit, Bool.or_eq_true, Bool.and_eq_true, decide_eq_true_eq] at h
  rcases h with h | ⟨-, hf⟩
  · simp only [Char.isDigit, Bool.and_eq_true, decide_eq_true_eq] at h
    exact UInt32.le_trans h.2 (by decide)
  · exact UInt32.le_trans hf (by decide)

/-- A text of one-byte characters has as many bytes as characters. -/
theorem utf8ByteSize_ofList_eq_length {cs : List Char} (h : ∀ c ∈ cs, c.utf8Size = 1) :
    (String.ofList cs).utf8ByteSize = cs.length := by
  induction cs with
  | nil => rfl
  | cons c cs ih =>
    rw [← List.singleton_append, String.ofList_append, String.utf8ByteSize_append, ih fun d hd => h d (by simp [hd])]
    simp [h c, Nat.add_comm]

theorem utf8ByteSize_md5Hex (s : String) : (md5Hex s).utf8ByteSize = 32 := by
  rw [← length_md5Hex s, ← utf8ByteSize_ofList_eq_length, String.ofList_toList]
  exact fun c hc => utf8Size_of_isHexDigit (isHexDigit_of_mem_md5Hex hc)

end Text

namespace Label

/-- A digest is a legal label value. -/
theorem valueFault?_md5Hex (s : String) : valueFault? (Text.md5Hex s) = none := by
  have halnum : ∀ c ∈ (Text.md5Hex s).toList, c.isAlphanum = true := fun c hc =>
    Text.isAlphanum_of_isHexDigit (Text.isHexDigit_of_mem_md5Hex hc)
  simp only [valueFault?, Text.utf8ByteSize_md5Hex]
  split
  · rename_i first last hfirst hlast
    have hf := halnum first (List.mem_of_head? hfirst)
    have hl := halnum last (List.mem_of_getLast? hlast)
    have hchars : (Text.md5Hex s).toList.find? (fun c => !(c.isAlphanum || c == '-' || c == '_' || c == '.')) =
        none := by
      apply List.find?_eq_none.2
      intro c hc
      simp [halnum c hc]
    rw [if_neg (by decide), if_neg (by simp [hf, hl]), hchars]
    rfl
  · rfl

end Label

/-! ## Rules -/

/-- A rule for lists of pairs. -/
inductive PairingRule where
  | somePair
  | oneSourceNamespace
  | oneDestinationNamespace
  | claimsNamed
  | claimsPlaced
  | sidesAgree
  | sourcesDiffer
  | destinationsDiffer
  /-- Pairs whose sides agree are copied in one way. -/
  | oneWay
deriving DecidableEq, Repr

namespace PairingRule

def Holds (pairs : List Pair) : PairingRule → Prop
  | somePair => pairs ≠ []
  | oneSourceNamespace => ∀ p ∈ pairs, ∀ q ∈ pairs, p.source.ns = q.source.ns
  | oneDestinationNamespace => ∀ p ∈ pairs, ∀ q ∈ pairs, p.destination.ns = q.destination.ns
  | claimsNamed => ∀ p ∈ pairs, p.source.name ≠ "" ∧ p.destination.name ≠ ""
  | claimsPlaced => ∀ p ∈ pairs, p.source.ns ≠ "" ∧ p.destination.ns ≠ ""
  | sidesAgree => ∀ p ∈ pairs, p.source.isDevice = p.destination.isDevice
  | sourcesDiffer => (pairs.map (·.source.objectName)).Nodup
  | destinationsDiffer => (pairs.map (·.destination.objectName)).Nodup
  | oneWay => ∃ device, ∀ p ∈ pairs, p.source.isDevice = p.destination.isDevice → p.source.isDevice = device

instance (pairs : List Pair) : (rule : PairingRule) → Decidable (rule.Holds pairs)
  | somePair => inferInstanceAs (Decidable (pairs ≠ []))
  | oneSourceNamespace => inferInstanceAs (Decidable (∀ p ∈ pairs, ∀ q ∈ pairs, p.source.ns = q.source.ns))
  | oneDestinationNamespace =>
    inferInstanceAs (Decidable (∀ p ∈ pairs, ∀ q ∈ pairs, p.destination.ns = q.destination.ns))
  | claimsNamed => inferInstanceAs (Decidable (∀ p ∈ pairs, p.source.name ≠ "" ∧ p.destination.name ≠ ""))
  | claimsPlaced => inferInstanceAs (Decidable (∀ p ∈ pairs, p.source.ns ≠ "" ∧ p.destination.ns ≠ ""))
  | sidesAgree => inferInstanceAs (Decidable (∀ p ∈ pairs, p.source.isDevice = p.destination.isDevice))
  | sourcesDiffer => inferInstanceAs (Decidable (pairs.map (·.source.objectName)).Nodup)
  | destinationsDiffer => inferInstanceAs (Decidable (pairs.map (·.destination.objectName)).Nodup)
  | oneWay => inferInstanceAs (Decidable (∃ device, ∀ p ∈ pairs,
      p.source.isDevice = p.destination.isDevice → p.source.isDevice = device))

/-- What a pair breaks after the pairs before it. -/
def BrokenBy (before : List Pair) (p : Pair) : PairingRule → Prop
  | claimsNamed => p.source.name = "" ∨ p.destination.name = ""
  | claimsPlaced => p.source.ns = "" ∨ p.destination.ns = ""
  | sidesAgree => p.source.isDevice ≠ p.destination.isDevice
  | sourcesDiffer => ∃ q ∈ before, q.source.objectName = p.source.objectName
  | destinationsDiffer => ∃ q ∈ before, q.destination.objectName = p.destination.objectName
  | _ => False

end PairingRule

/-- The rule that a fault is a breach of. -/
def PairingFault.rule? : PairingFault → Option PairingRule
  | noPairs => some .somePair
  | severalSourceNamespaces _ => some .oneSourceNamespace
  | severalDestinationNamespaces _ => some .oneDestinationNamespace
  | noClaimName _ => some .claimsNamed
  | noClaimNamespace _ => some .claimsPlaced
  | illegalIdentity .. => none
  | inconsistentPair _ => some .sidesAgree
  | repeatedSource _ => some .sourcesDiffer
  | repeatedDestination _ => some .destinationsDiffer
  | mixedPairs .. => some .oneWay

namespace PairList

variable {pairs : List Pair} {rule : PairingRule}

/-! ## Faults of a pair -/

/-- One of the faults is a breach of the rule. -/
def Reports (faults : List PairingFault) (rule : PairingRule) : Prop := ∃ f ∈ faults, f.rule? = some rule

@[simp] theorem reports_nil : ¬Reports [] rule := by simp [Reports]

@[simp] theorem reports_append (fs gs : List PairingFault) :
    Reports (fs ++ gs) rule ↔ Reports fs rule ∨ Reports gs rule := by
  simp only [Reports, List.mem_append, or_and_right, exists_or]

@[simp] theorem reports_singleton (f : PairingFault) : Reports [f] rule ↔ f.rule? = some rule := by simp [Reports]

@[simp] theorem reports_ite (c : Prop) [Decidable c] (fs gs : List PairingFault) :
    Reports (if c then fs else gs) rule ↔ c ∧ Reports fs rule ∨ ¬c ∧ Reports gs rule := by
  split <;> simp_all

theorem claimFaults_eq (pair : PairName) (c : Claim) : claimFaults pair c =
    (if c.name.isEmpty then [.noClaimName pair] else []) ++
    (if c.ns.isEmpty then [.noClaimNamespace pair] else []) := by
  simp [claimFaults, Claim.identity, Label.valueFault?_md5Hex]

theorem reports_pairFaults (before : List Pair) (p : Pair) :
    Reports (pairFaults before p) rule ↔ rule.BrokenBy before p := by
  cases rule <;>
    simp [pairFaults, claimFaults_eq, PairingFault.rule?, PairingRule.BrokenBy, Pair.isConsistent]

theorem reports_faultsAfter : ∀ before : List Pair, Reports (faultsAfter before pairs) rule ↔
    ∃ l p r, pairs = l ++ p :: r ∧ rule.BrokenBy (before ++ l) p := by
  induction pairs with
  | nil => simp [faultsAfter]
  | cons q pairs ih =>
    intro before
    rw [faultsAfter, reports_append, reports_pairFaults, ih]
    constructor
    · rintro (h | ⟨l, p, r, rfl, h⟩)
      · exact ⟨[], q, pairs, rfl, by simpa using h⟩
      · exact ⟨q :: l, p, r, rfl, by simpa using h⟩
    · rintro ⟨l, p, r, he, h⟩
      cases l with
      | nil =>
        cases he
        exact .inl (by simpa using h)
      | cons a l =>
        cases he
        exact .inr ⟨l, p, r, rfl, by simpa using h⟩

/-! ## Faults of a list -/

theorem exists_split_iff {P : Pair → Prop} : (∃ l p r, pairs = l ++ p :: r ∧ P p) ↔ ∃ p ∈ pairs, P p := by
  constructor
  · rintro ⟨l, p, r, rfl, h⟩
    exact ⟨p, by simp, h⟩
  · rintro ⟨p, hp, h⟩
    obtain ⟨l, r, he⟩ := List.append_of_mem hp
    exact ⟨l, p, r, he, h⟩

/-- A list has a member twice if one of its members is among those before it. -/
theorem not_nodup_map_iff {f : Pair → ObjectName} :
    ¬(pairs.map f).Nodup ↔ ∃ l p r, pairs = l ++ p :: r ∧ ∃ q ∈ l, f q = f p := by
  constructor
  · intro h
    apply Classical.byContradiction
    intro hnone
    exact h (nodup_map_of_fresh fun l p r he q hq hqp => hnone ⟨l, p, r, he, q, hq, hqp⟩)
  · rintro ⟨l, p, r, rfl, q, hq, hqp⟩ h
    rw [List.map_append, List.map_cons] at h
    exact (List.nodup_append.1 h).2.2 _ (List.mem_map_of_mem hq) _ List.mem_cons_self hqp

/-- There is more than one distinct member if there are two that differ. -/
theorem one_lt_length_distinct_iff {f : Pair → String} :
    1 < (SortedMap.distinct (pairs.map f)).length ↔ ¬∀ p ∈ pairs, ∀ q ∈ pairs, f p = f q := by
  constructor
  · intro h hall
    have hnodup : (SortedMap.distinct (pairs.map f)).Nodup := SortedMap.nodup_keys _
    have hmem : ∀ x ∈ SortedMap.distinct (pairs.map f), ∃ p ∈ pairs, f p = x := fun x hx =>
      List.mem_map.1 (SortedMap.mem_distinct.1 hx)
    match hd : SortedMap.distinct (pairs.map f) with
    | [] => simp [hd] at h
    | [x] => simp [hd] at h
    | x :: y :: r =>
      rw [hd] at hnodup hmem
      obtain ⟨p, hp, rfl⟩ := hmem x (by simp)
      obtain ⟨q, hq, rfl⟩ := hmem y (by simp)
      simp [hall p hp q hq] at hnodup
  · intro h
    apply Classical.byContradiction
    intro hle
    exact h fun p hp q hq => eq_of_length_distinct hle hp hq

/-- Pairs that are copied in either way are counted if there are any. -/
theorem mixed_iff : 0 < (devices pairs).length ∧ 0 < (fileSystems pairs).length ↔ ¬PairingRule.oneWay.Holds pairs := by
  simp only [devices, fileSystems, List.length_pos_iff_exists_mem, List.mem_filter, Pair.isConsistent, Pair.isDevice,
    Bool.and_eq_true, beq_iff_eq, Bool.not_eq_true', PairingRule.Holds]
  constructor
  · rintro ⟨⟨p, hp, hpc, hpd⟩, q, hq, hqc, hqd⟩ ⟨device, h⟩
    rw [h p hp hpc] at hpd
    rw [h q hq hqc, hpd] at hqd
    cases hqd
  · intro h
    constructor
    · apply Classical.byContradiction
      intro hnone
      refine h ⟨false, fun p hp hpc => ?_⟩
      cases hpd : p.source.isDevice with
      | false => rfl
      | true => exact absurd ⟨p, hp, hpc, hpd⟩ hnone
    · apply Classical.byContradiction
      intro hnone
      refine h ⟨true, fun p hp hpc => ?_⟩
      cases hpd : p.source.isDevice with
      | true => rfl
      | false => exact absurd ⟨p, hp, hpc, hpd⟩ hnone

/-- A list has a fault for each rule that it breaks, and for no other. -/
theorem reports_faults : Reports (faults pairs) rule ↔ ¬rule.Holds pairs := by
  by_cases hnil : pairs = []
  · subst hnil
    cases rule <;> simp [faults, PairingFault.rule?, PairingRule.Holds]
  · have hparts : Reports (faults pairs) rule ↔
        (1 < (SortedMap.distinct (pairs.map (·.source.ns))).length ∧ rule = .oneSourceNamespace) ∨
        (1 < (SortedMap.distinct (pairs.map (·.destination.ns))).length ∧ rule = .oneDestinationNamespace) ∨
        (∃ l p r, pairs = l ++ p :: r ∧ rule.BrokenBy l p) ∨
        ((0 < (devices pairs).length ∧ 0 < (fileSystems pairs).length) ∧ rule = .oneWay) := by
      unfold faults
      rw [if_neg (by simpa using hnil)]
      simp only [reports_append, reports_ite, reports_singleton, reports_nil, reports_faultsAfter, List.nil_append,
        PairingFault.rule?, Option.some.injEq, and_false, or_false, or_assoc, eq_comm (b := rule)]
    rw [hparts, one_lt_length_distinct_iff, one_lt_length_distinct_iff, mixed_iff]
    cases rule <;> simp only [PairingRule.BrokenBy, reduceCtorEq, and_false, and_true, or_false, false_or, exists_false]
    case somePair => simpa [PairingRule.Holds] using hnil
    case oneSourceNamespace => rfl
    case oneDestinationNamespace => rfl
    case claimsNamed =>
      rw [exists_split_iff]
      simp [PairingRule.Holds, Decidable.imp_iff_not_or]
    case claimsPlaced =>
      rw [exists_split_iff]
      simp [PairingRule.Holds, Decidable.imp_iff_not_or]
    case sidesAgree =>
      rw [exists_split_iff]
      simp [PairingRule.Holds]
    case sourcesDiffer => exact not_nodup_map_iff.symm
    case destinationsDiffer => exact not_nodup_map_iff.symm

/-- Every fault of a list is a breach of a rule. -/
theorem rule?_isSome_of_mem_faults {f : PairingFault} (h : f ∈ faults pairs) : f.rule?.isSome = true := by
  have hpair : ∀ (before : List Pair) (p : Pair), ∀ f ∈ pairFaults before p, f.rule?.isSome = true := by
    intro before p f hf
    simp only [pairFaults, claimFaults_eq, List.mem_append, List.mem_ite_nil_left, List.mem_ite_nil_right,
      List.mem_singleton] at hf
    rcases hf with ((((⟨-, rfl⟩ | ⟨-, rfl⟩) | ⟨-, rfl⟩ | ⟨-, rfl⟩) | ⟨-, rfl⟩) | ⟨-, rfl⟩) | ⟨-, rfl⟩ <;> rfl
  have hafter : ∀ before : List Pair, f ∈ faultsAfter before pairs → f.rule?.isSome = true := by
    clear h
    induction pairs with
    | nil => simp [faultsAfter]
    | cons p r ih =>
      intro before hf
      rcases List.mem_append.1 hf with hf | hf
      · exact hpair before p f hf
      · exact ih (before ++ [p]) hf
  unfold faults at h
  split at h
  · rw [List.mem_singleton.1 h]
    rfl
  · simp only [List.mem_append, List.mem_ite_nil_right, List.mem_singleton] at h
    rcases h with ((⟨-, rfl⟩ | ⟨-, rfl⟩) | hf) | ⟨-, rfl⟩
    · rfl
    · rfl
    · exact hafter [] hf
    · rfl

theorem faults_eq_nil_iff : faults pairs = [] ↔ ∀ rule : PairingRule, rule.Holds pairs := by
  constructor
  · intro h rule
    apply Classical.byContradiction
    intro hbroken
    obtain ⟨f, hf, -⟩ := reports_faults.2 hbroken
    rw [h] at hf
    cases hf
  · intro h
    apply List.eq_nil_iff_forall_not_mem.2
    intro f hf
    obtain ⟨rule, hrule⟩ := Option.isSome_iff_exists.1 (rule?_isSome_of_mem_faults hf)
    exact reports_faults.1 ⟨f, hf, hrule⟩ (h rule)

theorem ofPairs_eq_ok {l : PairList} : ofPairs pairs = .ok l ↔ l.pairs = pairs := by
  unfold ofPairs
  split
  · rename_i hsound
    constructor
    · rintro ⟨⟩
      rfl
    · rintro rfl
      rfl
  · rename_i hfaults
    constructor
    · rintro ⟨⟩
    · rintro rfl
      exact absurd l.sound hfaults

theorem ofPairs_eq_error (h : faults pairs ≠ []) :
    ofPairs pairs = .error (.validation ((faults pairs).map (·.message))) := by
  unfold ofPairs
  split
  · exact absurd ‹faults pairs = []› h
  · rfl

/-! ## What the rules are for -/

/-- Looking for a value that no other member has finds the member. -/
theorem find?_eq_some_of_nodup {f : Pair → String} (h : (pairs.map f).Nodup) {p : Pair} (hp : p ∈ pairs) :
    pairs.find? (f · == f p) = some p := by
  induction pairs with
  | nil => cases hp
  | cons q r ih =>
    obtain ⟨hq, hr⟩ := List.nodup_cons.1 h
    rcases List.mem_cons.1 hp with rfl | hp
    · simp
    · have hne : f q ≠ f p := fun he => hq (he ▸ List.mem_map_of_mem hp)
      simpa [hne] using ih hr hp

variable (l : PairList)

theorem bySource?_eq_some {p : Pair} (hp : p ∈ l.pairs) : l.bySource? p.source.name = some p := by
  have h := l.nodup_sourceNames
  rw [sources, List.map_map] at h
  exact find?_eq_some_of_nodup h hp

theorem byDestination?_eq_some {p : Pair} (hp : p ∈ l.pairs) : l.byDestination? p.destination.name = some p := by
  have h := l.nodup_destinationNames
  rw [destinations, List.map_map] at h
  exact find?_eq_some_of_nodup h hp

/-- All claims of both sides are copied in the way of the list. -/
theorem isDevice_eq {p : Pair} (hp : p ∈ l.pairs) :
    p.source.isDevice = l.isDevice ∧ p.destination.isDevice = l.isDevice := by
  have hrules := faults_eq_nil_iff.1 l.sound
  have hagree : ∀ q ∈ l.pairs, q.source.isDevice = q.destination.isDevice := hrules .sidesAgree
  obtain ⟨device, hdevice⟩ := hrules .oneWay
  have hall : ∀ q ∈ l.pairs, q.source.isDevice = device := fun q hq => hdevice q hq (hagree q hq)
  have hlist : l.isDevice = device := by
    cases device with
    | true => exact List.all_eq_true.2 hall
    | false => exact List.all_eq_false.2 ⟨p, hp, by simp [Pair.isDevice, hall p hp]⟩
  rw [← hagree p hp, hall p hp, hlist]
  exact ⟨rfl, rfl⟩

end PairList

namespace Transfer

/-- A transfer of parts that were found to go together. -/
inductive Accepted : Transfer → Prop where
  | new {method : Method} {pairs : PairList} {endpoint : Endpoint} {transport : Transport} {workload : WorkloadOptions}
      {password : String} {t : Transfer} (h : Transfer.new method pairs endpoint transport workload password = .ok t) :
      Accepted t
  | withConnection {t u : Transfer} {endpoint : Endpoint} {transport : Transport}
      (h : t.withConnection endpoint transport = .ok u) : Accepted u

/-- A transfer whose parts pass both checks is what is made of them. -/
theorem new_of_checks {t : Transfer} {password : String} (hvalid : t.method.validate.isOk = true)
    (hcompatible : (checkCompatible t.type t.pairs t.endpoint t.transport).isOk = true)
    (hcredentials : t.credentials = .ofPassword password) :
    Transfer.new t.method t.pairs t.endpoint t.transport t.workload password = .ok t := by
  unfold Transfer.new
  change (checkCompatible t.method.type t.pairs t.endpoint t.transport).isOk = true at hcompatible
  cases hv : t.method.validate with
  | error f =>
    rw [hv] at hvalid
    cases hvalid
  | ok _ =>
    cases hc : checkCompatible t.method.type t.pairs t.endpoint t.transport with
    | error f =>
      rw [hc] at hcompatible
      cases hcompatible
    | ok _ =>
      rw [← hcredentials]
      rfl

theorem Accepted.of_checks {t : Transfer} {password : String} (hvalid : t.method.validate.isOk = true)
    (hcompatible : (checkCompatible t.type t.pairs t.endpoint t.transport).isOk = true)
    (hcredentials : t.credentials = .ofPassword password) : t.Accepted :=
  .new (new_of_checks hvalid hcompatible hcredentials)

/-- Devices go to blockrsync, and trees of files to the other programs. -/
theorem isDevice_of_checkCompatible {type : TransferType} {pairs : PairList} {e : Endpoint} {t : Transport}
    (h : checkCompatible type pairs e t = .ok ()) : pairs.isDevice = decide (type = .blockrsync) := by
  unfold checkCompatible at h
  split at h
  · cases h
  · split at h
    · cases h
    · split at h
      · cases h
      · cases type <;> cases hd : pairs.isDevice <;> simp_all

theorem Accepted.checkCompatible_eq {t : Transfer} (h : t.Accepted) :
    checkCompatible t.type t.pairs t.endpoint t.transport = .ok () := by
  cases h with
  | @new method pairs endpoint transport workload password _ h =>
    unfold Transfer.new at h
    cases hv : method.validate with
    | error f =>
      rw [hv] at h
      cases h
    | ok _ =>
      rw [hv] at h
      cases hc : checkCompatible method.type pairs endpoint transport with
      | error f =>
        simp [hc, bind, Except.bind] at h
      | ok _ =>
        simp [hc, bind, Except.bind, pure, Except.pure] at h
        subst h
        exact hc
  | @withConnection t' _ endpoint transport h =>
    unfold Transfer.withConnection at h
    cases hc : checkCompatible t'.method.type t'.pairs endpoint transport with
    | error f =>
      rw [hc] at h
      cases h
    | ok _ =>
      rw [hc] at h
      cases h
      exact hc

theorem isDevice_of_mem_claims {t : Transfer} {side : Side} {c : Claim} (h : c ∈ t.claims side) :
    c.isDevice = t.pairs.isDevice := by
  cases side with
  | server =>
    obtain ⟨p, hp, rfl⟩ := List.mem_map.1 h
    exact (t.pairs.isDevice_eq hp).2
  | client =>
    obtain ⟨p, hp, rfl⟩ := List.mem_map.1 h
    exact (t.pairs.isDevice_eq hp).1

end Transfer

/-- A list of pairs passes if it meets every rule. If it does not, then the faults that it is turned down
with are breaches of just the rules that it breaks. In a list that passes, a claim's name leads
to its own pair, and no transfer of the list hands a device to a program that copies trees of files, or
a tree of files to one that copies devices. -/
theorem PairList.ofPairs_guards (pairs : List Pair) :
    ((∃ l, ofPairs pairs = .ok l) ↔ ∀ rule : PairingRule, rule.Holds pairs) ∧
    ((∃ rule : PairingRule, ¬rule.Holds pairs) → ∃ faults : List PairingFault,
      ofPairs pairs = .error (.validation (faults.map (·.message))) ∧
        ∀ rule : PairingRule, ¬rule.Holds pairs ↔ ∃ f ∈ faults, f.rule? = some rule) ∧
    ∀ l, ofPairs pairs = .ok l → l.pairs = pairs ∧
      (∀ p ∈ pairs, l.bySource? p.source.name = some p ∧ l.byDestination? p.destination.name = some p) ∧
      ∀ t : Transfer, t.Accepted → t.pairs = l → ∀ side, ∀ c ∈ t.claims side,
        (t.type = .blockrsync → c.isBlock = true ∨ c.isVmDisk = true) ∧
        (t.type = .rsync ∨ t.type = .rclone → c.isBlock = false ∧ c.isVmDisk = false) := by
  refine ⟨?_, ?_, ?_⟩
  · rw [← faults_eq_nil_iff]
    constructor
    · rintro ⟨l, h⟩
      rw [← ofPairs_eq_ok.1 h]
      exact l.sound
    · intro h
      exact ⟨⟨pairs, h⟩, ofPairs_eq_ok.2 rfl⟩
  · rintro ⟨rule, hbroken⟩
    refine ⟨faults pairs, ofPairs_eq_error fun hnil => ?_, fun rule => reports_faults.symm⟩
    exact hbroken (faults_eq_nil_iff.1 hnil rule)
  · intro l h
    obtain rfl := ofPairs_eq_ok.1 h
    refine ⟨rfl, fun p hp => ⟨l.bySource?_eq_some hp, l.byDestination?_eq_some hp⟩, ?_⟩
    rintro t haccepted rfl side c hc
    have hdevice : c.isDevice = decide (t.type = .blockrsync) :=
      (Transfer.isDevice_of_mem_claims hc).trans (Transfer.isDevice_of_checkCompatible haccepted.checkCompatible_eq)
    constructor
    · intro htype
      rw [htype] at hdevice
      exact Bool.or_eq_true_iff.1 hdevice
    · intro htype
      have hfiles : c.isDevice = false := by
        rcases htype with htype | htype <;> rw [hdevice, htype] <;> rfl
      exact Bool.or_eq_false_iff.1 hfiles

/-- A tree of files and a device, each to a claim of its own kind: all that is wrong is that there are both. -/
example :
    let tree := Pair.ofClaims (.named ⟨"shop", "tree"⟩) (some (.named ⟨"depot", "tree"⟩))
    let disk := Pair.ofClaims ((Claim.named ⟨"shop", "disk"⟩).withMode Claim.blockMode)
      (some ((Claim.named ⟨"depot", "disk"⟩).withMode Claim.blockMode))
    (PairList.faults [tree, disk]).map (·.rule?) = [some .oneWay] ∧ PairingRule.sidesAgree.Holds [tree, disk] ∧
      ¬PairingRule.oneWay.Holds [tree, disk] := by
  decide +kernel

end VolumeMigration
