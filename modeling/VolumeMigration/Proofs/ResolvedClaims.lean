import Mathlib.Data.List.Forall2
import VolumeMigration.Proofs.FailureFree
import VolumeMigration.Proofs.Plans
/-!
# The claims that a configuration names

Where no operation fails, the pairs of a configuration depend on the claims of
the two clusters alone (`MigrationConfig.pairList_resolves`). Sources that are
not named in full are reported together before anything is read, and the first
source that is missing ends the reading. Else there is a pair for each entry, in
order (`PairConfig.ReadAs`): the source is the claim of the source cluster, and
the destination is the claim of the destination cluster or, if there is none, a
claim like the source.
-/

namespace VolumeMigration

open Attempt

/-! ## Claims of a cluster -/

/-- The claim that a cluster has under a name. -/
def Cluster.claim? (c : Cluster) (n : ObjectName) : Option Claim :=
  (c.objects.get? ⟨.persistentVolumeClaim, n.ns, n.name⟩).bind Claim.ofObject?

namespace Claim

variable {c : Claim} {n : ObjectName}

theorem objectName_of_ofObject? {o : Object} (h : ofObject? o = some c) : c.objectName = o.objectName := by
  unfold ofObject? at h
  split at h
  · cases h
    rfl
  · cases h

/-- A claim that is renamed to a name without empty parts has that name. -/
theorem objectName_renamed (c : Claim) (hns : n.ns ≠ "") (hname : n.name ≠ "") : (c.renamed n).objectName = n := by
  simp [renamed, objectName, Metadata.lookupName, hns, hname]

end Claim

/-- A claim has the name that it is found under. -/
theorem Cluster.objectName_of_claim? {c : Cluster} {n : ObjectName} {claim : Claim} (hkept : c.WellKept)
    (h : c.claim? n = some claim) : claim.objectName = n := by
  obtain ⟨o, ho, hclaim⟩ := Option.bind_eq_some_iff.1 h
  have hkey := hkept _ o ho
  rw [Claim.objectName_of_ofObject? hclaim]
  exact ObjectName.mk.injEq .. ▸ ⟨congrArg Key.ns hkey, congrArg Key.name hkey⟩

/-! ## Pairs -/

namespace Pair

variable {source d : Claim}

/-- A destination that is named in full stays as it is. -/
theorem ofClaims_of_named (hns : d.ns ≠ "") (hname : d.name ≠ "") :
    ofClaims source (some d) = { source, destination := d } := by
  simp [ofClaims, hns, hname]

/-- A destination takes the parts of its name that are empty from a source that is named in full. -/
theorem name_ofClaims (d : Claim) (hns : source.ns ≠ "") (hname : source.name ≠ "") :
    (ofClaims source (some d)).name = ⟨source.objectName,
      ⟨if d.ns = "" then source.ns else d.ns, if d.name = "" then source.name else d.name⟩⟩ := by
  unfold ofClaims
  simp only [String.isEmpty_iff, Bool.or_eq_true]
  split
  · rw [name, Claim.objectName_renamed]
    · simp only
      split <;> assumption
    · simp only
      split <;> assumption
  · rename_i hparts
    rw [not_or] at hparts
    rw [if_neg hparts.1, if_neg hparts.2]
    rfl

end Pair

/-! ## Entries -/

namespace PairConfig

variable {p : PairConfig} {q : Pair} {source destination : Cluster}

/-- The source of the entry lacks a namespace or a name. -/
def Lacks (p : PairConfig) : Prop := p.source.ns = "" ∨ p.source.name = ""

instance (p : PairConfig) : Decidable p.Lacks := inferInstanceAs (Decidable (_ ∨ _))

theorem isComplete_iff : p.isComplete = true ↔ ¬p.Lacks := by
  simp [isComplete, Lacks]

/-- The parts of the destination's name that the entry gives itself, the others empty. -/
def given (p : PairConfig) : ObjectName := ⟨(p.destination.getD {}).ns, (p.destination.getD {}).name⟩

theorem orElse_eq (s other : String) : orElse s other = if s = "" then other else s := by
  by_cases h : s = "" <;> simp [orElse, h]

theorem destinationName_eq (p : PairConfig) : p.destinationName =
    ⟨if p.given.ns = "" then p.source.ns else p.given.ns,
      if p.given.name = "" then p.source.name else p.given.name⟩ := by
  rw [destinationName, orElse_eq, orElse_eq]
  rfl

/-- A destination has a full name if the source has. -/
theorem destinationName_full (hlacks : ¬p.Lacks) : p.destinationName.ns ≠ "" ∧ p.destinationName.name ≠ "" := by
  obtain ⟨hns, hname⟩ := not_or.1 hlacks
  rw [destinationName_eq]
  constructor
  · simp only
    split <;> assumption
  · simp only
    split <;> assumption

/-- The claim that is to take the contents of a source: the cluster's own, or one like the source. -/
def destinationClaim (p : PairConfig) (destination : Cluster) (claim : Claim) : Claim :=
  (destination.claim? p.destinationName).getD (claim.renamed p.destinationName)

theorem objectName_destinationClaim (hkept : destination.WellKept) (hlacks : ¬p.Lacks) (claim : Claim) :
    (p.destinationClaim destination claim).objectName = p.destinationName := by
  unfold destinationClaim
  cases hfound : destination.claim? p.destinationName with
  | some existing => exact Cluster.objectName_of_claim? hkept hfound
  | none => exact claim.objectName_renamed (destinationName_full hlacks).1 (destinationName_full hlacks).2

theorem isDevice_destinationClaim (p : PairConfig) (destination : Cluster) (claim : Claim) :
    (p.destinationClaim destination claim).isDevice = ((destination.claim? p.destinationName).getD claim).isDevice := by
  unfold destinationClaim
  cases destination.claim? p.destinationName <;> rfl

/-- The pair that an entry is read as, from the claims of two clusters. -/
structure ReadAs (source destination : Cluster) (p : PairConfig) (q : Pair) : Prop where
  source : source.claim? p.sourceName = some q.source
  /-- The destination takes the parts of its name that are not given from the source. -/
  name : q.name = ⟨p.sourceName, ⟨if p.given.ns = "" then p.source.ns else p.given.ns,
    if p.given.name = "" then p.source.name else p.given.name⟩⟩
  existing : ∀ claim, destination.claim? q.destination.objectName = some claim → q.destination = claim
  /-- The destination is copied as its own claim is, or else as the source. -/
  device : q.destination.isDevice = ((destination.claim? q.destination.objectName).getD q.source).isDevice
  /-- Pairing the source with a claim of the given parts comes to the same names. -/
  paired : ∀ d : Claim, d.objectName = p.given → (Pair.ofClaims q.source (some d)).name = q.name
  /-- So does pairing it with no claim, where the entry has no destination. -/
  unpaired : p.destination = none → (Pair.ofClaims q.source none).name = q.name

/-- The pair of a source and what becomes of its entry's destination. -/
theorem readAs_of_claim? {claim : Claim} (hsource : source.WellKept) (hdestination : destination.WellKept)
    (hlacks : ¬p.Lacks) (h : source.claim? p.sourceName = some claim) :
    p.ReadAs source destination (Pair.ofClaims claim (some (p.destinationClaim destination claim))) := by
  have hclaim : claim.objectName = p.sourceName := Cluster.objectName_of_claim? hsource h
  have hns : claim.ns = p.source.ns := congrArg ObjectName.ns hclaim
  have hname : claim.name = p.source.name := congrArg ObjectName.name hclaim
  have hdname := objectName_destinationClaim hdestination hlacks claim
  have hdevice := isDevice_destinationClaim p destination claim
  have hexisting : ∀ existing, destination.claim? p.destinationName = some existing →
      p.destinationClaim destination claim = existing := by
    intro existing he
    rw [destinationClaim, he, Option.getD_some]
  generalize p.destinationClaim destination claim = d at hdname hdevice hexisting
  have hdfull : d.objectName.ns ≠ "" ∧ d.objectName.name ≠ "" := hdname ▸ destinationName_full hlacks
  rw [Pair.ofClaims_of_named hdfull.1 hdfull.2]
  have hpair : (Pair.mk claim d).name = ⟨p.sourceName, p.destinationName⟩ := by
    rw [Pair.name, hclaim, hdname]
  refine ⟨h, by rw [hpair, destinationName_eq], ?_, ?_, fun d' hd' => ?_, fun hnone => ?_⟩
  · simpa only [hdname] using hexisting
  · simpa only [hdname] using hdevice
  · have hdns' : d'.ns = p.given.ns := congrArg ObjectName.ns hd'
    have hdname' : d'.name = p.given.name := congrArg ObjectName.name hd'
    rw [Pair.name_ofClaims d' (hns ▸ (not_or.1 hlacks).1) (hname ▸ (not_or.1 hlacks).2), hpair, hclaim, hdns', hdname',
      hns, hname, destinationName_eq]
  · rw [hpair, Pair.name, Pair.ofClaims, hclaim, destinationName_eq, given, hnone]
    rfl

end PairConfig

/-! ## Reading -/

namespace MigrationConfig

variable {config : MigrationConfig} {p : PairConfig} {ps : List PairConfig} {source destination : Cluster}

/-- Where nothing fails, looking for a claim finds the cluster's claim. -/
theorem findClaim?_ok {c : Cluster} (hfree : c.FailureFree) (hkept : c.WellKept) (n : ObjectName) :
    outcome (findClaim? n) c = (.ok (c.claim? n), c) := by
  unfold findClaim? Cluster.claim?
  cases ho : c.objects.get? ⟨.persistentVolumeClaim, n.ns, n.name⟩ with
  | none => rw [outcome_bind_ok (hfree.find?_none ho)]; rfl
  | some o =>
    have hserved : o.content.apiVersion = Kind.persistentVolumeClaim.apiVersion := hkept.served ho nofun
    rw [outcome_bind_ok (hfree.find?_ok ho hserved)]
    rfl

/-- Two clusters whose claims can be read. -/
structure Readable (source destination : Cluster) : Prop where
  sourceFree : source.FailureFree
  destinationFree : destination.FailureFree
  sourceKept : source.WellKept
  destinationKept : destination.WellKept

section
variable (h : Readable source destination)
include h

theorem readPair_missing (hp : source.claim? p.sourceName = none) :
    outcome (readPair p) (source, destination) =
      (.error (.notFound "PersistentVolumeClaim" p.sourceName), (source, destination)) := by
  have hfind : outcome (Attempt.onFirst (findClaim? p.sourceName) : Attempt (Cluster × Cluster) (Option Claim))
      (source, destination) = (.ok none, (source, destination)) := by
    rw [outcome_onFirst, findClaim?_ok h.sourceFree h.sourceKept, hp]
  rw [readPair, outcome_bind_ok hfind]
  rfl

theorem readPair_found (hlacks : ¬p.Lacks) (hp : (source.claim? p.sourceName).isSome = true) :
    ∃ q, p.ReadAs source destination q ∧
      outcome (readPair p) (source, destination) = (.ok q, (source, destination)) := by
  obtain ⟨claim, hclaim⟩ := Option.isSome_iff_exists.1 hp
  have hfirst : outcome (Attempt.onFirst (findClaim? p.sourceName) : Attempt (Cluster × Cluster) (Option Claim))
      (source, destination) = (.ok (some claim), (source, destination)) := by
    rw [outcome_onFirst, findClaim?_ok h.sourceFree h.sourceKept, hclaim]
  have hsecond : outcome (Attempt.onSecond (findClaim? p.destinationName) : Attempt (Cluster × Cluster) (Option Claim))
      (source, destination) = (.ok (destination.claim? p.destinationName), (source, destination)) := by
    rw [outcome_onSecond, findClaim?_ok h.destinationFree h.destinationKept]
  refine ⟨_, PairConfig.readAs_of_claim? h.sourceKept h.destinationKept hlacks hclaim, ?_⟩
  rw [readPair, outcome_bind_ok hfirst]
  simp only
  rw [outcome_bind_ok hsecond, outcome_pure]
  rfl

/-- Entries whose sources all exist are read one by one. -/
theorem readPairs_found (hlacks : ∀ p ∈ ps, ¬p.Lacks) (hps : ∀ p ∈ ps, (source.claim? p.sourceName).isSome = true) :
    ∃ pairs, List.Forall₂ (PairConfig.ReadAs source destination) ps pairs ∧
      outcome (readPairs ps) (source, destination) = (.ok pairs, (source, destination)) := by
  induction ps with
  | nil => exact ⟨[], .nil, rfl⟩
  | cons p ps ih =>
    obtain ⟨q, hq, hfirst⟩ := readPair_found h (hlacks p (by simp)) (hps p (by simp))
    obtain ⟨pairs, hpairs, hrest⟩ := ih (fun p' hp' => hlacks p' (by simp [hp'])) fun p' hp' => hps p' (by simp [hp'])
    exact ⟨q :: pairs, .cons hq hpairs, by rw [readPairs, outcome_bind_ok hfirst, outcome_bind_ok hrest, outcome_pure]⟩

/-- The first source that is missing ends the reading. -/
theorem readPairs_missing {before after : List PairConfig} (hlacks : ∀ q ∈ before, ¬q.Lacks)
    (hbefore : ∀ q ∈ before, (source.claim? q.sourceName).isSome = true) (hp : source.claim? p.sourceName = none) :
    outcome (readPairs (before ++ p :: after)) (source, destination) =
      (.error (.notFound "PersistentVolumeClaim" p.sourceName), (source, destination)) := by
  induction before with
  | nil => rw [List.nil_append, readPairs, outcome_bind, readPair_missing h hp]
  | cons q before ih =>
    obtain ⟨_, -, hfirst⟩ := readPair_found h (hlacks q (by simp)) (hbefore q (by simp))
    have hrest := ih (fun q' hq' => hlacks q' (by simp [hq'])) fun q' hq' => hbefore q' (by simp [hq'])
    rw [List.cons_append, readPairs, outcome_bind_ok hfirst, outcome_bind, hrest]

end

/-- The entries whose sources are not named in full, each with its place in the list. -/
def lacking (config : MigrationConfig) : List (PairConfig × Nat) := config.pairs.zipIdx.filter fun e => e.1.Lacks

theorem sourceFaults_eq (config : MigrationConfig) :
    config.sourceFaults = config.lacking.map fun e => s!"pvcs[{e.2}]: source needs a namespace and a name" := by
  unfold sourceFaults lacking
  rw [List.mapIdx_eq_zipIdx_map, List.filterMap_map]
  induction config.pairs.zipIdx with
  | nil => rfl
  | cons e es ih =>
    rw [List.filterMap_cons, ih, List.filter_cons]
    by_cases hlacks : e.1.Lacks
    · have hincomplete : e.1.isComplete = false := by simp [← Bool.not_eq_true, PairConfig.isComplete_iff, hlacks]
      simp [hlacks, hincomplete]
    · have hcomplete : e.1.isComplete = true := PairConfig.isComplete_iff.2 hlacks
      simp [hlacks, hcomplete]

theorem lacking_eq_nil_iff : config.lacking = [] ↔ ∀ p ∈ config.pairs, ¬p.Lacks := by
  simp only [lacking, List.filter_eq_nil_iff, decide_eq_true_eq]
  constructor
  · intro h p hp
    obtain ⟨i, hi⟩ := List.mem_iff_getElem?.1 hp
    exact h (p, i) (List.mem_zipIdx_iff_getElem?.2 hi)
  · intro h e he
    exact h e.1 (List.mem_of_getElem? (List.mem_zipIdx_iff_getElem?.1 he))

/-- What reading the pairs of a configuration comes to. -/
structure Resolves (config : MigrationConfig) (source destination : Cluster) (r : Result PairList) : Prop where
  lacking : (∃ p ∈ config.pairs, p.Lacks) → r = .error (.validation
    (config.lacking.map fun e => s!"pvcs[{e.2}]: source needs a namespace and a name"))
  missing : (∀ p ∈ config.pairs, ¬p.Lacks) → ∀ before p after, config.pairs = before ++ p :: after →
    (∀ q ∈ before, (source.claim? q.sourceName).isSome = true) → source.claim? p.sourceName = none →
    r = .error (.notFound "PersistentVolumeClaim" p.sourceName)
  found : (∀ p ∈ config.pairs, ¬p.Lacks) → (∀ p ∈ config.pairs, (source.claim? p.sourceName).isSome = true) →
    ∃ pairs, List.Forall₂ (PairConfig.ReadAs source destination) config.pairs pairs ∧ r = PairList.ofPairs pairs

/-- Whatever the configuration, both clusters stay as they are. -/
theorem pairList_resolves (config : MigrationConfig) (h : Readable source destination) :
    ∃ r, outcome config.pairList (source, destination) = (r, (source, destination)) ∧
      config.Resolves source destination r := by
  refine ⟨_, Prod.ext rfl (pairList_reads config (source, destination)), fun hlacks => ?_,
    fun hfull before p after hsplit hbefore hp => ?_, fun hfull hfound => ?_⟩
  · have hfaults : config.sourceFaults ≠ [] := by
      rw [sourceFaults_eq, ne_eq, List.map_eq_nil_iff, lacking_eq_nil_iff]
      obtain ⟨p, hp, hlack⟩ := hlacks
      exact fun hnone => hnone p hp hlack
    rw [pairList, outcome_bind, outcome_ofResult, Failure.checkValidation, if_neg (by simpa using hfaults),
      sourceFaults_eq]
  · have hfaults : config.sourceFaults = [] := by
      rw [sourceFaults_eq, List.map_eq_nil_iff, lacking_eq_nil_iff]
      exact hfull
    have hlacks : ∀ q ∈ before, ¬q.Lacks := fun q hq => hfull q (by simp [hsplit, hq])
    rw [pairList, outcome_bind_ok (by rw [outcome_ofResult, Failure.checkValidation_eq_ok.2 hfaults]), outcome_bind,
      hsplit, readPairs_missing h hlacks hbefore hp]
  · have hfaults : config.sourceFaults = [] := by
      rw [sourceFaults_eq, List.map_eq_nil_iff, lacking_eq_nil_iff]
      exact hfull
    obtain ⟨pairs, hpairs, hread⟩ := readPairs_found h hfull hfound
    refine ⟨pairs, hpairs, ?_⟩
    rw [pairList, outcome_bind_ok (by rw [outcome_ofResult, Failure.checkValidation_eq_ok.2 hfaults]),
      outcome_bind_ok hread, outcome_ofResult]

/-- Two claims of a shop. -/
def shopClaims : Cluster :=
  (({} : Cluster).place (Claim.named ⟨"shop", "orders"⟩).toObject).place (Claim.named ⟨"shop", "notes"⟩).toObject

/-- A depot that has a claim for one of them already. -/
def depotClaims : Cluster := ({} : Cluster).place (Claim.named ⟨"depot", "orders-copy"⟩).toObject

def shopToDepot : MigrationConfig where
  pairs := [
    { source := ⟨"shop", "orders"⟩, destination := some ⟨"depot", "orders-copy"⟩ },
    { source := ⟨"shop", "notes"⟩, destination := some ⟨"depot", ""⟩ }]
  endpoint := .service .clusterIP none

theorem readable_shopToDepot : Readable shopClaims depotClaims where
  sourceFree := ⟨rfl, rfl⟩
  destinationFree := ⟨rfl, rfl⟩
  sourceKept := (Cluster.wellKept_empty.place _).place _
  destinationKept := Cluster.wellKept_empty.place _

theorem pairList_resolves_shopToDepot : Readable shopClaims depotClaims ∧ ∃ pairs,
    List.Forall₂ (PairConfig.ReadAs shopClaims depotClaims) shopToDepot.pairs pairs ∧
      outcome shopToDepot.pairList (shopClaims, depotClaims) = (PairList.ofPairs pairs, (shopClaims, depotClaims)) := by
  obtain ⟨r, hrun, hresolves⟩ := pairList_resolves shopToDepot readable_shopToDepot
  obtain ⟨pairs, hpairs, rfl⟩ := hresolves.found (by decide) (by decide)
  exact ⟨readable_shopToDepot, pairs, hpairs, hrun⟩

/-- The part that the second entry does not give is taken from its source. -/
example : ((outcome (readPairs shopToDepot.pairs) (shopClaims, depotClaims)).1.toOption.map (·.map Pair.display)) =
    some ["shop/orders -> depot/orders-copy", "shop/notes -> depot/notes"] := by
  decide +kernel

end MigrationConfig

end VolumeMigration
