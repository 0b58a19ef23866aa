import VolumeMigration.Proofs.Waits
/-!
# When a wait ends

A wait looks at the state at once, and again after every interval
(`Timed.atLook`). With a check that only reads, it ends at the first look that
has an answer, in the state of that look and at its time, unless that look would
come too late (`Command.await_ok_iff`, `Command.await_failed_iff`).
-/

namespace VolumeMigration

open Attempt

variable {σ : Type}

/-! ## Looks -/

namespace Timed

/-- What is seen at the look with the given number, where the look at the beginning is number 0. -/
def atLook (interval : Nat) : Nat → Timed σ → Timed σ
  | 0, w => w
  | k + 1, w => atLook interval k (w.advance (w.now + interval))

theorem now_atLook (interval k : Nat) (w : Timed σ) : (w.atLook interval k).now = w.now + k * interval := by
  induction k generalizing w with
  | zero => simp [atLook]
  | succ k ih =>
    rw [atLook, ih, Nat.succ_mul]
    change w.now + interval + k * interval = w.now + (k * interval + interval)
    omega

theorem passes_atLook (interval k : Nat) (w : Timed σ) : w.Passes (w.atLook interval k) := by
  induction k generalizing w with
  | zero => exact .refl w
  | succ k ih => exact .later (Nat.le_add_right w.now interval) (ih _)

end Timed

/-! ## The first answer -/

section Answers
variable {check : Attempt σ Bool} {interval last k k' : Nat} {w : Timed σ} {r r' : Result Bool}

/-- The check comes to `r` at a look, after it came to nothing at the looks before. -/
structure AnswersAt (check : Attempt σ Bool) (interval : Nat) (w : Timed σ) (k : Nat) (r : Result Bool) : Prop where
  waited : ∀ j < k, (outcome check (w.atLook interval j).state).1 = .ok false
  answer : (outcome check (w.atLook interval k).state).1 = r

theorem AnswersAt.succ (hnow : (outcome check w.state).1 = .ok false)
    (h : AnswersAt check interval (w.advance (w.now + interval)) k r) : AnswersAt check interval w (k + 1) r := by
  refine ⟨fun j hj => ?_, h.answer⟩
  cases j with
  | zero => exact hnow
  | succ j => exact h.waited j (by omega)

/-- There is one first answer. -/
theorem AnswersAt.unique (h : AnswersAt check interval w k r) (h' : AnswersAt check interval w k' r')
    (hr : r ≠ .ok false) (hr' : r' ≠ .ok false) : k = k' ∧ r = r' := by
  have hk : k = k' := by
    rcases Nat.lt_trichotomy k k' with hlt | heq | hgt
    · exact absurd (h.answer.symm.trans (h'.waited k hlt)) hr
    · exact heq
    · exact absurd (h'.answer.symm.trans (h.waited k' hgt)) hr'
  subst hk
  exact ⟨rfl, h.answer.symm.trans h'.answer⟩

/-- How looking ends: at the first look with an answer, or when the time for looks is over. -/
inductive LooksEnd (check : Attempt σ Bool) (interval last : Nat) (w : Timed σ) : Looking × Unit × Timed σ → Prop where
  | passed {k : Nat} (hk : k * interval ≤ last - w.now) (h : AnswersAt check interval w k (.ok true)) :
    LooksEnd check interval last w (.passed, (), w.atLook interval k)
  | failed {k : Nat} {f : Failure} (hk : k * interval ≤ last - w.now) (h : AnswersAt check interval w k (.error f)) :
    LooksEnd check interval last w (.failed f, (), w.atLook interval k)
  | expired (w' : Timed σ)
    (h : ∀ k, k * interval ≤ last - w.now → (outcome check (w.atLook interval k).state).1 = .ok false) :
    LooksEnd check interval last w (.expired, (), w')

/-- What the check came to at the end. -/
def Looking.answer? : Looking → Option (Result Bool)
  | .passed => some (.ok true)
  | .failed f => some (.error f)
  | .expired => none

/-- The answer in the end is the first one, if there is one in time. -/
theorem LooksEnd.answer_iff {done : Looking × Unit × Timed σ} (h : LooksEnd check interval last w done)
    (hr : r ≠ .ok false) (w' : Timed σ) : (done.1.answer? = some r ∧ done.2.2 = w') ↔
      ∃ k, k * interval ≤ last - w.now ∧ AnswersAt check interval w k r ∧ w' = w.atLook interval k := by
  cases h with
  | @passed k hk h =>
    constructor
    · rintro ⟨⟨⟩, rfl⟩
      exact ⟨k, hk, h, rfl⟩
    · rintro ⟨k', hk', h', rfl⟩
      obtain ⟨rfl, rfl⟩ := h.unique h' (by simp) hr
      exact ⟨rfl, rfl⟩
  | @failed k f hk h =>
    constructor
    · rintro ⟨⟨⟩, rfl⟩
      exact ⟨k, hk, h, rfl⟩
    · rintro ⟨k', hk', h', rfl⟩
      obtain ⟨rfl, rfl⟩ := h.unique h' (by simp) hr
      exact ⟨rfl, rfl⟩
  | expired w₁ h =>
    constructor
    · rintro ⟨⟨⟩, -⟩
    · rintro ⟨k, hk, h', rfl⟩
      exact absurd (h'.answer.symm.trans (h k hk)) hr

/-- The end of the looks that are left is the end of all of them. -/
theorem LooksEnd.succ {done : Looking × Unit × Timed σ} (hnow : (outcome check w.state).1 = .ok false)
    (hlast : w.now + interval ≤ last) (h : LooksEnd check interval last (w.advance (w.now + interval)) done) :
    LooksEnd check interval last w done := by
  have hlater : ∀ k, k * interval ≤ last - (w.now + interval) → (k + 1) * interval ≤ last - w.now := by
    intro k hk
    rw [Nat.succ_mul]
    omega
  cases h with
  | passed hk h => exact .passed (hlater _ hk) (h.succ hnow)
  | failed hk h => exact .failed (hlater _ hk) (h.succ hnow)
  | expired w' h =>
    refine .expired w' fun k hk => ?_
    cases k with
    | zero => exact hnow
    | succ k =>
      rw [Nat.succ_mul] at hk
      apply h k
      change k * interval ≤ last - (w.now + interval)
      omega

/-- Looking with a check that only reads. -/
theorem look_looksEnd (hcheck : Reads check) (hinterval : 0 < interval) (looks : Nat) (w : Timed σ)
    (hlooks : looks = looksUntil interval w.now last) :
    LooksEnd check interval last w (look interval last check.onSecond looks () w) := by
  -- By induction on the number of looks that there is time for; after a look, there is one less.
  induction looks generalizing w with
  | zero =>
    rw [looksUntil, if_neg (by omega)] at hlooks
    exact absurd hlooks (Nat.succ_ne_zero _).symm
  | succ looks ih =>
    have hsame := hcheck w.state
    rcases hrun : outcome check w.state with ⟨r, s⟩
    rw [hrun] at hsame
    obtain rfl : s = w.state := hsame
    have hfirst : ∀ j < 0, (outcome check (w.atLook interval j).state).1 = .ok false := by
      intro j hj
      omega
    simp only [look, outcome_onSecond, hrun]
    rcases r with f | _ | _
    · exact .failed (by simp) ⟨hfirst, congrArg Prod.fst hrun⟩
    · have hnow : (outcome check w.state).1 = .ok false := congrArg Prod.fst hrun
      simp only
      split
      · rename_i hlate
        refine .expired _ fun k hk => ?_
        cases k with
        | zero => exact hnow
        | succ k =>
          rw [Nat.succ_mul] at hk
          omega
      · rename_i htime
        refine .succ hnow (by omega) (ih _ ?_)
        rw [looksUntil, if_neg (by omega)] at hlooks ⊢
        change looks = (last - (w.now + interval)) / interval + 1
        have hdiv := Nat.div_eq_sub_div hinterval (show interval ≤ last - w.now by omega)
        rw [Nat.sub_sub] at hdiv
        omega
    · exact .passed (by simp) ⟨hfirst, congrArg Prod.fst hrun⟩

end Answers

/-! ## Waits -/

namespace Command

variable {check : Attempt σ Bool} {p : Patience} {what : String} {w w' : Timed σ}

theorem report_ok_iff {gives : Option Nat} {l : Looking} :
    l.report what gives () = .ok () ↔ l.answer? = some (.ok true) := by
  cases l <;> cases gives <;> simp [Looking.report, Looking.answer?]

theorem report_failure_iff {gives : Option Nat} {l : Looking} {f : Failure} :
    l.report what gives () = .error (.failure f) ↔ l.answer? = some (.error f) := by
  cases l <;> cases gives <;> simp [Looking.report, Looking.answer?]

/-- A wait reports how the looks end that there is time for. -/
theorem await_looksEnd (hcheck : Reads check) (hinterval : 0 < p.interval) (what : String) (w : Timed σ) :
    ∃ done : Looking × Unit × Timed σ, LooksEnd check p.interval (p.last w.now) w done ∧
      outcome (await p what check) w = (done.1.report what (p.givesUp? w.now) (), done.2.2) :=
  ⟨_, look_looksEnd hcheck hinterval _ w rfl, outcome_awaitLearning p what () check.onSecond w⟩

/-- A wait passes at the first look with an answer, if the check passes there. -/
theorem await_ok_iff (hcheck : Reads check) (hinterval : 0 < p.interval) :
    outcome (await p what check) w = (.ok (), w') ↔
      ∃ k, k * p.interval ≤ p.last w.now - w.now ∧ AnswersAt check p.interval w k (.ok true) ∧
        w' = w.atLook p.interval k := by
  obtain ⟨done, hend, hrun⟩ := await_looksEnd hcheck hinterval what w
  rw [hrun, Prod.mk.injEq, report_ok_iff, hend.answer_iff (by simp)]

/-- A wait fails at the first look with an answer, if the check fails there. -/
theorem await_failed_iff {f : Failure} (hcheck : Reads check) (hinterval : 0 < p.interval) :
    outcome (await p what check) w = (.error (.failure f), w') ↔
      ∃ k, k * p.interval ≤ p.last w.now - w.now ∧ AnswersAt check p.interval w k (.error f) ∧
        w' = w.atLook p.interval k := by
  obtain ⟨done, hend, hrun⟩ := await_looksEnd hcheck hinterval what w
  rw [hrun, Prod.mk.injEq, report_failure_iff, hend.answer_iff (by simp)]

end Command

end VolumeMigration
