import VolumeMigration.Proofs.Waits
/-!
# Waits with a limit

What a wait is to do is a relation between where it begins, the calls of its
check with their times, and where it ends (`Polls`): the check is made at once
and after every interval, until it passes or fails, or until the limit is over
while one waits for the next check. A check that is due at the limit is still
made, and there is one such run (`Polls.unique`). A wait does just this if its end lies within the horizon
(`Command.awaitWithin_polls`), so that its calls and its end follow from the
first answer of the check alone (`Command.awaitWithin_bounded`).
-/

namespace VolumeMigration

open Attempt

variable {μ σ : Type} {check : Attempt (μ × σ) Bool} {interval : Nat} {deadline : Option Nat} {s : μ × Timed σ}

/-! ## Checks in a row -/

/-- What a check comes to, and what it leaves. -/
def checked (check : Attempt (μ × σ) Bool) (s : μ × Timed σ) : Result Bool × (μ × Timed σ) :=
  let (r, m, state) := check.outcome (s.1, s.2.state)
  (r, m, { s.2 with state })

/-- What there is at the next check. -/
def afterInterval (interval : Nat) (s : μ × Timed σ) : μ × Timed σ := (s.1, s.2.advance (s.2.now + interval))

/-- What there is at the check with the given number, where the first check is number 0. -/
def atCheck (check : Attempt (μ × σ) Bool) (interval : Nat) : Nat → μ × Timed σ → μ × Timed σ
  | 0, s => s
  | k + 1, s => atCheck check interval k (afterInterval interval (checked check s).2)

/-- What the check with the given number comes to. -/
def answer (check : Attempt (μ × σ) Bool) (interval : Nat) (s : μ × Timed σ) (k : Nat) : Result Bool :=
  (checked check (atCheck check interval k s)).1

/-- The first `n` calls of the check, each with its time. -/
def calls (check : Attempt (μ × σ) Bool) (interval : Nat) (s : μ × Timed σ) (n : Nat) : List (Nat × Result Bool) :=
  (List.range n).map fun k => (s.2.now + k * interval, answer check interval s k)

/-- The check with the given number is the first that passes or fails. -/
structure FirstAnswer (check : Attempt (μ × σ) Bool) (interval : Nat) (s : μ × Timed σ) (k : Nat) (r : Result Bool) :
    Prop where
  waited : ∀ j < k, answer check interval s j = .ok false
  answer_eq : answer check interval s k = r
  ne : r ≠ .ok false

theorem now_checked (check : Attempt (μ × σ) Bool) (s : μ × Timed σ) : (checked check s).2.2.now = s.2.now := rfl

theorem now_afterInterval (interval : Nat) (s : μ × Timed σ) :
    (afterInterval interval s).2.now = s.2.now + interval := rfl

theorem now_atCheck (check : Attempt (μ × σ) Bool) (interval k : Nat) (s : μ × Timed σ) :
    (atCheck check interval k s).2.now = s.2.now + k * interval := by
  induction k generalizing s with
  | zero => simp [atCheck]
  | succ k ih =>
    rw [atCheck, ih, now_afterInterval, now_checked, Nat.succ_mul]
    omega

theorem calls_one : calls check interval s 1 = [(s.2.now, answer check interval s 0)] := by
  simp [calls]

theorem calls_succ (n : Nat) : calls check interval s (n + 1) = (s.2.now, answer check interval s 0) ::
    calls check interval (afterInterval interval (checked check s).2) n := by
  unfold calls
  rw [List.range_succ_eq_map, List.map_cons, List.map_map, Nat.zero_mul, Nat.add_zero]
  congr 1
  apply List.map_congr_left
  intro k _
  rw [now_afterInterval, now_checked, Function.comp_apply, Nat.succ_mul, Nat.add_assoc, Nat.add_comm interval]
  rfl

theorem FirstAnswer.tail {k : Nat} {r : Result Bool} (h : FirstAnswer check interval s (k + 1) r) :
    FirstAnswer check interval (afterInterval interval (checked check s).2) k r :=
  ⟨fun j hj => h.waited (j + 1) (by omega), h.answer_eq, h.ne⟩

/-- There is one first answer. -/
theorem FirstAnswer.unique {k k' : Nat} {r r' : Result Bool} (h : FirstAnswer check interval s k r)
    (h' : FirstAnswer check interval s k' r') : k = k' ∧ r = r' := by
  rcases Nat.lt_trichotomy k k' with hlt | rfl | hgt
  · exact absurd (h.answer_eq.symm.trans (h'.waited k hlt)) h.ne
  · exact ⟨rfl, h.answer_eq.symm.trans h'.answer_eq⟩
  · exact absurd (h'.answer_eq.symm.trans (h.waited k' hgt)) h'.ne

/-- Either no check passes or fails up to a number, or there is a first that does. -/
theorem waits_or_firstAnswer (check : Attempt (μ × σ) Bool) (interval : Nat) (s : μ × Timed σ) (n : Nat) :
    (∀ j < n, answer check interval s j = .ok false) ∨ ∃ k < n, ∃ r, FirstAnswer check interval s k r := by
  induction n with
  | zero => exact .inl fun j hj => absurd hj (Nat.not_lt_zero j)
  | succ n ih =>
    rcases ih with hwaits | ⟨k, hk, hfirst⟩
    · by_cases hn : answer check interval s n = .ok false
      · refine .inl fun j hj => ?_
        rcases Nat.lt_succ_iff_lt_or_eq.1 hj with hj | rfl
        · exact hwaits j hj
        · exact hn
      · exact .inr ⟨n, n.lt_succ_self, _, hwaits, rfl, hn⟩
    · exact .inr ⟨k, Nat.lt_succ_of_lt hk, hfirst⟩

/-! ## Polling -/

/-- A run of checks with a deadline or without one: its calls, and the answer in the end with what is
there then. Without an answer the deadline was over first. -/
inductive Polls (check : Attempt (μ × σ) Bool) (interval : Nat) (deadline : Option Nat) :
    μ × Timed σ → List (Nat × Result Bool) → Option (Result Bool) × μ × Timed σ → Prop where
  | answered {s s' : μ × Timed σ} {r : Result Bool} (h : checked check s = (r, s')) (hr : r ≠ .ok false) :
    Polls check interval deadline s [(s.2.now, r)] (some r, s')
  | late {s s' : μ × Timed σ} {d : Nat} (h : checked check s = (.ok false, s')) (hd : deadline = some d)
    (hlate : d < s.2.now + interval) :
    Polls check interval deadline s [(s.2.now, .ok false)] (none, s'.1, s'.2.advance (max s.2.now d))
  | again {s s' : μ × Timed σ} {cs : List (Nat × Result Bool)} {done : Option (Result Bool) × μ × Timed σ}
    (h : checked check s = (.ok false, s')) (htime : ∀ d, deadline = some d → s.2.now + interval ≤ d)
    (hrest : Polls check interval deadline (afterInterval interval s') cs done) :
    Polls check interval deadline s ((s.2.now, .ok false) :: cs) done

namespace Polls

variable {cs : List (Nat × Result Bool)} {done : Option (Result Bool) × μ × Timed σ} {k d : Nat} {r : Result Bool}

/-- There is one run. -/
theorem unique (h : Polls check interval deadline s cs done) :
    ∀ {cs' done'}, Polls check interval deadline s cs' done' → cs' = cs ∧ done' = done := by
  induction h with
  | answered h hr =>
    rintro cs' done' (⟨h', -⟩ | ⟨h', -, -⟩ | ⟨h', -, -⟩)
    · cases h.symm.trans h'
      exact ⟨rfl, rfl⟩
    all_goals
      cases h.symm.trans h'
      exact absurd rfl hr
  | late h hd hlate =>
    rintro cs' done' (⟨h', hr⟩ | ⟨h', hd', -⟩ | ⟨h', htime, -⟩)
    · cases h.symm.trans h'
      exact absurd rfl hr
    · cases h.symm.trans h'
      cases hd.symm.trans hd'
      exact ⟨rfl, rfl⟩
    · exact absurd (htime _ hd) (Nat.not_le.2 hlate)
  | again h htime _ ih =>
    rintro cs' done' (⟨h', hr⟩ | ⟨h', hd, hlate⟩ | ⟨h', -, hrest⟩)
    · cases h.symm.trans h'
      exact absurd rfl hr
    · exact absurd (htime _ hd) (Nat.not_le.2 hlate)
    · cases h.symm.trans h'
      obtain ⟨rfl, rfl⟩ := ih hrest
      exact ⟨rfl, rfl⟩

/-- Of a run that goes on, the last call is made when that of the rest is. -/
theorem calls_le_of_rest {s' : μ × Timed σ} {bound : Nat} (h : checked check s = (.ok false, s'))
    (hrest : Polls check interval deadline (afterInterval interval s') cs done)
    (hle : (afterInterval interval s').2.now + (cs.length - 1) * interval ≤ bound) :
    s.2.now + (((s.2.now, Except.ok false) :: cs).length - 1) * interval ≤ bound := by
  have hne : 0 < cs.length := by cases hrest <;> simp
  have hnow : s'.2.now = s.2.now := by rw [← now_checked check s, h]
  obtain ⟨n, hn⟩ := Nat.exists_eq_succ_of_ne_zero (Nat.ne_of_gt hne)
  rw [now_afterInterval, hnow, hn] at hle
  rw [List.length_cons, hn, Nat.add_sub_cancel, Nat.succ_mul]
  simp only [Nat.succ_sub_one] at hle
  omega

/-- The last call is made before the end. -/
theorem calls_le_end (h : Polls check interval deadline s cs done) :
    s.2.now + (cs.length - 1) * interval ≤ done.2.2.now := by
  induction h with
  | answered h _ =>
    rw [← now_checked check, h]
    simp
  | @late s _ d _ _ _ =>
    rw [List.length_singleton, Nat.sub_self, Nat.zero_mul, Nat.add_zero]
    exact Nat.le_max_left s.2.now d
  | again h _ hrest ih => exact calls_le_of_rest h hrest ih

/-- The last call is made before the deadline. -/
theorem calls_le_deadline (h : Polls check interval deadline s cs done) (hd : deadline = some d) (hs : s.2.now ≤ d) :
    s.2.now + (cs.length - 1) * interval ≤ d := by
  induction h with
  | answered | late => simpa using hs
  | @again s s' cs done h htime hrest ih =>
    have hnow : s'.2.now = s.2.now := by rw [← now_checked check s, h]
    refine calls_le_of_rest h hrest (ih ?_)
    rw [now_afterInterval, hnow]
    exact htime d hd

/-- A run without an answer ends at its deadline. -/
theorem deadline_of_none (h : Polls check interval deadline s cs done) (hnone : done.1 = none) :
    ∃ d, deadline = some d ∧ d ≤ done.2.2.now := by
  induction h with
  | answered => cases hnone
  | @late s _ d _ hd _ => exact ⟨d, hd, Nat.le_max_right s.2.now d⟩
  | again _ _ _ ih => exact ih hnone

/-- The run that ends with the first answer, which comes in time. -/
theorem of_firstAnswer (h : FirstAnswer check interval s k r)
    (htime : ∀ d, deadline = some d → s.2.now + k * interval ≤ d) :
    Polls check interval deadline s (calls check interval s (k + 1))
      (some r, (checked check (atCheck check interval k s)).2) := by
  induction k generalizing s with
  | zero =>
    rw [calls_one, h.answer_eq]
    exact .answered (Prod.ext h.answer_eq rfl) h.ne
  | succ k ih =>
    have hfirst := h.waited 0 k.succ_pos
    rw [calls_succ, hfirst]
    refine .again (Prod.ext hfirst rfl) (fun d hd => ?_) (ih h.tail fun d hd => ?_)
    · have := htime d hd
      rw [Nat.succ_mul] at this
      omega
    · have := htime d hd
      rw [Nat.succ_mul] at this
      rw [now_afterInterval, now_checked]
      omega

/-- The run without an answer in time, which ends at the deadline. -/
theorem of_waits {n : Nat} (hinterval : 0 < interval) (hs : s.2.now ≤ d) (hn : n = (d - s.2.now) / interval)
    (hwaits : ∀ j ≤ n, answer check interval s j = .ok false) :
    ∃ s', Polls check interval (some d) s (calls check interval s (n + 1)) (none, s') ∧ s'.2.now = d := by
  -- By induction on the number of intervals before the deadline; after one of them there is one less.
  induction n generalizing s with
  | zero =>
    have hfirst := hwaits 0 (Nat.le_refl 0)
    have hlate : d < s.2.now + interval := by
      have := (Nat.div_eq_zero_iff_lt hinterval).1 hn.symm
      omega
    rw [calls_one, hfirst]
    exact ⟨_, .late (Prod.ext hfirst rfl) rfl hlate, Nat.max_eq_right hs⟩
  | succ n ih =>
    have hfirst := hwaits 0 (Nat.zero_le _)
    have htime : interval ≤ d - s.2.now := by
      apply Nat.le_of_not_lt
      intro hlt
      rw [Nat.div_eq_of_lt hlt] at hn
      cases hn
    have hdiv := Nat.div_eq_sub_div hinterval htime
    obtain ⟨s', hrest, hend⟩ := ih (s := afterInterval interval (checked check s).2)
      (by rw [now_afterInterval, now_checked]; omega)
      (by rw [now_afterInterval, now_checked, ← Nat.sub_sub]; omega) fun j hj => hwaits (j + 1) (by omega)
    refine ⟨s', ?_, hend⟩
    rw [calls_succ, hfirst]
    refine .again (Prod.ext hfirst rfl) (fun d' hd => ?_) hrest
    cases hd
    omega

end Polls

/-! ## Waiting -/

/-- How a run of checks ended, as looking again and again reports it. -/
def Looking.ofAnswer : Option (Result Bool) → Looking
  | some (.ok _) => .passed
  | some (.error f) => .failed f
  | none => .expired

/-- Looks until the deadline or the horizon go as the run of checks that ends before the horizon. -/
theorem look_of_polls {cs : List (Nat × Result Bool)} {done : Option (Result Bool) × μ × Timed σ} {horizon looks : Nat}
    (h : Polls check interval deadline s cs done) (hend : done.2.2.now ≤ horizon) (hlooks : cs.length ≤ looks) :
    look interval (deadline.elim horizon (min · horizon)) check looks s.1 s.2 = (Looking.ofAnswer done.1, done.2) := by
  induction h generalizing looks with
  | @answered s s' r h hr =>
    obtain ⟨looks, rfl⟩ := Nat.exists_eq_succ_of_ne_zero (Nat.ne_of_gt hlooks)
    rw [look]
    unfold checked at h
    rcases hrun : outcome check (s.1, s.2.state) with ⟨r', m, state⟩
    rw [hrun] at h
    obtain ⟨rfl, rfl⟩ := Prod.mk.inj h
    cases r' with
    | error f => rfl
    | ok b =>
      cases b with
      | true => rfl
      | false => exact absurd rfl hr
  | @late s s' d h hd hlate =>
    obtain ⟨looks, rfl⟩ := Nat.exists_eq_succ_of_ne_zero (Nat.ne_of_gt hlooks)
    have hhorizon : d ≤ horizon := Nat.le_trans (Nat.le_max_right s.2.now d) hend
    rw [look]
    unfold checked at h
    rcases hrun : outcome check (s.1, s.2.state) with ⟨_, m, state⟩
    rw [hrun] at h
    obtain ⟨rfl, rfl⟩ := Prod.mk.inj h
    simp only [hd, Option.elim_some, Nat.min_eq_left hhorizon, if_pos hlate]
    rfl
  | @again s s' cs done h htime hrest ih =>
    obtain ⟨looks, rfl⟩ := Nat.exists_eq_succ_of_ne_zero (Nat.ne_of_gt (Nat.lt_of_lt_of_le (Nat.succ_pos _) hlooks))
    have hnow : s'.2.now = s.2.now := by rw [← now_checked check s, h]
    have hnext : s.2.now + interval ≤ deadline.elim horizon (min · horizon) := by
      have hbefore := hrest.calls_le_end
      rw [now_afterInterval, hnow] at hbefore
      cases deadline with
      | none =>
        simp only [Option.elim_none]
        omega
      | some d =>
        have := htime d rfl
        simp only [Option.elim_some]
        omega
    have hgo := ih hend (Nat.le_of_succ_le_succ hlooks)
    rw [look]
    unfold checked at h
    rcases hrun : outcome check (s.1, s.2.state) with ⟨_, m, state⟩
    rw [hrun] at h
    obtain ⟨rfl, rfl⟩ := Prod.mk.inj h
    simp only [if_neg (Nat.not_lt.2 hnext)]
    exact hgo

namespace Command

/-- How a run of checks ended, as its wait reports it: with what was learned, with the failure of the
check as it came, or with the whole seconds of the limit. -/
def reported (what : String) (limit : Option Nat) : Option (Result Bool) × μ → Except CommandFailure μ
  | (some (.ok _), m) => .ok m
  | (some (.error f), _) => .error (.failure f)
  | (none, _) => .error (.timeout what (limit.getD 0 / 1000))

/-- A wait that ends before the horizon goes as its run of checks. -/
theorem awaitWithin_polls {limit : Option Nat} {m : μ} {w : Timed σ} {cs : List (Nat × Result Bool)}
    {done : Option (Result Bool) × μ × Timed σ} {horizon : Nat} (hinterval : 0 < interval) (what : String)
    (h : Polls check interval (limit.map (w.now + ·)) (m, w) cs done) (hend : done.2.2.now ≤ horizon) :
    outcome (awaitWithin interval limit horizon what m check) w =
      (reported what limit (done.1, done.2.1), done.2.2) := by
  have hlast : (limit.map (w.now + ·)).elim horizon (min · horizon) =
      limit.elim horizon fun t => min (w.now + t) horizon := by
    cases limit <;> rfl
  have hlooks : cs.length ≤ looksUntil interval w.now (limit.elim horizon fun t => min (w.now + t) horizon) := by
    have hbefore := h.calls_le_end
    have hspan : (cs.length - 1) * interval ≤ (limit.elim horizon fun t => min (w.now + t) horizon) - w.now := by
      cases limit with
      | none =>
        simp only [Option.elim_none]
        change w.now + _ ≤ _ at hbefore
        omega
      | some t =>
        have hdeadline := h.calls_le_deadline (d := w.now + t) rfl (Nat.le_add_right w.now t)
        simp only [Option.elim_some]
        change w.now + _ ≤ _ at hbefore hdeadline
        omega
    rw [looksUntil, if_neg (Nat.ne_of_gt hinterval)]
    have := (Nat.le_div_iff_mul_le hinterval).2 hspan
    omega
  have hlook := look_of_polls h hend hlooks
  rw [hlast] at hlook
  rw [outcome_awaitWithin]
  simp only [hlook]
  rcases done with ⟨_ | _ | _, m', w'⟩
  · obtain ⟨d, hd, ht⟩ := h.deadline_of_none rfl
    obtain ⟨t, rfl, rfl⟩ := Option.map_eq_some_iff.1 hd
    rw [Option.filter_some, if_pos (by simpa using Nat.le_trans ht hend)]
    rfl
  · rfl
  · rfl

/-- How a wait goes that makes `n` checks, at once and after every interval, and is over after `t`
milliseconds: what it reports is the same for every horizon that is not before its end. -/
structure EndsAfter (check : Attempt (μ × σ) Bool) (interval : Nat) (limit : Option Nat) (what : String) (m : μ)
    (w : Timed σ) (n t : Nat) (report : μ → Except CommandFailure μ) (s' : μ × Timed σ) : Prop where
  polls : ∃ a, Polls check interval (limit.map (w.now + ·)) (m, w) (calls check interval (m, w) n) (a, s')
  ended : s'.2.now = w.now + t
  outcome_eq : ∀ horizon, w.now + t ≤ horizon →
    outcome (awaitWithin interval limit horizon what m check) w = (report s'.1, s'.2)

/-- A check with an answer in time is the last one, and its answer is reported. -/
theorem endsAfter_answer {limit : Option Nat} {m : μ} {w : Timed σ} {k : Nat} {r : Result Bool}
    (hinterval : 0 < interval)
    (what : String) (h : FirstAnswer check interval (m, w) k r) (htime : ∀ t, limit = some t → k * interval ≤ t) :
    EndsAfter check interval limit what m w (k + 1) (k * interval) (fun m' => reported what limit (some r, m'))
      (checked check (atCheck check interval k (m, w))).2 := by
  have hpolls : Polls check interval (limit.map (w.now + ·)) (m, w) _ _ := .of_firstAnswer h fun d hd => by
    obtain ⟨t, ht, rfl⟩ := Option.map_eq_some_iff.1 hd
    exact Nat.add_le_add_left (htime t ht) w.now
  have hend : (checked check (atCheck check interval k (m, w))).2.2.now = w.now + k * interval := by
    rw [now_checked, now_atCheck]
  exact ⟨⟨_, hpolls⟩, hend, fun horizon hhorizon => awaitWithin_polls hinterval what hpolls (hend ▸ hhorizon)⟩

/-- Without an answer in time the checks up to the limit are made, and the limit is reported. -/
theorem endsAfter_limit {m : μ} {w : Timed σ} {t : Nat} (hinterval : 0 < interval) (what : String)
    (h : ∀ k r, FirstAnswer check interval (m, w) k r → t < k * interval) :
    ∃ s', EndsAfter check interval (some t) what m w (t / interval + 1) t
      (fun _ => .error (.timeout what (t / 1000))) s' := by
  have hwaits : ∀ j ≤ t / interval, answer check interval (m, w) j = .ok false := by
    rcases waits_or_firstAnswer check interval (m, w) (t / interval + 1) with hwaits | ⟨k, hk, r, hfirst⟩
    · exact fun j hj => hwaits j (Nat.lt_succ_of_le hj)
    · exact absurd ((Nat.le_div_iff_mul_le hinterval).1 (Nat.le_of_lt_succ hk)) (Nat.not_le.2 (h k r hfirst))
  have hspan : t / interval = (w.now + t - w.now) / interval := by rw [Nat.add_sub_cancel_left]
  obtain ⟨s', hrun, hend⟩ := Polls.of_waits (s := (m, w)) hinterval (Nat.le_add_right w.now t) hspan hwaits
  have hpolls : Polls check interval ((some t).map (w.now + ·)) (m, w) (calls check interval (m, w) (t / interval + 1))
      (none, s') := hrun
  exact ⟨s', ⟨_, hpolls⟩, hend, fun horizon hhorizon => awaitWithin_polls hinterval what hpolls (hend ▸ hhorizon)⟩

/-- Whatever the check, the state and the changes that others make to it: the first answer of the
checks that are made at once and after every interval is the answer of the wait, unless the limit comes
before it. With a limit the wait ends in any case. -/
theorem awaitWithin_bounded (check : Attempt (μ × σ) Bool) (hinterval : 0 < interval) (limit : Option Nat)
    (what : String) (m : μ) (w : Timed σ) :
    (∀ k, FirstAnswer check interval (m, w) k (.ok true) → (∀ t, limit = some t → k * interval ≤ t) →
      ∃ s', EndsAfter check interval limit what m w (k + 1) (k * interval) .ok s') ∧
    (∀ k f, FirstAnswer check interval (m, w) k (.error f) → (∀ t, limit = some t → k * interval ≤ t) →
      ∃ s', EndsAfter check interval limit what m w (k + 1) (k * interval) (fun _ => .error (.failure f)) s') ∧
    ∀ t, limit = some t → (∀ k r, FirstAnswer check interval (m, w) k r → t < k * interval) →
      ∃ s', EndsAfter check interval limit what m w (t / interval + 1) t
        (fun _ => .error (.timeout what (t / 1000))) s' := by
  refine ⟨fun k h htime => ⟨_, endsAfter_answer hinterval what h htime⟩,
    fun k f h htime => ⟨_, endsAfter_answer hinterval what h htime⟩, ?_⟩
  rintro t rfl h
  exact endsAfter_limit hinterval what h

/-! ## Checks with given answers -/

/-- A check that comes to given answers in turn, and counts its calls. -/
def inTurn (answers : Nat → Result Bool) : Attempt (Nat × σ) Bool := do
  let (n, s) ← get
  set (n + 1, s)
  ofResult (answers n)

theorem count_atCheck_inTurn (answers : Nat → Result Bool) (interval k n : Nat) (w : Timed σ) :
    (atCheck (inTurn answers) interval k (n, w)).1 = n + k := by
  induction k generalizing n w with
  | zero => rfl
  | succ k ih =>
    have hnext : afterInterval interval (checked (inTurn answers) (n, w)).2 = (n + 1, w.advance (w.now + interval)) :=
      rfl
    rw [atCheck, hnext, ih]
    omega

/-- Every sequence of answers is that of a check. -/
theorem answer_inTurn (answers : Nat → Result Bool) (interval k : Nat) (w : Timed σ) :
    answer (inTurn answers) interval (0, w) k = answers k := by
  have hcount := count_atCheck_inTurn answers interval k 0 w
  rw [Nat.zero_add] at hcount
  change answers (atCheck (inTurn answers) interval k (0, w)).1 = answers k
  rw [hcount]

/-- The third check passes. -/
def third (k : Nat) : Result Bool := .ok (2 ≤ k)

theorem firstAnswer_third : FirstAnswer (inTurn third) 5000 (0, ({ state := () } : Timed Unit)) 2 (.ok true) := by
  refine ⟨fun j hj => ?_, answer_inTurn third 5000 2 _, by simp⟩
  rw [answer_inTurn, third, decide_eq_false (Nat.not_le.2 hj)]

/-- A check at the limit counts, and a limit just before it does not leave time for it. -/
theorem awaitWithin_bounded_third : 0 < 5000 ∧
    (∃ s', EndsAfter (inTurn third) 5000 (some 10000) "the pods" 0 ({ state := () } : Timed Unit) 3 10000 .ok s') ∧
    ∃ s', EndsAfter (inTurn third) 5000 (some 9999) "the pods" 0 ({ state := () } : Timed Unit) 2 9999
      (fun _ => .error (.timeout "the pods" 9)) s' := by
  refine ⟨by decide,
    (awaitWithin_bounded (inTurn third) (by decide) (some 10000) "the pods" 0 _).1 2 firstAnswer_third ?_,
    (awaitWithin_bounded (inTurn third) (by decide) (some 9999) "the pods" 0 _).2.2 9999 rfl fun k r hk => ?_⟩
  · rintro t ⟨⟩
    decide
  · obtain ⟨rfl, -⟩ := hk.unique firstAnswer_third
    decide

end Command

end VolumeMigration
