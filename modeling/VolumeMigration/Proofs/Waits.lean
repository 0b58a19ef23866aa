import VolumeMigration.Command.Basic
import VolumeMigration.Proofs.Attempts
/-!
# What a wait leaves

The checks of a wait only read, so that the state at its end is what time has
made of the state at its beginning (`Timed.Passes`), which keeps what each
change to come keeps (`Timed.Keeps.passes`). A wait that passed ends on
the state that its last check passed on, and one that failed on the state that
its last check failed on (`look_ends`).
-/

namespace VolumeMigration

open Attempt

/-! ## Clocks -/

/-- A change to the second of two states. -/
def Event.onSecond {σ τ : Type} (e : Event σ) : Event (τ × σ) where
  time := e.time
  change s := (s.1, e.change s.2)

namespace Timed

variable {σ τ : Type} {w w' w'' : Timed σ} {t : Nat}

/-- Time passes, and others make the changes whose time has come. -/
inductive Passes : Timed σ → Timed σ → Prop where
  | refl (w : Timed σ) : Passes w w
  | later {w w' : Timed σ} {t : Nat} (h : w.now ≤ t) (hrest : Passes (w.advance t) w') : Passes w w'

theorem Passes.trans (h : w.Passes w') (h' : w'.Passes w'') : w.Passes w'' := by
  induction h with
  | refl _ => exact h'
  | later hnow _ ih => exact .later hnow (ih h')

theorem passes_advance (h : w.now ≤ t) : w.Passes (w.advance t) := .later h (.refl _)

/-- The state has a property, and the changes that others are still to make keep it. -/
structure Keeps (P : σ → Prop) (w : Timed σ) : Prop where
  state : P w.state
  coming : ∀ e ∈ w.coming, ∀ s, P s → P (e.change s)

section Keeps
variable {P : σ → Prop} {s : σ} {es : List (Event σ)}

theorem keeps_applyUntil (hs : P s) (hes : ∀ e ∈ es, ∀ s, P s → P (e.change s)) (t : Nat) :
    P (applyUntil t s es).1 ∧ ∀ e ∈ (applyUntil t s es).2, ∀ s, P s → P (e.change s) := by
  induction es generalizing s with
  | nil => exact ⟨hs, hes⟩
  | cons e es ih =>
    obtain ⟨he, hrest⟩ := List.forall_mem_cons.1 hes
    unfold applyUntil
    split
    · exact ih (he s hs) hrest
    · exact ⟨hs, hes⟩

theorem Keeps.advance (h : w.Keeps P) (t : Nat) : (w.advance t).Keeps P := by
  obtain ⟨hstate, hcoming⟩ := keeps_applyUntil h.state h.coming t
  exact ⟨hstate, hcoming⟩

/-- What is kept is still so after time has passed. -/
theorem Keeps.passes (h : w.Keeps P) (hpasses : w.Passes w') : w'.Keeps P := by
  induction hpasses with
  | refl _ => exact h
  | later _ _ ih => exact ih (h.advance _)

end Keeps

/-- A state on a clock beside another one that nobody else changes. -/
def beside (w : Timed σ) (s : τ) : Timed (τ × σ) where
  state := (s, w.state)
  now := w.now
  coming := w.coming.map Event.onSecond

theorem applyUntil_beside (t : Nat) (s : τ) (es : List (Event σ)) (x : σ) :
    applyUntil t (s, x) (es.map Event.onSecond) =
      ((s, (applyUntil t x es).1), (applyUntil t x es).2.map Event.onSecond) := by
  induction es generalizing x with
  | nil => rfl
  | cons e es ih =>
    rw [List.map_cons, applyUntil, applyUntil]
    change (if e.time ≤ t then applyUntil t (s, e.change x) (es.map Event.onSecond) else _) = _
    split
    · exact ih (e.change x)
    · rfl

theorem advance_beside (w : Timed σ) (s : τ) (t : Nat) : (w.beside s).advance t = (w.advance t).beside s := by
  unfold advance beside
  rw [applyUntil_beside]

/-- Time changes only the one of two states that others change. -/
theorem Passes.of_beside {s : τ} {u : Timed (τ × σ)} (h : (w.beside s).Passes u) :
    ∃ w', u = w'.beside s ∧ w.Passes w' := by
  generalize hv : w.beside s = v at h
  induction h generalizing w with
  | refl _ => exact ⟨w, hv.symm, .refl w⟩
  | later hnow _ ih =>
    subst hv
    obtain ⟨w', rfl, hpasses⟩ := ih (advance_beside w s _).symm
    exact ⟨w', rfl, .later hnow hpasses⟩

end Timed

/-! ## Checks -/

theorem Attempt.outcome_changing {σ τ : Type} {a : Attempt (τ × σ) Unit} {t t' : τ} {s s' : σ} {r : Result Unit}
    (h : outcome a (t, s) = (r, (t', s'))) : outcome (changing t a) s = (r.map fun _ => t', s') := by
  change ((outcome a (t, s)).1.map fun _ => (outcome a (t, s)).2.1, (outcome a (t, s)).2.2) = _
  rw [h]

section Checks
variable {σ τ μ : Type} {check : Attempt (μ × σ) Bool} {P : μ → Prop}

/-- A check that reads the state and learns something on the way, which keeps a property of what it has learned. -/
structure Attempt.Watches (P : μ → Prop) (check : Attempt (μ × σ) Bool) : Prop where
  reads : ∀ m s, (outcome check (m, s)).2.2 = s
  keeps : ∀ m s m', outcome check (m, s) = (.ok false, (m', s)) → P m → P m'

/-- A check that learns nothing. -/
theorem Attempt.Reads.watches {a : Attempt σ Bool} (h : Reads a) (P : Unit → Prop) :
    Watches P (Attempt.onSecond a : Attempt (Unit × σ) Bool) :=
  ⟨fun _ s => h s, fun _ _ _ _ hm => hm⟩

/-- How looking at a state ended, and what had been learned before the last look. -/
def Looking.At (check : Attempt (μ × σ) Bool) (m₀ : μ) (s : σ) (m : μ) : Looking → Prop
  | passed => outcome check (m₀, s) = (.ok true, (m, s))
  | failed f => outcome check (m₀, s) = (.error f, (m, s))
  | expired => True

/-- Looking again and again ends on the state of the last look, to which time has led. -/
theorem look_ends (hcheck : check.Watches P) (interval last looks : Nat) (m : μ) (w : Timed σ) (hm : P m) :
    let done := look interval last check looks m w
    w.Passes done.2.2 ∧ ∃ m₀, P m₀ ∧ done.1.At check m₀ done.2.2.state done.2.1 := by
  induction looks generalizing m w with
  | zero => exact ⟨Timed.passes_advance (Nat.le_max_left ..), m, hm, True.intro⟩
  | succ looks ih =>
    have hsame := hcheck.reads m w.state
    rcases hrun : outcome check (m, w.state) with ⟨r, m', s⟩
    rw [hrun] at hsame
    obtain rfl : s = w.state := hsame
    simp only [look, hrun]
    match r with
    | .ok true => exact ⟨.refl w, m, hm, hrun⟩
    | .error f => exact ⟨.refl w, m, hm, hrun⟩
    | .ok false =>
      simp only
      have hm' := hcheck.keeps m _ m' hrun hm
      split
      · exact ⟨Timed.passes_advance (Nat.le_max_left ..), m', hm', True.intro⟩
      · obtain ⟨hpasses, hend⟩ := ih m' (w.advance (w.now + interval)) hm'
        exact ⟨.later (Nat.le_add_right ..) hpasses, hend⟩

end Checks

/-! ## Commands -/

/-- How a wait ended, as its command reports it. -/
def Looking.report {μ : Type} (what : String) (givesUp? : Option Nat) (m : μ) :
    Looking → Except CommandFailure μ
  | .passed => .ok m
  | .failed f => .error (.failure f)
  | .expired => .error (givesUp?.elim (.abandoned what) (.timeout what))

namespace Command

variable {σ τ α β μ : Type}

theorem outcome_bind (a : Command σ α) (k : α → Command σ β) (w : Timed σ) :
    outcome (a >>= k) w = match outcome a w with
      | (.ok x, w') => outcome (k x) w'
      | (.error f, w') => (.error f, w') := by
  unfold outcome
  simp only [bind, ExceptT.bind, ExceptT.run, ExceptT.mk, StateT.bind, StateT.run]
  rcases a w with ⟨f | x, w'⟩ <;> rfl

theorem outcome_bind_ok {a : Command σ α} {w w' : Timed σ} {x : α} (h : outcome a w = (.ok x, w'))
    (k : α → Command σ β) : outcome (a >>= k) w = outcome (k x) w' := by
  rw [outcome_bind, h]

theorem outcome_bind_error {a : Command σ α} {w w' : Timed σ} {f : CommandFailure} (h : outcome a w = (.error f, w'))
    (k : α → Command σ β) : outcome (a >>= k) w = (.error f, w') := by
  rw [outcome_bind, h]

/-- What is returned after a command has succeeded. -/
theorem outcome_return_ok_iff {a : Command σ Unit} {x y : α} {w w' : Timed σ} :
    outcome (do a; return x : Command σ α) w = (.ok y, w') ↔ y = x ∧ outcome a w = (.ok (), w') := by
  rw [outcome_bind]
  rcases outcome a w with ⟨f | ⟨⟩, w₁⟩
  · constructor
    · rintro ⟨⟩
    · rintro ⟨-, ⟨⟩⟩
  · constructor
    · rintro ⟨⟩
      exact ⟨rfl, rfl⟩
    · rintro ⟨rfl, ⟨⟩⟩
      rfl

theorem outcome_return_error_iff {a : Command σ Unit} {x : α} {f : CommandFailure} {w w' : Timed σ} :
    outcome (do a; return x : Command σ α) w = (.error f, w') ↔ outcome a w = (.error f, w') := by
  rw [outcome_bind]
  rcases outcome a w with ⟨g | ⟨⟩, w₁⟩
  · constructor
    · rintro ⟨⟩
      rfl
    · rintro ⟨⟩
      rfl
  · constructor <;> rintro ⟨⟩

section Attempts
variable {r : Result α}

theorem outcome_attempt {a : Attempt σ α} {w : Timed σ} {s : σ} (h : Attempt.outcome a w.state = (r, s)) :
    outcome (attempt a) w = (r.mapError .failure, { w with state := s }) := by
  change ((Attempt.outcome a w.state).1.mapError CommandFailure.failure,
    { w with state := (Attempt.outcome a w.state).2 }) = _
  rw [h]

theorem outcome_attempt_same {a : Attempt σ α} {w : Timed σ} (h : Attempt.outcome a w.state = (r, w.state)) :
    outcome (attempt a) w = (r.mapError .failure, w) := outcome_attempt h

theorem outcome_attempt_onSecond {a : Attempt σ α} {w : Timed σ} {x : σ} (s : τ)
    (h : Attempt.outcome a w.state = (r, x)) :
    outcome (attempt (Attempt.onSecond a)) (w.beside s) = (r.mapError .failure, ({ w with state := x }).beside s) := by
  refine outcome_attempt (w := w.beside s) (s := (s, x)) ?_
  rw [show (w.beside s).state = (s, w.state) from rfl, Attempt.outcome_onSecond, h]

theorem outcome_attempt_onFirst {a : Attempt τ α} {s s' : τ} (w : Timed σ) (h : Attempt.outcome a s = (r, s')) :
    outcome (attempt (Attempt.onFirst a)) (w.beside s) = (r.mapError .failure, w.beside s') := by
  refine outcome_attempt (w := w.beside s) (s := (s', w.state)) ?_
  rw [show (w.beside s).state = (s, w.state) from rfl, Attempt.outcome_onFirst, h]

end Attempts

/-- A wait reports how the looks end until the limit or the horizon. -/
theorem outcome_awaitWithin (interval : Nat) (limit : Option Nat) (horizon : Nat) (what : String) (m : μ)
    (check : Attempt (μ × σ) Bool) (w : Timed σ) :
    outcome (awaitWithin interval limit horizon what m check) w =
      let last := limit.elim horizon fun t => min (w.now + t) horizon
      let done := look interval last check (looksUntil interval w.now last) m w
      (done.1.report what ((limit.filter fun t => w.now + t ≤ horizon).map (· / 1000)) done.2.1, done.2.2) := by
  simp only [outcome, awaitWithin, ExceptT.run, ExceptT.mk, StateT.run]
  rcases look interval (limit.elim horizon fun t => min (w.now + t) horizon) check
    (looksUntil interval w.now (limit.elim horizon fun t => min (w.now + t) horizon)) m w with ⟨r, m', u⟩
  cases r with
  | passed | failed f => rfl
  | expired => cases limit.filter fun t => w.now + t ≤ horizon <;> rfl

theorem outcome_awaitLearning (p : Patience) (what : String) (m : μ) (check : Attempt (μ × σ) Bool) (w : Timed σ) :
    outcome (awaitLearning p what m check) w =
      let done := look p.interval (p.last w.now) check (looksUntil p.interval w.now (p.last w.now)) m w
      (done.1.report what (p.givesUp? w.now) done.2.1, done.2.2) := by
  have hlast : (p.limit.elim p.horizon fun t => min (w.now + t) p.horizon) = p.last w.now := by
    unfold Patience.limit Patience.last
    cases p.timeout <;> rfl
  have hgives : (p.limit.filter fun t => w.now + t ≤ p.horizon).map (· / 1000) = p.givesUp? w.now := by
    unfold Patience.limit Patience.givesUp?
    cases p.timeout with
    | none => rfl
    | some seconds =>
      rw [Option.map_some, Option.filter_some, Option.filter_some]
      split <;> simp
  rw [awaitLearning, outcome_awaitWithin, hlast, hgives]

/-- A wait beside a state that nobody else changes leaves it as it is. -/
theorem awaitLearning_ends {check : Attempt (μ × τ × σ) Bool} {P : μ → Prop} (hcheck : check.Watches P) (p : Patience)
    (what : String) {m : μ} (hm : P m) (w : Timed σ) (s : τ) :
    ∃ r w' m₀, outcome (awaitLearning p what m check) (w.beside s) = (r, w'.beside s) ∧ w.Passes w' ∧ P m₀ ∧
      (∀ m', r = .ok m' → Attempt.outcome check (m₀, (s, w'.state)) = (.ok true, (m', (s, w'.state)))) ∧
      ∀ f, r = .error (.failure f) → (Attempt.outcome check (m₀, (s, w'.state))).1 = .error f := by
  rw [outcome_awaitLearning]
  obtain ⟨hpasses, m₀, hm₀, hend⟩ := look_ends hcheck p.interval (p.last (w.beside s).now)
    (looksUntil p.interval (w.beside s).now (p.last (w.beside s).now)) m (w.beside s) hm
  rcases hlook : look p.interval (p.last (w.beside s).now) check
    (looksUntil p.interval (w.beside s).now (p.last (w.beside s).now)) m (w.beside s) with ⟨r, m', u⟩
  rw [hlook] at hpasses hend
  obtain ⟨w', rfl, hpasses'⟩ := hpasses.of_beside
  refine ⟨r.report what (p.givesUp? (w.beside s).now) m', w', m₀, rfl, hpasses', hm₀, ?_⟩
  cases r with
  | passed =>
    refine ⟨fun m'' he => ?_, fun f he => nomatch he⟩
    cases he
    exact hend
  | failed f =>
    refine ⟨fun m'' he => (nomatch he), fun f' he => ?_⟩
    cases he
    exact congrArg Prod.fst hend
  | expired =>
    cases p.givesUp? (w.beside s).now <;> exact ⟨fun m'' he => (nomatch he), fun f he => nomatch he⟩

theorem await_ends {check : Attempt (τ × σ) Bool} (hcheck : Reads check) (p : Patience) (what : String) (w : Timed σ)
    (s : τ) : ∃ r w', outcome (await p what check) (w.beside s) = (r, w'.beside s) ∧ w.Passes w' ∧
      (r = .ok () → Attempt.outcome check (s, w'.state) = (.ok true, (s, w'.state))) ∧
      ∀ f, r = .error (.failure f) → (Attempt.outcome check (s, w'.state)).1 = .error f := by
  obtain ⟨r, w', m₀, hrun, hpasses, -, hpassed, hfailed⟩ :=
    awaitLearning_ends (hcheck.watches fun _ => True) p what (m := ()) True.intro w s
  refine ⟨r, w', hrun, hpasses, fun hr => ?_, hfailed⟩
  have hlast := hpassed () hr
  rw [Attempt.outcome_onSecond] at hlast
  exact Prod.ext (congrArg (·.1) hlast) (congrArg (·.2.2) hlast)

end Command

end VolumeMigration
