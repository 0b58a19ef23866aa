import VolumeMigration.Attempt
/-!
# Waiting

Time is counted in milliseconds on a clock that only waiting moves. While it
moves others change the state, at the times of given events. `look` checks a
state again and again until the check passes, fails, or the time is up.
-/

namespace VolumeMigration

/-- A change that others make to a state once a time has come. -/
structure Event (σ : Type) where
  time : Nat
  change : σ → σ

/-- A state on a clock, with the changes to come in order of their times. -/
structure Timed (σ : Type) where
  state : σ
  now : Nat := 0
  coming : List (Event σ) := []

namespace Timed

variable {σ : Type}

/-- Makes the changes up to a time. -/
def applyUntil (t : Nat) (s : σ) : List (Event σ) → σ × List (Event σ)
  | [] => (s, [])
  | e :: es => if e.time ≤ t then applyUntil t (e.change s) es else (s, e :: es)

/-- The clock moved on to a time. -/
def advance (w : Timed σ) (t : Nat) : Timed σ :=
  let (state, coming) := applyUntil t w.state w.coming
  { state, now := t, coming }

/-- A state with events in any order, at the beginning of time. -/
def start (s : σ) (events : List (Event σ)) : Timed σ :=
  { state := s, coming := events.mergeSort fun a b => a.time ≤ b.time }

end Timed

/-- How looking again and again ended. -/
inductive Looking where
  /-- The check passed. -/
  | passed
  /-- The check failed. -/
  | failed (f : Failure)
  /-- The time was up. -/
  | expired
deriving Repr

/-- Checks a state every `interval` milliseconds until the check passes or fails, or the next check
would be after `last`. There are at most `looks` checks. What a check learns on the way is in `m`. -/
def look {μ σ : Type} (interval last : Nat) (check : Attempt (μ × σ) Bool) :
    Nat → μ → Timed σ → Looking × μ × Timed σ
  | 0, m, w => (.expired, m, w.advance (max w.now last))
  | looks + 1, m, w =>
    let (r, m, state) := check.outcome (m, w.state)
    let w := { w with state }
    match r with
    | .ok true => (.passed, m, w)
    | .error f => (.failed f, m, w)
    | .ok false =>
      if last < w.now + interval then (.expired, m, w.advance (max w.now last))
      else look interval last check looks m (w.advance (w.now + interval))

/-- How many checks there are from one time to another. -/
def looksUntil (interval now last : Nat) : Nat := if interval = 0 then 1 else (last - now) / interval + 1

/-- How one waits: the milliseconds between two checks, the seconds after which one gives up, and
the time at which nobody waits any more. -/
structure Patience where
  interval : Nat
  timeout : Option Nat := none
  horizon : Nat
deriving DecidableEq, Repr

namespace Patience

/-- The default interval. -/
def defaultInterval : Nat := 5000

/-- The milliseconds after which one gives up. -/
def limit (p : Patience) : Option Nat := p.timeout.map (· * 1000)

/-- The last time of a check in a wait that begins now. -/
def last (p : Patience) (now : Nat) : Nat :=
  match p.timeout with
  | some seconds => min (now + seconds * 1000) p.horizon
  | none => p.horizon

/-- The seconds after which a wait that begins now is given up, if that is before the horizon. -/
def givesUp? (p : Patience) (now : Nat) : Option Nat :=
  p.timeout.filter fun seconds => now + seconds * 1000 ≤ p.horizon

end Patience

end VolumeMigration
