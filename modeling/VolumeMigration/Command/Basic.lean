import VolumeMigration.Waiting
/-!
# Commands

A command works on clusters and waits in between, while others go on changing
the clusters. It may fail, or give up waiting.
-/

namespace VolumeMigration

/-- Why a command ended early. -/
inductive CommandFailure where
  | failure (cause : Failure)
  /-- A wait took longer than the given seconds. -/
  | timeout (what : String) (seconds : Nat)
  /-- Nobody waits any more. -/
  | abandoned (what : String)
  /-- A file that cannot be read. -/
  | unreadable (path : String)
  | invalidConfig (path message : String)
deriving Repr, Inhabited

namespace CommandFailure

def message : CommandFailure → String
  | failure cause => cause.message
  | timeout what seconds => s!"timed out after {seconds}s waiting for {what}"
  | abandoned what => s!"nobody waits any longer for {what}"
  | unreadable path => s!"cannot read {path}"
  | invalidConfig path message => s!"invalid config {path}: {message}"

end CommandFailure

/-- A computation over a state on a clock that takes time. -/
abbrev Command (σ α : Type) := ExceptT CommandFailure (StateM (Timed σ)) α

namespace Command

variable {σ α μ : Type}

/-- The outcome of a command and the state after it. -/
def outcome (c : Command σ α) (w : Timed σ) : Except CommandFailure α × Timed σ := c.run.run w

/-- An attempt, which takes no time. -/
def attempt (a : Attempt σ α) : Command σ α := ExceptT.mk fun w =>
  let (r, state) := a.outcome w.state
  (r.mapError .failure, { w with state })

/-- Waits until a check passes that is made at once and after every interval. After `limit`
milliseconds one gives up, if there is a limit, and nobody waits beyond the horizon. Gives what the
checks have learned from `m` on. -/
def awaitWithin (interval : Nat) (limit : Option Nat) (horizon : Nat) (what : String) (m : μ)
    (check : Attempt (μ × σ) Bool) : Command σ μ :=
  ExceptT.mk fun w =>
    let last := limit.elim horizon fun t => min (w.now + t) horizon
    let (r, m, after) := look interval last check (looksUntil interval w.now last) m w
    let outcome := match r, limit.filter fun t => w.now + t ≤ horizon with
      | .passed, _ => .ok m
      | .failed f, _ => .error (.failure f)
      | .expired, some t => .error (.timeout what (t / 1000))
      | .expired, none => .error (.abandoned what)
    (outcome, after)

/-- Waits until a check passes, and gives what the checks have learned from `m` on. -/
def awaitLearning (p : Patience) (what : String) (m : μ) (check : Attempt (μ × σ) Bool) : Command σ μ :=
  awaitWithin p.interval p.limit p.horizon what m check

/-- Waits until a check passes. -/
def await (p : Patience) (what : String) (check : Attempt σ Bool) : Command σ Unit :=
  awaitLearning p what () check.onSecond

end Command

end VolumeMigration
