import VolumeMigration.Failure
/-!
# Attempts

A computation over a state that may fail. What it changed before the failure
stays changed, as objects that were created stay in their cluster.
-/

namespace VolumeMigration

/-- A computation that changes a state of type `σ` and gives a value or fails. -/
abbrev Attempt (σ α : Type) := ExceptT Failure (StateM σ) α

namespace Attempt

variable {σ τ α : Type}

/-- The outcome of an attempt and the state after it. -/
def outcome (a : Attempt σ α) (s : σ) : Result α × σ := a.run.run s

/-- A result that needs no state. -/
def ofResult (r : Result α) : Attempt σ α := ExceptT.mk (pure r)

/-- The outcome of an attempt as a value, so that a failure does not end the rest. -/
def caught (a : Attempt σ α) : Attempt σ (Result α) := ExceptT.mk (do return .ok (← a.run))

/-- An attempt on a part of the state. -/
def within (get : τ → σ) (put : σ → τ → τ) (a : Attempt σ α) : Attempt τ α :=
  ExceptT.mk fun t =>
    let (r, s) := a.outcome (get t)
    (r, put s t)

/-- An attempt on the first of two states. -/
def onFirst (a : Attempt σ α) : Attempt (σ × τ) α := within (·.1) (fun s t => (s, t.2)) a

/-- An attempt on the second of two states. -/
def onSecond (a : Attempt τ α) : Attempt (σ × τ) α := within (·.2) (fun s t => (t.1, s)) a

/-- An attempt that changes `t` on the way, and gives what becomes of it. -/
def changing (t : τ) (a : Attempt (τ × σ) Unit) : Attempt σ τ :=
  ExceptT.mk fun s =>
    let (r, t, s) := a.outcome (t, s)
    (r.map fun _ => t, s)

/-- Makes attempts in order, up to the first that fails. -/
def inOrder : List (Attempt σ Unit) → Attempt σ Unit
  | [] => pure ()
  | a :: as => do
    a
    inOrder as

/-- Makes every part of `resource` in order, whatever becomes of the others, and reports the parts
that failed. -/
def all (resource : String) (parts : List (Attempt σ Unit)) : Attempt σ Unit := do
  let outcomes ← parts.mapM caught
  let failures := outcomes.filterMap fun r => match r with
    | .error f => some f
    | .ok () => none
  ofResult (Failure.checkPartial resource failures)

end Attempt

end VolumeMigration
