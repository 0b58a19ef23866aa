import VolumeMigration.Attempt
/-!
# What attempts come to

An attempt gives an outcome and leaves a state. The equations here take an
attempt apart step by step, so that no later proof looks inside the monad.
-/

/-- Results in a row are a value only if each is. -/
theorem VolumeMigration.Result.bind_eq_ok {α β : Type} {r : Result α} {k : α → Result β} {y : β} :
    r >>= k = .ok y ↔ ∃ x, r = .ok x ∧ k x = .ok y := by
  cases r <;> simp [bind, Except.bind]

namespace VolumeMigration.Attempt

variable {σ τ α β : Type}

@[simp] theorem outcome_pure (x : α) (s : σ) : outcome (pure x : Attempt σ α) s = (.ok x, s) := rfl

@[simp] theorem outcome_throw (f : Failure) (s : σ) : outcome (throw f : Attempt σ α) s = (.error f, s) := rfl

@[simp] theorem outcome_get (s : σ) : outcome (get : Attempt σ σ) s = (.ok s, s) := rfl

@[simp] theorem outcome_set (s s' : σ) : outcome (set s' : Attempt σ PUnit) s = (.ok ⟨⟩, s') := rfl

@[simp] theorem outcome_modify (f : σ → σ) (s : σ) : outcome (modify f : Attempt σ PUnit) s = (.ok ⟨⟩, f s) := rfl

@[simp] theorem outcome_ofResult (r : Result α) (s : σ) : outcome (ofResult r) s = (r, s) := rfl

@[simp] theorem outcome_caught (a : Attempt σ α) (s : σ) :
    outcome (caught a) s = (.ok (outcome a s).1, (outcome a s).2) := rfl

@[simp] theorem outcome_within (get : τ → σ) (put : σ → τ → τ) (a : Attempt σ α) (t : τ) :
    outcome (within get put a) t = ((outcome a (get t)).1, put (outcome a (get t)).2 t) := rfl

@[simp] theorem outcome_onSecond (a : Attempt τ α) (s : σ) (t : τ) :
    outcome (onSecond a : Attempt (σ × τ) α) (s, t) = ((outcome a t).1, (s, (outcome a t).2)) := rfl

@[simp] theorem outcome_onFirst (a : Attempt σ α) (s : σ) (t : τ) :
    outcome (onFirst a : Attempt (σ × τ) α) (s, t) = ((outcome a s).1, ((outcome a s).2, t)) := rfl

theorem outcome_bind (a : Attempt σ α) (k : α → Attempt σ β) (s : σ) :
    outcome (a >>= k) s = match outcome a s with
      | (.ok x, s') => outcome (k x) s'
      | (.error f, s') => (.error f, s') := by
  change (match a.run.run s with | (r, s') => (ExceptT.bindCont k r).run s') = _
  unfold outcome
  rcases a.run.run s with ⟨_ | _, _⟩ <;> rfl

@[simp] theorem outcome_map (f : α → β) (a : Attempt σ α) (s : σ) :
    outcome (f <$> a) s = ((outcome a s).1.map f, (outcome a s).2) := by
  rw [map_eq_pure_bind, outcome_bind]
  rcases outcome a s with ⟨_ | _, _⟩ <;> rfl

/-- After a first step that comes to a value, the rest decides. -/
theorem outcome_bind_ok {a : Attempt σ α} {s s' : σ} {x : α} (h : outcome a s = (.ok x, s'))
    (k : α → Attempt σ β) : outcome (a >>= k) s = outcome (k x) s' := by
  rw [outcome_bind, h]

theorem outcome_of_toOption {a : Attempt σ α} {s : σ} {x : α} (h : (outcome a s).1.toOption = some x) :
    outcome a s = (.ok x, (outcome a s).2) := by
  rcases ha : outcome a s with ⟨f | y, s'⟩
  · rw [ha] at h
    cases h
  · rw [ha] at h
    cases h
    rfl

/-- An attempt that comes to a value with a property. -/
theorem exists_ok_of_any {a : Attempt σ α} {s : σ} {p : α → Bool} (h : (outcome a s).1.toOption.any p = true) :
    ∃ x s', outcome a s = (.ok x, s') ∧ p x = true := by
  obtain ⟨x, hx, hp⟩ := (Option.any_eq_true ..).1 h
  exact ⟨x, _, outcome_of_toOption hx, hp⟩

/-- Steps in a row come to a value only if each does. -/
theorem bind_eq_ok {a : Attempt σ α} {k : α → Attempt σ β} {s s'' : σ} {y : β} :
    outcome (a >>= k) s = (.ok y, s'') ↔
      ∃ x s', outcome a s = (.ok x, s') ∧ outcome (k x) s' = (.ok y, s'') := by
  rw [outcome_bind]
  rcases outcome a s with ⟨f | x, s'⟩
  · simp
  · constructor
    · intro h
      exact ⟨x, s', rfl, h⟩
    · rintro ⟨_, _, h, h'⟩
      cases h
      exact h'

/-- An attempt on the second of two states leaves the first one. -/
theorem onSecond_eq_ok {a : Attempt τ α} {s s' : σ} {t t' : τ} {x : α} :
    outcome (onSecond a : Attempt (σ × τ) α) (s, t) = (.ok x, (s', t')) ↔ s' = s ∧ outcome a t = (.ok x, t') := by
  rw [outcome_onSecond]
  constructor
  · intro h
    obtain ⟨hx, hs⟩ := Prod.mk.inj h
    obtain ⟨rfl, rfl⟩ := Prod.mk.inj hs
    exact ⟨rfl, Prod.ext hx rfl⟩
  · rintro ⟨rfl, h⟩
    rw [h]

/-! ## Attempts that only read -/

/-- An attempt that leaves the state as it is. -/
def Reads (a : Attempt σ α) : Prop := ∀ s, (outcome a s).2 = s

theorem Reads.pure (x : α) : Reads (pure x : Attempt σ α) := fun _ => rfl

theorem Reads.throw (f : Failure) : Reads (throw f : Attempt σ α) := fun _ => rfl

theorem Reads.get : Reads (get : Attempt σ σ) := fun _ => rfl

theorem Reads.ofResult (r : Result α) : Reads (ofResult r : Attempt σ α) := fun _ => rfl

/-- Reading after reading is reading. -/
theorem Reads.bind {a : Attempt σ α} {k : α → Attempt σ β} (ha : Reads a) (hk : ∀ x, Reads (k x)) :
    Reads (a >>= k) := by
  intro s
  have hs := ha s
  rw [outcome_bind]
  rcases h : outcome a s with ⟨f | x, s'⟩
  · rwa [h] at hs
  · rw [h] at hs
    exact (hk x s').trans hs

theorem Reads.onFirst {a : Attempt σ α} (ha : Reads a) : Reads (onFirst a : Attempt (σ × τ) α) := by
  rintro ⟨s, t⟩
  rw [outcome_onFirst, ha s]

theorem Reads.onSecond {a : Attempt τ α} (ha : Reads a) : Reads (onSecond a : Attempt (σ × τ) α) := by
  rintro ⟨s, t⟩
  rw [outcome_onSecond, ha t]

theorem Reads.state_eq {a : Attempt σ α} (ha : Reads a) {s s' : σ} {r : Result α} (h : outcome a s = (r, s')) :
    s' = s := by
  rw [← ha s, h]

end VolumeMigration.Attempt
