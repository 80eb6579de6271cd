import Almanac.Ledger.Error

/-!
# Almanac.Proofs.Outcome

When a chain of operations that can fail has a result: each one has a result, and the next one goes
on from it.  The operations of calendar and ledger are opened with these laws, so that their proofs
do not look into the monad.
-/

namespace Almanac.Outcome

variable {ε ε' α β : Type}

/-- A chain has a result when its first part has one and the rest has one from there. -/
theorem bind_eq_ok_iff {x : Except ε α} {f : α → Except ε β} {b : β} :
    (x >>= f) = .ok b ↔ ∃ a, x = .ok a ∧ f a = .ok b := by
  cases x <;> simp [bind, Except.bind]

/-- A chain ends with its first failure. -/
theorem error_bind {e : ε} {f : α → Except ε β} : (Except.error e >>= f) = .error e := rfl

theorem ok_bind {a : α} {f : α → Except ε β} : (Except.ok a >>= f) = f a := rfl

theorem pure_eq_ok_iff {a b : α} : (pure a : Except ε α) = .ok b ↔ a = b := by
  simp [pure, Except.pure]

/-- A failure is no result. -/
theorem throw_ne_ok {e : ε} {a : α} : (throw e : Except ε α) ≠ .ok a := by
  intro h
  have hok : Except.error e = Except.ok a := h
  contradiction

/-- A guard passes when its condition does not hold. -/
theorem guard_eq_ok_iff {γ : Type} {c : Prop} [Decidable c] {e : ε} {f : γ → Except ε α}
    {x : Except ε α} {a : α} :
    (if c then (throw e : Except ε γ) >>= f else x) = .ok a ↔ ¬ c ∧ x = .ok a := by
  by_cases hc : c <;> simp [hc, bind_eq_ok_iff, throw_ne_ok]

/-- A requirement is met when its condition holds. -/
theorem require_eq_ok_iff {c : Prop} [Decidable c] {e : ε} {x : Except ε α} {a : α} :
    (if c then x else throw e) = .ok a ↔ c ∧ x = .ok a := by
  by_cases hc : c <;> simp [hc, throw_ne_ok]

/-- A result is passed on when there is one. -/
theorem map_eq_ok_iff {x : Except ε α} {f : α → β} {b : β} :
    x.map f = .ok b ↔ ∃ a, x = .ok a ∧ f a = b := by
  cases x <;> simp [Except.map]

/-- Passing on a result leaves a failure as it is. -/
theorem map_eq_error_iff {x : Except ε α} {f : α → β} {e : ε} :
    x.map f = .error e ↔ x = .error e := by
  cases x <;> simp [Except.map]

/-- A result does not depend on how errors are reported. -/
theorem mapError_eq_ok_iff {x : Except ε α} {f : ε → ε'} {a : α} :
    x.mapError f = .ok a ↔ x = .ok a := by
  cases x with
  | error e =>
      show Except.error (f e) = .ok a ↔ Except.error e = .ok a
      simp only [reduceCtorEq]
  | ok b =>
      show Except.ok b = .ok a ↔ Except.ok b = .ok a
      simp only [Except.ok.injEq]

/-- A failure is reported when there is one. -/
theorem mapError_eq_error_iff {x : Except ε α} {f : ε → ε'} {e' : ε'} :
    x.mapError f = .error e' ↔ ∃ e, x = .error e ∧ f e = e' := by
  cases x with
  | error e =>
      show Except.error (f e) = .error e' ↔ ∃ e₁, Except.error e = .error e₁ ∧ f e₁ = e'
      simp only [Except.error.injEq, exists_eq_left']
  | ok a =>
      show Except.ok a = .error e' ↔ ∃ e, Except.ok a = .error e ∧ f e = e'
      simp only [reduceCtorEq, false_and, exists_false]

/-- How errors are reported can be settled part by part. -/
theorem mapError_bind {x : Except ε α} {f : α → Except ε β} {g : ε → ε'} :
    (x >>= f).mapError g = x.mapError g >>= fun a => (f a).mapError g := by
  cases x <;> rfl

/-- A calendar operation has the same results as a step of a ledger operation. -/
theorem ofCalendar_eq_ok_iff {x : Except CalendarError α} {a : α} :
    LedgerError.ofCalendar x = .ok a ↔ x = .ok a := mapError_eq_ok_iff

end Almanac.Outcome
