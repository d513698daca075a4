/-!
Computations that give a value or an error, one after another. A chain of them succeeds when all of them do; those that
have a state pass it on.
-/
namespace MachineOperator

theorem bind_eq_ok {x : Except ε α} {f : α → Except ε β} {b : β} :
    x >>= f = .ok b ↔ ∃ a, x = .ok a ∧ f a = .ok b := by
  cases x with
  | error e => simp [bind, Except.bind]
  | ok a => simp [bind, Except.bind]

@[simp] theorem bind_ok {f : α → Except ε β} {a : α} : Except.ok a >>= f = f a := rfl

@[simp] theorem bind_error {f : α → Except ε β} {e : ε} : Except.error e >>= f = .error e := rfl

theorem map_eq_ok {x : Except ε α} {f : α → β} {b : β} : x.map f = .ok b ↔ ∃ a, x = .ok a ∧ f a = b := by
  constructor
  · intro done
    cases x with
    | error e => cases done
    | ok a =>
      cases done
      exact ⟨a, rfl, rfl⟩
  · rintro ⟨a, rfl, rfl⟩
    rfl

@[simp] theorem mapError_ok {f : ε → ε'} {a : α} : (Except.ok a).mapError f = .ok a := rfl

@[simp] theorem mapError_error {f : ε → ε'} {e : ε} : (Except.error e : Except ε α).mapError f = .error (f e) := rfl

theorem mapError_eq_ok {x : Except ε α} {f : ε → ε'} {a : α} : x.mapError f = .ok a ↔ x = .ok a := by
  cases x <;> simp

theorem toOption_eq_some {x : Except ε α} {a : α} : x.toOption = some a ↔ x = .ok a := by
  cases x <;> simp [Except.toOption]

theorem toOption_eq_none {x : Except ε α} : x.toOption = none ↔ ∃ e, x = .error e := by
  cases x <;> simp [Except.toOption]

/-- A value, if there is one, beside something else. -/
theorem cases_of_toOption {x : Except ε (α × β)} {y : Option α} {b : β} (same : x.toOption = y.map (·, b)) :
    (∃ a, y = some a ∧ x = .ok (a, b)) ∨ (y = none ∧ ∃ e, x = .error e) := by
  cases x with
  | error e => exact .inr ⟨Option.map_eq_none_iff.1 same.symm, e, rfl⟩
  | ok p =>
    obtain ⟨a, said, rfl⟩ := Option.map_eq_some_iff.1 same.symm
    exact .inl ⟨a, said, rfl⟩

theorem toOption_map_left {x : Except ε (α × β)} {y : Option α} {b : β} (f : α → γ) (same : x.toOption = y.map (·, b)) :
    (x.map fun p => (f p.1, p.2)).toOption = (y.map f).map (·, b) := by
  rcases cases_of_toOption same with ⟨a, rfl, rfl⟩ | ⟨rfl, e, rfl⟩ <;> rfl

/-- What is wrong, if something is. -/
def error? : Except ε α → Option ε
  | .error e => some e
  | .ok _ => none

@[simp] theorem error?_error (e : ε) : error? (.error e : Except ε α) = some e := rfl

@[simp] theorem error?_ok (a : α) : error? (.ok a : Except ε α) = none := rfl

theorem error?_mapError (x : Except ε α) (f : ε → ε') : error? (x.mapError f) = (error? x).map f := by
  cases x <;> rfl

theorem error?_eq_some {x : Except ε α} {e : ε} : error? x = some e ↔ x = .error e := by
  cases x <;> simp

/-- The result of a program that starts in a state, and the state that it leaves. -/
def runFrom (s : σ) (x : ExceptT ε (StateM σ) α) : Except ε α × σ := StateT.run (ExceptT.run x) s

variable {s s' : σ}

@[simp] theorem runFrom_throw (s : σ) (e : ε) : runFrom s (throw e : ExceptT ε (StateM σ) α) = (.error e, s) := rfl

@[simp] theorem runFrom_lift (s : σ) (x : StateM σ α) :
    runFrom s (ExceptT.lift x : ExceptT ε (StateM σ) α) = (.ok (x.run s).1, (x.run s).2) := rfl

theorem runFrom_bind (s : σ) (x : ExceptT ε (StateM σ) α) (f : α → ExceptT ε (StateM σ) β) :
    runFrom s (x >>= f) = match runFrom s x with
      | (.ok a, t) => runFrom t (f a)
      | (.error e, t) => (.error e, t) := by
  unfold runFrom ExceptT.run StateT.run
  simp only [bind, ExceptT.bind, ExceptT.mk, StateT.bind, ExceptT.bindCont]
  cases x s with
  | mk result t => cases result <;> rfl

theorem runFrom_bind_of_ok {x : ExceptT ε (StateM σ) α} {f : α → ExceptT ε (StateM σ) β} {a : α} {t : σ}
    (done : runFrom s x = (.ok a, t)) : runFrom s (x >>= f) = runFrom t (f a) := by
  rw [runFrom_bind, done]

/-- A chain of two programs succeeds when the second does in the state that the first leaves. -/
theorem runFrom_bind_eq_ok {x : ExceptT ε (StateM σ) α} {f : α → ExceptT ε (StateM σ) β} {b : β} :
    runFrom s (x >>= f) = (.ok b, s') ↔ ∃ a t, runFrom s x = (.ok a, t) ∧ runFrom t (f a) = (.ok b, s') := by
  rw [runFrom_bind]
  obtain ⟨result, t⟩ := runFrom s x
  cases result with
  | error e => simp
  | ok a =>
    constructor
    · exact fun done => ⟨a, t, rfl, done⟩
    · rintro ⟨_, _, same, done⟩
      cases same
      exact done

theorem runFrom_adapt (s : σ) (x : ExceptT ε (StateM σ) α) (f : ε → ε') :
    runFrom s (x.adapt f) = ((runFrom s x).1.mapError f, (runFrom s x).2) := rfl

theorem runFrom_adapt_eq_ok {x : ExceptT ε (StateM σ) α} {f : ε → ε'} {a : α} :
    runFrom s (x.adapt f) = (.ok a, s') ↔ runFrom s x = (.ok a, s') := by
  rw [runFrom_adapt]
  obtain ⟨result, t⟩ := runFrom s x
  cases result with
  | error e => simp
  | ok b => simp

end MachineOperator
