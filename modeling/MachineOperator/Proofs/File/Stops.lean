import MachineOperator.Proofs.File.Tree

/-!
Paths that lead nowhere. Such a path stops at a location that its first names lead to, for one of few reasons.
-/
namespace MachineOperator.File.Tree
variable {t : Tree} {p : Path} {here l : Location} {e : Error}

/-- Why a way does not go on from a location, or does not end there: nothing is there, or names follow that lead on from
directories alone, or a name follows that is too long for one. -/
inductive Stops (t : Tree) (l : Location) : List String → Error → Prop where
  | missing {names : List String} : t.node? l = none → Stops t l names .notFound
  | file {data : ByteArray} {name : String} {r : List String} :
    t.node? l = some (.file data) → Stops t l (name :: r) .notDirectory
  | long {name : String} {r : List String} :
    t.node? l = some .directory → longestName < name.utf8ByteSize → Stops t l (name :: r) .nameTooLong

theorem Stops.follow {name : String} {r : List String} (stops : t.Stops here (name :: r) e) :
    t.follow here (name :: r) = .error e := by
  rw [follow_cons, expectDirectory]
  cases stops with
  | missing free => rw [free]; rfl
  | file there => rw [there]; rfl
  | long there long => rw [there, bind_ok, if_pos long]

/-- Names that lead nowhere stop at a location that the first of them lead to. -/
theorem follow_eq_error {names : List String} :
    t.follow here names = .error e ↔
      ∃ before name r k, names = before ++ name :: r ∧ t.follow here before = .ok k ∧ t.Stops k (name :: r) e := by
  constructor
  · intro failed
    induction names generalizing here with
    | nil => cases failed
    | cons name r ih =>
      rw [follow_cons, expectDirectory] at failed
      cases there : t.node? here with
      | none =>
        rw [there] at failed
        cases failed
        exact ⟨[], name, r, here, rfl, rfl, .missing there⟩
      | some n =>
        rw [there] at failed
        cases n with
        | file data =>
          cases failed
          exact ⟨[], name, r, here, rfl, rfl, .file there⟩
        | directory =>
          rw [bind_ok] at failed
          by_cases long : longestName < name.utf8ByteSize
          · rw [if_pos long] at failed
            cases failed
            exact ⟨[], name, r, here, rfl, rfl, .long there long⟩
          · rw [if_neg long] at failed
            obtain ⟨before, other, r', k, rfl, followed, stops⟩ := ih failed
            exact ⟨name :: before, other, r', k, rfl, follow_cons_eq_ok.2 ⟨there, Nat.not_lt.1 long, followed⟩, stops⟩
  · rintro ⟨before, name, r, k, rfl, followed, stops⟩
    rw [follow_append, followed, bind_ok]
    exact stops.follow

/-- A path leads nowhere when it is none, or when its way stops. -/
theorem find_eq_error :
    t.find p = .error e ↔
      check p = .error e ∨ check p = .ok () ∧
        ∃ before r l, p.parts = before ++ r ∧ t.follow (t.start p) before = .ok l ∧ t.Stops l r e := by
  unfold find
  constructor
  · intro failed
    rcases valid : check p with cause | u
    · rw [valid] at failed
      cases failed
      exact .inl rfl
    · rw [valid, bind_ok] at failed
      rcases followed : t.follow (t.start p) p.parts with cause | l
      · rw [followed] at failed
        cases failed
        obtain ⟨before, name, r, k, whole, led, stops⟩ := follow_eq_error.1 followed
        exact .inr ⟨rfl, before, name :: r, k, whole, led, stops⟩
      · rw [followed, bind_ok] at failed
        cases there : t.node? l with
        | some n =>
          rw [there] at failed
          cases failed
        | none =>
          rw [there] at failed
          cases failed
          exact .inr ⟨rfl, p.parts, [], l, (List.append_nil _).symm, followed, .missing there⟩
  · rintro (invalid | ⟨valid, before, r, l, whole, led, stops⟩)
    · rw [invalid]
      rfl
    · rw [valid, bind_ok, whole, follow_append, led, bind_ok]
      cases r with
      | nil =>
        cases stops with
        | missing free =>
          rw [follow, bind_ok, free]
          rfl
      | cons name r =>
        rw [stops.follow]
        rfl

theorem read_eq_error :
    t.read p = .error e ↔ t.find p = .error e ∨ e = .isDirectory ∧ ∃ l, t.find p = .ok (l, .directory) := by
  unfold read
  rcases t.find p with cause | ⟨l, data | _⟩
  · simp
  · simp [pure, Except.pure]
  · rw [bind_ok]
    simp [throw, throwThe, MonadExceptOf.throw, eq_comm]

end MachineOperator.File.Tree
