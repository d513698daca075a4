/-!
Steps that are taken for each element of a list, and may fail. What they come to changes with one element, and not with the
order if two of them may change places.
-/
namespace MachineOperator

section Middle
variable {α β : Type} {f : α → Option β} (before after : List α) (a a' : α)

theorem mapM_middle (same : ∀ b, f a = some b → f a' = some b) {bs : List β}
    (all : (before ++ a :: after).mapM f = some bs) : (before ++ a' :: after).mapM f = some bs := by
  rw [List.mapM_append, List.mapM_cons] at all ⊢
  cases here : f a with
  | none => simp [here] at all
  | some b =>
    rw [here] at all
    rw [same b here]
    exact all

theorem mapM_middle_none (nothing : f a = none) : (before ++ a :: after).mapM f = none := by
  rw [List.mapM_append, List.mapM_cons, nothing]
  cases before.mapM f <;> rfl

end Middle

theorem length_of_mapM_eq_some {α β : Type} {f : α → Option β} {as : List α} {bs : List β}
    (all : as.mapM f = some bs) : bs.length = as.length := by
  induction as generalizing bs with
  | nil =>
    cases all
    rfl
  | cons a as ih =>
    simp only [List.mapM_cons, Option.pure_def, Option.bind_eq_bind, Option.bind_eq_some_iff, Option.some.injEq] at all
    obtain ⟨b, _, others, later, rfl⟩ := all
    simp [ih later]

/-- Steps that may change places are taken in any order. -/
theorem foldlM_eq_of_perm {α σ : Type} {f : σ → α → Option σ}
    (commute : ∀ s a b, (f s a).bind (f · b) = (f s b).bind (f · a)) {as bs : List α} (reordered : as.Perm bs) (s : σ) :
    as.foldlM f s = bs.foldlM f s := by
  induction reordered generalizing s with
  | nil => rfl
  | cons a _ ih =>
    rw [List.foldlM_cons, List.foldlM_cons]
    exact congrArg (f s a).bind (funext ih)
  | swap a b as =>
    have swapped := congrArg (Option.bind · fun s => as.foldlM f s) (commute s b a)
    simpa only [List.foldlM_cons, Option.bind_eq_bind, Option.bind_assoc] using swapped
  | trans _ _ before after => exact (before s).trans (after s)

end MachineOperator
