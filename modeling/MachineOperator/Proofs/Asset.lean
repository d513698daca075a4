import MachineOperator.Asset
import MachineOperator.Proofs.OperatorConfig.Generation
import Mathlib.Data.List.Basic
import Mathlib.Data.List.Induction

/-!
The history of an asset. Whatever is done with it and whatever happens around it, it holds what was generated last: a
generation that fails, a search for an earlier run's file and a question leave it as it is.
-/
namespace MachineOperator.Asset
open OperatorConfig (forCluster GenerationError)

variable {σ : Type} [Journal (StateM σ)]

/-- A generation succeeds when a configuration comes of it, and reports then what it has generated. -/
theorem run_generate (resolve : Resolver (StateM σ)) (a : Asset) (cluster : InstallConfig)
    (authority : CertificateAuthority) (s : σ) :
    (a.generate resolve cluster authority).run s =
      match runFrom s (forCluster resolve cluster authority) with
      | (.ok config, t) => ((.ok (), { config? := some config, file? := some config.marshal }),
          ((Journal.report (m := StateM σ)
            (.generated config.marshal.filename config.provider config.marshal.digest)).run t).2)
      | (.error e, t) => ((.error e, a), t) := by
  unfold generate runFrom ExceptT.run StateT.run
  simp only [bind, StateT.bind]
  cases forCluster resolve cluster authority s with
  | mk result t => cases result <;> rfl

/-- What can be done with an asset, and what can happen between. -/
inductive Step (σ : Type) where
  | generate (cluster : InstallConfig) (authority : CertificateAuthority)
  | load (directory : OutputDirectory)
  | askName
  | askDependencies
  /-- Files and servers change without the asset's doing. -/
  | outside (change : σ → σ)

inductive Answer where
  | generated (result : Except GenerationError Unit)
  | loaded (result : Except OutputDirectory.FetchError Bool)
  | name (text : String)
  | dependencies (needed : List Dependency)
  | none

def perform (resolve : Resolver (StateM σ)) (a : Asset) : Step σ → StateM σ (Answer × Asset)
  | .generate cluster authority => do
    let (result, a) ← a.generate resolve cluster authority
    return (.generated result, a)
  | .load directory => do
    let (result, a) ← a.load directory
    return (.loaded result, a)
  | .askName => return (.name Asset.name, a)
  | .askDependencies => return (.dependencies Asset.dependencies, a)
  | .outside change => do
    modify change
    return (.none, a)

variable (resolve : Resolver (StateM σ)) (s : σ)

/-- The asset and the state after one step more. -/
def next (x : Asset × σ) (step : Step σ) : Asset × σ :=
  let done := (x.1.perform resolve step).run x.2
  (done.1.2, done.2)

/-- A new asset after steps that start in a state, and the state after them. -/
def after (steps : List (Step σ)) : Asset × σ := steps.foldl (next resolve) (new, s)

/-- What a step gives when it comes after others. -/
def answer (before : List (Step σ)) (step : Step σ) : Answer :=
  (((after resolve s before).1.perform resolve step).run (after resolve s before).2).1.1

/-- The configuration that comes of a step after others, if it is a generation and succeeds. -/
def renders (before : List (Step σ)) : Step σ → Option OperatorConfig
  | .generate cluster authority =>
    (runFrom (after resolve s before).2 (forCluster resolve cluster authority)).1.toOption
  | _ => none

/-- The configurations that come of steps, in order. -/
def history (steps : List (Step σ)) : List OperatorConfig :=
  (List.range steps.length).filterMap fun i => steps[i]?.bind (renders resolve s (steps.take i))

theorem after_concat (steps : List (Step σ)) (step : Step σ) :
    after resolve s (steps ++ [step]) = next resolve (after resolve s steps) step := by
  rw [after, List.foldl_concat]
  rfl

/-- A step that renders nothing leaves the asset as it is. -/
theorem after_step (steps : List (Step σ)) (step : Step σ) :
    (after resolve s (steps ++ [step])).1 =
      match renders resolve s steps step with
      | some config => { config? := some config, file? := some config.marshal }
      | none => (after resolve s steps).1 := by
  rw [after_concat]
  cases step with
  | generate cluster authority =>
    have done := run_generate resolve (after resolve s steps).1 cluster authority (after resolve s steps).2
    simp only [next, perform, StateT.run_bind, done, renders]
    cases runFrom (after resolve s steps).2 (forCluster resolve cluster authority) with
    | mk result t => cases result <;> rfl
  | _ => rfl

theorem history_concat (steps : List (Step σ)) (step : Step σ) :
    history resolve s (steps ++ [step]) = history resolve s steps ++ (renders resolve s steps step).toList := by
  have earlier : ∀ i ∈ List.range steps.length,
      (steps ++ [step])[i]?.bind (renders resolve s ((steps ++ [step]).take i)) =
        steps[i]?.bind (renders resolve s (steps.take i)) := by
    intro i member
    have inside : i < steps.length := List.mem_range.1 member
    rw [List.getElem?_append_left inside, List.take_append_of_le_length (Nat.le_of_lt inside)]
  have last : (steps ++ [step])[steps.length]?.bind (renders resolve s ((steps ++ [step]).take steps.length)) =
      renders resolve s steps step := by
    simp
  rw [history, List.length_append, List.length_singleton, List.range_succ, List.filterMap_append,
    List.filterMap_congr earlier, List.filterMap_cons, last]
  cases renders resolve s steps step <;> rfl

/-- An asset holds the configuration that was generated last, and the file of the same one: the two never go out of
step. -/
theorem after_eq (steps : List (Step σ)) :
    (after resolve s steps).1 =
      { config? := (history resolve s steps).getLast?
        file? := (history resolve s steps).getLast?.map OperatorConfig.marshal } := by
  induction steps using List.reverseRecOn with
  | nil => rfl
  | append_singleton steps step ih =>
    rw [after_step, history_concat]
    cases renders resolve s steps step with
    | none => rw [Option.toList_none, List.append_nil, ← ih]
    | some config => rw [Option.toList_some, List.getLast?_concat]; rfl

/-- What a step gives: only generations do anything, and searches never find a file. -/
theorem answer_eq (before : List (Step σ)) (step : Step σ) :
    answer resolve s before step =
      match step with
      | .generate cluster authority =>
        .generated ((runFrom (after resolve s before).2 (forCluster resolve cluster authority)).1.map fun _ => ())
      | .load _ => .loaded (.ok false)
      | .askName => .name Asset.name
      | .askDependencies => .dependencies Asset.dependencies
      | .outside _ => .none := by
  cases step with
  | generate cluster authority =>
    have done := run_generate resolve (after resolve s before).1 cluster authority (after resolve s before).2
    simp only [answer, perform, StateT.run_bind, done]
    cases runFrom (after resolve s before).2 (forCluster resolve cluster authority) with
    | mk result t => cases result <;> rfl
  | _ => rfl

/-- After any steps an asset holds the configuration that the last successful generation rendered, with its file, and
nothing if none was successful; a step that renders nothing leaves it as it is. -/
theorem after_history (steps : List (Step σ)) :
    (after resolve s steps).1.config? = (history resolve s steps).getLast? ∧
      (after resolve s steps).1.file? = (history resolve s steps).getLast?.map OperatorConfig.marshal ∧
      (after resolve s steps).1.files.length = (if (after resolve s steps).1.config?.isSome then 1 else 0) ∧
      ∀ step,
        (after resolve s (steps ++ [step])).1 =
            (match renders resolve s steps step with
            | some config => { config? := some config, file? := some config.marshal }
            | none => (after resolve s steps).1) ∧
          answer resolve s steps step =
            match step with
            | .generate cluster authority =>
              .generated ((runFrom (after resolve s steps).2 (forCluster resolve cluster authority)).1.map fun _ => ())
            | .load _ => .loaded (.ok false)
            | .askName => .name Asset.name
            | .askDependencies => .dependencies Asset.dependencies
            | .outside _ => .none := by
  have held := after_eq resolve s steps
  refine ⟨?_, ?_, ?_, fun step => ⟨after_step resolve s steps step, answer_eq resolve s steps step⟩⟩
  · rw [held]
  · rw [held]
  · rw [files, held]
    cases (history resolve s steps).getLast? <;> rfl

end MachineOperator.Asset
