import Mathlib.Data.List.DropRight
import MachineOperator.Release.Server
import MachineOperator.World

/-!
The address of a release server. Slashes behind it do not matter: they are left out, all of them and nothing else, so
servers whose addresses differ in them alone are asked the same and answer the same.
-/
namespace MachineOperator.Release

/-- So many slashes. -/
def slashes (n : Nat) : String := String.ofList (List.replicate n '/')

theorem toList_trimSlashes (text : String) : (trimSlashes text).toList = text.toList.rdropWhile (· = '/') := by
  rw [trimSlashes, String.toList_ofList, List.rdropWhile]

/-- What is left of a text does not end in a slash. -/
theorem getLast?_trimSlashes (text : String) : (trimSlashes text).toList.getLast? ≠ some '/' := by
  intro slash
  rw [toList_trimSlashes] at slash
  have filled : text.toList.rdropWhile (· = '/') ≠ [] := by
    intro empty
    simp [empty] at slash
  have bare := List.rdropWhile_last_not (· = '/') text.toList filled
  rw [List.getLast?_eq_some_getLast filled, Option.some.injEq] at slash
  exact bare (decide_eq_true slash)

/-- What is left out of a text is slashes. -/
theorem exists_slashes (text : String) : ∃ n, text = trimSlashes text ++ slashes n := by
  have behind : ∀ c ∈ text.toList.rtakeWhile (· = '/'), c = '/' := by
    intro c member
    simpa using List.mem_rtakeWhile_imp member
  refine ⟨(text.toList.rtakeWhile (· = '/')).length, ?_⟩
  apply String.toList_inj.1
  rw [String.toList_append, toList_trimSlashes, slashes, String.toList_ofList, ← List.eq_replicate_of_mem behind]
  exact List.rdropWhile_append_rtakeWhile.symm

theorem trimSlashes_of_bare {base : String} (bare : base.toList.getLast? ≠ some '/') : trimSlashes base = base := by
  apply String.toList_inj.1
  rw [toList_trimSlashes, List.rdropWhile_eq_self_iff]
  intro filled slash
  apply bare
  rw [List.getLast?_eq_some_getLast filled, of_decide_eq_true slash]

/-- One slash after another is left out, by induction on how many there are. -/
theorem trimSlashes_slashes (text : String) (n : Nat) : trimSlashes (text ++ slashes n) = trimSlashes text := by
  apply String.toList_inj.1
  rw [toList_trimSlashes, toList_trimSlashes, String.toList_append, slashes, String.toList_ofList]
  induction n with
  | zero => simp
  | succ n ih =>
    rw [List.replicate_succ', ← List.append_assoc, List.rdropWhile_concat_pos _ _ _ (by decide)]
    exact ih

/-- What is left of a text is the one text without a slash at its end that it starts with and goes on in slashes only. -/
theorem trimSlashes_eq_iff {text base : String} :
    trimSlashes text = base ↔ base.toList.getLast? ≠ some '/' ∧ ∃ n, text = base ++ slashes n := by
  constructor
  · rintro rfl
    exact ⟨getLast?_trimSlashes text, exists_slashes text⟩
  · rintro ⟨bare, n, rfl⟩
    rw [trimSlashes_slashes, trimSlashes_of_bare bare]

namespace Server

/-- Lookups one after another, and what each comes to. -/
def lookUpAll {m : Type → Type} [Monad m] [Web m] [Journal m] [Url.NameRules] (s : Server)
    (asked : List (String × String)) : m (List (Except LookupError String)) :=
  asked.mapM fun (channel, region) => (s.resolver channel region).run

theorem ofUrl_slashes (u : String) (n : Nat) : ofUrl (u ++ slashes n) = ofUrl u :=
  congrArg Server.mk (trimSlashes_slashes u n)

/-- The slashes behind an address neither change the base address nor any sequence of lookups: what each comes to, what is
asked and what is reported is the same, in a world of servers and wherever else requests are answered. The base address
is the given one without all the slashes it ends in, and the server made from it is the same. -/
theorem ofUrl_trailing_slashes [Url.NameRules] (u : String) :
    (∀ n, (ofUrl (u ++ slashes n)).baseUrl = (ofUrl u).baseUrl) ∧
    (∀ n (w : World) (asked : List (String × String)),
      let done := (lookUpAll (m := StateM World) (ofUrl (u ++ slashes n)) asked).run w
      let bare := (lookUpAll (m := StateM World) (ofUrl u) asked).run w
      done.1 = bare.1 ∧ done.2.requests = bare.2.requests ∧ done.2.events = bare.2.events) ∧
    (∀ n (m : Type → Type) [Monad m] [Web m] [Journal m] (asked : List (String × String)),
      lookUpAll (m := m) (ofUrl (u ++ slashes n)) asked = lookUpAll (ofUrl u) asked) ∧
    (∀ base, (ofUrl u).baseUrl = base ↔ base.toList.getLast? ≠ some '/' ∧ ∃ n, u = base ++ slashes n) ∧
    ofUrl (ofUrl u).baseUrl = ofUrl u := by
  refine ⟨?_, ?_, ?_, ?_, ?_⟩
  · intro n
    rw [ofUrl_slashes]
  · intro n w asked
    rw [ofUrl_slashes]
    exact ⟨rfl, rfl, rfl⟩
  · intro n m _ _ _ asked
    rw [ofUrl_slashes]
  · intro base
    exact trimSlashes_eq_iff
  · exact congrArg Server.mk (trimSlashes_of_bare (getLast?_trimSlashes u))

end Server
end MachineOperator.Release
