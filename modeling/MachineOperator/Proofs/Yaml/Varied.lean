import MachineOperator.Proofs.Yaml.Decimal
import MachineOperator.Proofs.Yaml.Schema
import Mathlib.Data.List.Forall2

/-!
Documents that are the same apart from numbers. Where one has some number in base ten, the other may have the number `n`.
Aliases are the same in both; what they stand for may vary.
-/
namespace MachineOperator.Yaml

/-- Texts that are the same, or numbers of which the second is `n`. -/
def Varies (n : Int) (t t' : String) : Prop := t = t' ∨ (∃ m, Plain.Writes t m) ∧ Plain.Writes t' n

namespace Varies
variable {n : Int} {t t' word : String}

theorem refl (n : Int) (t : String) : Varies n t t := .inl rfl

/-- Words do not vary. -/
theorem eq_word_iff (varies : Varies n t t') (other : Plain.Writes.isOther word = true) : t = word ↔ t' = word := by
  rcases varies with rfl | ⟨⟨m, before⟩, after⟩
  · rfl
  · exact ⟨fun same => absurd same (before.ne_word other), fun same => absurd same (after.ne_word other)⟩

end Varies

/-- The parts of two pairs are related. -/
inductive Both {α : Type} (R : α → α → Prop) : α × α → α × α → Prop
  | mk {a a' b b'} (first : R a a') (second : R b b') : Both R (a, b) (a', b')

/-- The same tree apart from places and numbers. -/
inductive Node.Varied (n : Int) : Node → Node → Prop
  | scalar (p style text m m') : Varied n (.scalar p style text m) (.scalar p style text m')
  | number {p text text' k} (m m') (untagged : p.tag = none) (before : Plain.Writes text k) (after : Plain.Writes text' n) :
      Varied n (.scalar p .plain text m) (.scalar p .plain text' m')
  | sequence (p m m') {items items'} (each : List.Forall₂ (Varied n) items items') :
      Varied n (.sequence p items m) (.sequence p items' m')
  | mapping (p m m') {entries entries'} (each : List.Forall₂ (Both (Varied n)) entries entries') :
      Varied n (.mapping p entries m) (.mapping p entries' m')
  | aliased (target m m') : Varied n (.alias target m) (.alias target m')

/-- The same anchors stand for nodes that vary. -/
structure Aliases.Varied (n : Int) (a a' : Aliases) : Prop where
  limit : a.limit = a'.limit
  find? : ∀ target, Option.Rel (Node.Varied n) (a.find? target) (a'.find? target)

namespace Node
variable {n : Int} {x y : Node}

theorem anchor?_of_varied (varied : Varied n x y) : x.anchor? = y.anchor? := by
  cases varied <;> rfl

mutual

theorem steps_of_varied (x : Node) {y : Node} (varied : Varied n x y) : x.steps = y.steps := by
  match x, varied with
  | _, .scalar .. | _, .number .. | _, .aliased .. => rfl
  | .sequence _ items _, .sequence _ _ _ each => rw [steps, steps, itemSteps_of_varied items each]
  | .mapping _ entries _, .mapping _ _ _ each => rw [steps, steps, entrySteps_of_varied entries each]

theorem itemSteps_of_varied (xs : List Node) {ys : List Node} (each : List.Forall₂ (Varied n) xs ys) :
    itemSteps xs = itemSteps ys := by
  match xs, each with
  | [], .nil => rfl
  | x :: xs, .cons here others => rw [itemSteps, itemSteps, steps_of_varied x here, itemSteps_of_varied xs others]

theorem entrySteps_of_varied (xs : List (Node × Node)) {ys : List (Node × Node)}
    (each : List.Forall₂ (Both (Varied n)) xs ys) : entrySteps xs = entrySteps ys := by
  match xs, each with
  | [], .nil => rfl
  | (k, x) :: xs, .cons (.mk key here) others =>
    rw [entrySteps, entrySteps, steps_of_varied k key, steps_of_varied x here, entrySteps_of_varied xs others]

end

mutual

theorem fault?_of_varied (x : Node) {y : Node} (varied : Varied n x y) : x.fault? = none ∧ y.fault? = none := by
  match x, varied with
  | _, .scalar .. | _, .number .. | _, .aliased .. => exact ⟨rfl, rfl⟩
  | .sequence _ items _, .sequence _ _ _ each => exact itemsFault?_of_varied items each
  | .mapping _ entries _, .mapping _ _ _ each => exact entriesFault?_of_varied entries each

theorem itemsFault?_of_varied (xs : List Node) {ys : List Node} (each : List.Forall₂ (Varied n) xs ys) :
    itemsFault? xs = none ∧ itemsFault? ys = none := by
  match xs, each with
  | [], .nil => exact ⟨rfl, rfl⟩
  | x :: xs, .cons here others =>
    obtain ⟨first, first'⟩ := fault?_of_varied x here
    obtain ⟨later, later'⟩ := itemsFault?_of_varied xs others
    rw [itemsFault?, itemsFault?, first, first', later, later']
    exact ⟨rfl, rfl⟩

theorem entriesFault?_of_varied (xs : List (Node × Node)) {ys : List (Node × Node)}
    (each : List.Forall₂ (Both (Varied n)) xs ys) : entriesFault? xs = none ∧ entriesFault? ys = none := by
  match xs, each with
  | [], .nil => exact ⟨rfl, rfl⟩
  | (k, x) :: xs, .cons (.mk key here) others =>
    obtain ⟨name, name'⟩ := fault?_of_varied k key
    obtain ⟨first, first'⟩ := fault?_of_varied x here
    obtain ⟨later, later'⟩ := entriesFault?_of_varied xs others
    rw [entriesFault?, entriesFault?, name, name', first, first', later, later']
    exact ⟨rfl, rfl⟩

end

mutual

theorem preorder_of_varied (x : Node) {y : Node} (varied : Varied n x y) :
    List.Forall₂ (Varied n) x.preorder y.preorder := by
  match x, varied with
  | _, .scalar p style text m m' => exact .cons (.scalar p style text m m') .nil
  | _, .number m m' untagged before after => exact .cons (.number m m' untagged before after) .nil
  | _, .aliased target m m' => exact .cons (.aliased target m m') .nil
  | .sequence _ items _, .sequence p m m' each => exact .cons (.sequence p m m' each) (preorderItems_of_varied items each)
  | .mapping _ entries _, .mapping p m m' each =>
    exact .cons (.mapping p m m' each) (preorderEntries_of_varied entries each)

theorem preorderItems_of_varied (xs : List Node) {ys : List Node} (each : List.Forall₂ (Varied n) xs ys) :
    List.Forall₂ (Varied n) (preorderItems xs) (preorderItems ys) := by
  match xs, each with
  | [], .nil => exact .nil
  | x :: xs, .cons here others =>
    exact List.rel_append (preorder_of_varied x here) (preorderItems_of_varied xs others)

theorem preorderEntries_of_varied (xs : List (Node × Node)) {ys : List (Node × Node)}
    (each : List.Forall₂ (Both (Varied n)) xs ys) :
    List.Forall₂ (Varied n) (preorderEntries xs) (preorderEntries ys) := by
  match xs, each with
  | [], .nil => exact .nil
  | (k, x) :: xs, .cons (.mk key here) others =>
    exact List.rel_append (List.rel_append (preorder_of_varied k key) (preorder_of_varied x here))
      (preorderEntries_of_varied xs others)

end

theorem find?_of_varied {xs ys : List Node} (each : List.Forall₂ (Varied n) xs ys) (target : Nat) :
    Option.Rel (Varied n) (xs.find? (·.anchor? == some target)) (ys.find? (·.anchor? == some target)) := by
  induction each with
  | nil => exact .none
  | @cons x y xs ys here others ih =>
    rw [List.find?_cons, List.find?_cons, anchor?_of_varied here]
    split
    · exact .some here
    · exact ih

end Node

theorem Document.aliases_of_varied {n : Int} {d d' : Document} (varied : d.root.Varied n d'.root) :
    d.aliases.Varied n d'.aliases := by
  refine ⟨by rw [Document.aliases, Document.aliases, Node.steps_of_varied d.root varied], fun target => ?_⟩
  exact Node.find?_of_varied (List.rel_reverse (Node.preorder_of_varied d.root varied)) target

end MachineOperator.Yaml
