import MachineOperator.Proofs.Yaml.Queue
import MachineOperator.Yaml.Print

/-!
The way from one token to the next: blanks and line breaks are passed, keys of earlier lines are given up, and blocks
to the right of where the way ends are closed.
-/
namespace MachineOperator.Yaml

namespace Mark

/-- The mark after a text. -/
def past (m : Mark) : List Char → Mark
  | [] => m
  | c :: r => past (if isBreak c then m.newline else m.next) r

@[simp] theorem past_nil (m : Mark) : m.past [] = m := rfl

theorem past_cons (m : Mark) (c : Char) (r : List Char) :
    m.past (c :: r) = (if isBreak c then m.newline else m.next).past r := rfl

theorem past_append (m : Mark) (cs ds : List Char) : m.past (cs ++ ds) = (m.past cs).past ds := by
  induction cs generalizing m with
  | nil => rfl
  | cons c cs ih => exact ih _

theorem past_line {cs : List Char} (m : Mark) (one_line : ∀ c ∈ cs, isBreak c = false) :
    m.past cs = ⟨m.line, m.column + cs.length⟩ := by
  induction cs generalizing m with
  | nil => rfl
  | cons c cs ih =>
    have here : isBreak c = false := one_line c (by simp)
    rw [past_cons, here, ih _ fun d member => one_line d (by simp [member])]
    simp [next, Nat.add_comm, Nat.add_left_comm]

theorem line_le_past (m : Mark) (cs : List Char) : m.line ≤ (m.past cs).line := by
  induction cs generalizing m with
  | nil => exact Nat.le_refl _
  | cons c cs ih =>
    rw [past_cons]
    refine Nat.le_trans ?_ (ih _)
    split <;> simp

theorem past_newline_column (m : Mark) (cs : List Char) : (m.past (cs ++ ['\n'])).column = 0 := by
  rw [past_append]
  rfl

theorem past_spaces (m : Mark) (n : Nat) : m.past (spaces n) = ⟨m.line, m.column + n⟩ := by
  rw [past_line m fun c member => by simp [spaces] at member; rw [member.2]; rfl]
  simp [spaces]

end Mark

/-- Whether a token may start with these characters, or the text ends here. -/
def startsToken : List Char → Bool
  | [] => true
  | c :: _ => !isBlank c && !isBreak c && c != '#' && c != '\ufeff'

namespace Scanner

theorem skipBlanks_spaces (flow : Bool) (n : Nat) (r : List Char) (m : Mark) (allowed : Bool) :
    skipBlanks flow (spaces n ++ r) m allowed false = skipBlanks flow r (m.past (spaces n)) allowed false := by
  induction n generalizing m with
  | zero => rfl
  | succ n ih =>
    have one : spaces (n + 1) = ' ' :: spaces n := rfl
    rw [one, List.cons_append, Mark.past_cons, ← ih]
    simp [skipBlanks, isBreak]

theorem skipBlanks_token (flow : Bool) {r : List Char} (m : Mark) (allowed : Bool) (starts : startsToken r = true) :
    skipBlanks flow r m allowed false = (⟨r, m⟩, allowed) := by
  cases r with
  | nil => rfl
  | cons c r =>
    simp only [startsToken, isBlank, Bool.and_eq_true, Bool.not_eq_true', Bool.or_eq_false_iff, bne_iff_ne,
      beq_eq_false_iff_ne] at starts
    obtain ⟨⟨⟨⟨no_space, no_tab⟩, no_break⟩, no_comment⟩, no_mark⟩ := starts
    simp [skipBlanks, no_break, no_space, no_tab, no_comment, no_mark]

theorem skipBlanks_newline (r : List Char) (m : Mark) (allowed : Bool) :
    skipBlanks false ('\n' :: r) m allowed false = skipBlanks false r m.newline true false := by
  simp [skipBlanks, isBreak]

/-- What a round does before it reads a token. -/
def arrive (s : Scanner) : Except Fault Scanner := do
  let s ← s.dropStaleKeys
  let s ← s.toNextToken.dropStaleKeys
  return s.closeBlocks s.mark.column

theorem arrive_of {s u v : Scanner} (first : s.dropStaleKeys = .ok u) (second : u.toNextToken.dropStaleKeys = .ok v) :
    s.arrive = .ok (v.closeBlocks v.mark.column) := by
  unfold arrive
  rw [first, bind_ok, second]
  rfl

theorem round_eq (s : Scanner) : s.round = s.arrive >>= takeToken := by
  unfold round arrive advance
  cases s.dropStaleKeys with
  | error f => rfl
  | ok u =>
    cases h : u.toNextToken.dropStaleKeys with
    | error f => simp [h]
    | ok v => simp [h, pure, Except.pure]

/-- One more than the column of the innermost block, and zero outside all. -/
def parentOf : List Nat → Nat
  | [] => 0
  | i :: _ => i + 1

/-- A scanner in no flow collection that has let no token go, with a text ahead. -/
def facing (indents : List Nat) (allowed : Bool) (key : Option PendingKey) (queue : List Token) (rest : List Char)
    (m : Mark) : Scanner :=
  ⟨⟨rest, m⟩, indents, allowed, key, [], queue, 0, false⟩

section Facing
variable {indents : List Nat} {allowed : Bool} {key : Option PendingKey} {queue : List Token} {rest : List Char}
  {m : Mark}

@[simp] theorem facing_parent : (facing indents allowed key queue rest m).parent = parentOf indents := by
  cases indents <;> rfl

@[simp] theorem facing_inFlow : (facing indents allowed key queue rest m).inFlow = false := rfl

@[simp] theorem facing_mark : (facing indents allowed key queue rest m).mark = m := rfl

@[simp] theorem facing_key : (facing indents allowed key queue rest m).key = key := rfl

theorem start_eq_facing (chars : List Char) : start chars = facing [] true none [] chars .origin := rfl

theorem closeBlocks_facing_of_le {column : Nat} (left : parentOf indents ≤ column + 1) :
    (facing indents allowed key queue rest m).closeBlocks column = facing indents allowed key queue rest m := by
  cases indents with
  | nil => simp [closeBlocks, facing, closing, inFlow]
  | cons i indents =>
    have stays : ¬column < i := by simp only [parentOf] at left; omega
    simp [closeBlocks, facing, closing, inFlow, stays]

theorem closeBlocks_facing_cons {column i : Nat} (right : column < i) :
    (facing (i :: indents) allowed key queue rest m).closeBlocks column =
      (facing indents allowed key (queue ++ [⟨.blockEnd, m⟩]) rest m).closeBlocks column := by
  simp [closeBlocks, facing, closing, inFlow, right, mark]

theorem dropStaleKeys_facing : (facing indents allowed key queue rest m).dropStaleKeys =
    ((facing indents allowed key queue rest m).dropStaleKey key).map
      fun key => facing indents allowed key queue rest m := by
  unfold dropStaleKeys
  cases h : (facing indents allowed key queue rest m).dropStaleKey key <;>
    simp [facing, Except.map, bind, Except.bind, pure, Except.pure] at h ⊢ <;> simp [h]

theorem dropStaleKeys_fresh {k : PendingKey} (line : k.mark.line = m.line) (near : m.column ≤ k.mark.column + 1024) :
    (facing indents allowed (some k) queue rest m).dropStaleKeys =
      .ok (facing indents allowed (some k) queue rest m) := by
  have fresh : (facing indents allowed (some k) queue rest m).isStale k = false := by
    have not_far : ¬k.mark.column + 1024 < m.column := by omega
    simp [isStale, line, not_far]
  rw [dropStaleKeys_facing]
  simp [dropStaleKey, fresh, Except.map]

/-- A key of an earlier line that need not be one is given up. -/
theorem dropStaleKeys_earlier (earlier : ∀ k ∈ key, k.required = false ∧ k.mark.line < m.line) :
    (facing indents allowed key queue rest m).dropStaleKeys = .ok (facing indents allowed none queue rest m) := by
  rw [dropStaleKeys_facing]
  cases key with
  | none => rfl
  | some k =>
    obtain ⟨free, line⟩ := earlier k rfl
    have stale : (facing indents allowed (some k) queue rest m).isStale k = true := by simp [isStale, line]
    simp [dropStaleKey, stale, free, Except.map]

theorem dropStaleKeys_clear :
    (facing indents allowed none queue rest m).dropStaleKeys = .ok (facing indents allowed none queue rest m) :=
  dropStaleKeys_earlier (by simp)

/-- A key that need not be one is kept or given up, but never a fault. -/
theorem dropStaleKeys_optional (optional : ∀ k ∈ key, k.required = false) :
    ∃ key', (∀ k ∈ key', k ∈ key) ∧
      (facing indents allowed key queue rest m).dropStaleKeys = .ok (facing indents allowed key' queue rest m) := by
  rw [dropStaleKeys_facing]
  cases key with
  | none => exact ⟨none, by simp, rfl⟩
  | some k =>
    have free := optional k rfl
    cases stale : (facing indents allowed (some k) queue rest m).isStale k with
    | false => exact ⟨some k, by simp, by simp [dropStaleKey, stale, Except.map]⟩
    | true => exact ⟨none, by simp, by simp [dropStaleKey, stale, free, Except.map]⟩

/-- Spaces on the same line are passed. -/
theorem arrive_spaces (n : Nat) (starts : startsToken rest = true) :
    (facing indents allowed none queue (spaces n ++ rest) m).arrive =
      .ok ((facing indents allowed none queue rest (m.past (spaces n))).closeBlocks (m.past (spaces n)).column) := by
  have passed : (facing indents allowed none queue (spaces n ++ rest) m).toNextToken =
      facing indents allowed none queue rest (m.past (spaces n)) := by
    simp [toNextToken, facing, inFlow, mark, skipBlanks_spaces, skipBlanks_token _ _ _ starts]
  exact arrive_of dropStaleKeys_clear (by rw [passed]; exact dropStaleKeys_clear)

/-- At the end of a line a key that need not be one is given up, and a key may start in the next line. -/
theorem arrive_newline (n : Nat) (starts : startsToken rest = true)
    (optional : ∀ k ∈ key, k.required = false ∧ k.mark.line ≤ m.line) :
    (facing indents allowed key queue ('\n' :: spaces n ++ rest) m).arrive =
      .ok ((facing indents true none queue rest (m.newline.past (spaces n))).closeBlocks n) := by
  obtain ⟨key', fewer, dropped⟩ : ∃ key', (∀ k ∈ key', k ∈ key) ∧
      (facing indents allowed key queue ('\n' :: spaces n ++ rest) m).dropStaleKeys =
        .ok (facing indents allowed key' queue ('\n' :: spaces n ++ rest) m) :=
    dropStaleKeys_optional fun k member => (optional k member).1
  have passed : (facing indents allowed key' queue ('\n' :: spaces n ++ rest) m).toNextToken =
      facing indents true key' queue rest (m.newline.past (spaces n)) := by
    simp [toNextToken, facing, inFlow, mark, skipBlanks_newline, skipBlanks_spaces, skipBlanks_token _ _ _ starts]
  have later : ∀ k ∈ key', k.required = false ∧ k.mark.line < (m.newline.past (spaces n)).line := by
    intro k member
    obtain ⟨free, line⟩ := optional k (fewer k member)
    exact ⟨free, by rw [Mark.past_spaces]; simp; omega⟩
  rw [arrive_of dropped (by rw [passed]; exact dropStaleKeys_earlier later)]
  simp [Mark.past_spaces]

/-- Where a scanner stands at a token already, it only gives up keys of earlier lines. -/
theorem arrive_token (starts : startsToken rest = true)
    (earlier : ∀ k ∈ key, k.required = false ∧ k.mark.line < m.line) :
    (facing indents allowed key queue rest m).arrive =
      .ok ((facing indents allowed none queue rest m).closeBlocks m.column) := by
  have passed : (facing indents allowed none queue rest m).toNextToken = facing indents allowed none queue rest m := by
    simp [toNextToken, facing, inFlow, mark, skipBlanks_token _ _ _ starts]
  exact arrive_of (dropStaleKeys_earlier earlier) (by rw [passed]; exact dropStaleKeys_clear)

end Facing

/-- So many tokens lead from a place where a token starts to another: each is read, and what follows it is passed. -/
inductive Way : Scanner → Nat → Scanner → Prop where
  | done (a : Scanner) : Way a 0 a
  | token {a t b c : Scanner} {n : Nat} :
    a.takeToken = .ok t → t.ended = false → t.arrive = .ok b → Way b n c → Way a (n + 1) c

theorem Way.trans (first : Way a n b) (second : Way b m c) : Way a (n + m) c := by
  induction first with
  | done => simpa using second
  | token taken live arrived _ ih =>
    rw [Nat.add_right_comm]
    exact .token taken live arrived (ih second)

theorem Way.single (taken : a.takeToken = .ok t) (live : t.ended = false) (arrived : t.arrive = .ok b) : Way a 1 b :=
  .token taken live arrived (.done b)

/-- A way is gone in rounds, by a scanner on its way to where it starts. -/
theorem Way.run (way : Way a n b) {s : Scanner} (live : s.ended = false) (arrived : s.arrive = .ok a) :
    ∃ t, Run s n t ∧ t.ended = false ∧ t.arrive = .ok b := by
  induction way generalizing s with
  | done => exact ⟨s, .done s, live, arrived⟩
  | token taken live' arrived' _ ih =>
    obtain ⟨t, run, ended, arrives⟩ := ih live' arrived'
    exact ⟨t, .round live (by rw [round_eq, arrived]; exact taken) run, ended, arrives⟩

end Scanner
end MachineOperator.Yaml
