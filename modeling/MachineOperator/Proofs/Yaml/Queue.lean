import MachineOperator.Proofs.Yaml.PendingKey

/-!
Letting tokens go early changes nothing. A scanner lets go of every token that no pending key can still come before;
a scanner that keeps them all to the end has the same tokens in the same order. So what is said about tokens can
speak of one queue and of the rounds that add to it.
-/
namespace MachineOperator.Yaml
namespace Scanner

/-- One round: keys that can be none any more are given up, and a token is read. -/
def round (s : Scanner) : Except Fault Scanner := do (← s.dropStaleKeys).advance

/-- So many rounds lead from a scanner to another. -/
inductive Run : Scanner → Nat → Scanner → Prop where
  | done (s : Scanner) : Run s 0 s
  | round {s t u : Scanner} {n : Nat} : s.ended = false → s.round = .ok t → Run t n u → Run s (n + 1) u

theorem Run.trans (first : Run s n t) (second : Run t m u) : Run s (n + m) u := by
  induction first with
  | done => simpa using second
  | round live step _ ih =>
    rw [Nat.add_right_comm]
    exact .round live step (ih second)

theorem Run.single (live : s.ended = false) (step : s.round = .ok t) : Run s 1 t :=
  .round live step (.done _)

/-- A scanner with tokens that it has let go back in its queue. -/
def regain (ts : List Token) (s : Scanner) : Scanner :=
  { s with queue := ts ++ s.queue, released := s.released - ts.length }

section Regain
variable {s : Scanner} {ts : List Token}

@[simp] theorem regain_cursor : (regain ts s).cursor = s.cursor := rfl
@[simp] theorem regain_mark : (regain ts s).mark = s.mark := rfl
@[simp] theorem regain_inFlow : (regain ts s).inFlow = s.inFlow := rfl
@[simp] theorem regain_parent : (regain ts s).parent = s.parent := rfl
@[simp] theorem regain_keyAllowed : (regain ts s).keyAllowed = s.keyAllowed := rfl

theorem regain_insert (let_go : ts.length ≤ s.released) {n : Nat} (later : s.released ≤ n) (kind : Token.Kind)
    (m : Mark) : (regain ts s).insert n kind m = regain ts (s.insert n kind m) := by
  have place : n - (s.released - ts.length) = ts.length + (n - s.released) := by omega
  simp only [insert, regain, place, List.take_length_add_append, List.drop_length_add_append, List.append_assoc]

theorem regain_dropKey : (regain ts s).dropKey = s.dropKey.map (regain ts) := by
  unfold dropKey
  cases key : s.key with
  | none => simp [regain, key, Except.map]
  | some k => cases needed : k.required <;> simp [regain, key, needed, Except.map, fault, mark]

theorem regain_saveKey (let_go : ts.length ≤ s.released) : (regain ts s).saveKey = s.saveKey.map (regain ts) := by
  unfold saveKey
  cases allowed : s.keyAllowed with
  | false => simp [allowed, Except.map]
  | true =>
    have number : s.released - ts.length + (ts.length + s.queue.length) = s.released + s.queue.length := by omega
    rw [regain_dropKey]
    simp only [regain_keyAllowed, allowed, if_true]
    cases dropped : s.dropKey with
    | error f => rfl
    | ok u => simp [Except.map, regain, mark, inFlow, parent, number, pure, Except.pure]

theorem regain_dropStaleKeys : (regain ts s).dropStaleKeys = s.dropStaleKeys.map (regain ts) := by
  have single : (regain ts s).dropStaleKey = s.dropStaleKey := rfl
  unfold dropStaleKeys
  rw [single]
  simp only [regain]
  cases s.outer.reverse.mapM s.dropStaleKey with
  | error f => rfl
  | ok outer =>
    cases s.dropStaleKey s.key with
    | error f => rfl
    | ok key => rfl

theorem regain_openBlock (let_go : ts.length ≤ s.released) (column : Nat) {number : Option Nat}
    (later : ∀ n ∈ number, s.released ≤ n) (kind : Token.Kind) (m : Mark) :
    (regain ts s).openBlock column number kind m = regain ts (s.openBlock column number kind m) := by
  have same : ((regain ts s).inFlow || decide (column < (regain ts s).parent)) =
    (s.inFlow || decide (column < s.parent)) := rfl
  unfold openBlock
  rw [same]
  split
  · rfl
  · cases number with
    | none => simp [regain, push]
    | some n => exact regain_insert (s := { s with indents := column :: s.indents }) let_go (later n rfl) kind m

theorem regain_closeBlocks (column : Nat) : (regain ts s).closeBlocks column = regain ts (s.closeBlocks column) := by
  unfold closeBlocks
  rw [regain_inFlow]
  split
  · rfl
  · simp [regain, mark]

theorem regain_closeAllBlocks : (regain ts s).closeAllBlocks = regain ts s.closeAllBlocks := by
  unfold closeAllBlocks
  rw [regain_inFlow]
  split
  · rfl
  · simp [regain, mark]

theorem regain_toNextToken : (regain ts s).toNextToken = regain ts s.toNextToken := rfl

theorem regain_takeIndicator (kind : Token.Kind) :
    (regain ts s).takeIndicator kind = regain ts (s.takeIndicator kind) := by
  simp [takeIndicator, regain, push, mark]

theorem regain_bind {x : Except Fault Scanner} {f : Scanner → Except Fault Scanner}
    (after : ∀ u, f (regain ts u) = (f u).map (regain ts)) :
    x.map (regain ts) >>= f = (x >>= f).map (regain ts) := by
  cases x with
  | error f => rfl
  | ok u => exact after u

/-! Each kind of token is read alike. -/

theorem regain_takeEnd : (regain ts s).takeEnd = s.takeEnd.map (regain ts) := by
  have ending : (if (regain ts s).mark.column = 0 then regain ts s
      else { regain ts s with cursor := ⟨[], (regain ts s).mark.newline⟩ }) =
      regain ts (if s.mark.column = 0 then s else { s with cursor := ⟨[], s.mark.newline⟩ }) := by
    rw [regain_mark]
    split <;> rfl
  unfold takeEnd
  rw [ending]
  dsimp only
  rw [regain_closeAllBlocks, regain_dropKey]
  exact regain_bind fun u => by simp [push, mark, Except.map, pure, Except.pure, regain]

theorem regain_takeDirective : (regain ts s).takeDirective = s.takeDirective.map (regain ts) := by
  unfold takeDirective
  rw [regain_closeAllBlocks, regain_dropKey]
  refine regain_bind fun u => ?_
  rw [regain_cursor]
  cases readDirective u.cursor with
  | error f => rfl
  | ok read => simp [push, mark, Except.map, pure, Except.pure, regain]

theorem regain_takeDocumentIndicator (kind : Token.Kind) :
    (regain ts s).takeDocumentIndicator kind = (s.takeDocumentIndicator kind).map (regain ts) := by
  unfold takeDocumentIndicator
  rw [regain_closeAllBlocks, regain_dropKey]
  exact regain_bind fun u => by simp [push, mark, Except.map, pure, Except.pure, regain]

theorem regain_takeFlowStart (let_go : ts.length ≤ s.released) (kind : Token.Kind) :
    (regain ts s).takeFlowStart kind = (s.takeFlowStart kind).map (regain ts) := by
  unfold takeFlowStart
  rw [regain_saveKey let_go]
  exact regain_bind fun u => by simp [takeIndicator, push, mark, Except.map, pure, Except.pure, regain]

theorem regain_takeFlowEnd (kind : Token.Kind) :
    (regain ts s).takeFlowEnd kind = (s.takeFlowEnd kind).map (regain ts) := by
  unfold takeFlowEnd
  rw [regain_dropKey]
  refine regain_bind fun u => ?_
  have same : (regain ts u).outer = u.outer := rfl
  rw [same]
  cases outer : u.outer with
  | nil => simp [takeIndicator, push, mark, Except.map, pure, Except.pure, regain]
  | cons key outer => simp [takeIndicator, push, mark, Except.map, pure, Except.pure, regain]

theorem regain_takeFlowEntry : (regain ts s).takeFlowEntry = s.takeFlowEntry.map (regain ts) := by
  unfold takeFlowEntry
  rw [regain_dropKey]
  exact regain_bind fun u => by simp [takeIndicator, push, mark, Except.map, pure, Except.pure, regain]

theorem regain_takeBlockEntry (let_go : ts.length ≤ s.released) :
    (regain ts s).takeBlockEntry = s.takeBlockEntry.map (regain ts) := by
  unfold takeBlockEntry
  rw [regain_openBlock let_go _ (by simp), regain_dropKey, regain_inFlow, regain_keyAllowed]
  split
  · rfl
  · exact regain_bind fun u => by simp [takeIndicator, push, mark, Except.map, pure, Except.pure, regain]

theorem regain_takeKey (let_go : ts.length ≤ s.released) :
    (regain ts s).takeKey = s.takeKey.map (regain ts) := by
  unfold takeKey
  rw [regain_openBlock let_go _ (by simp), regain_dropKey, regain_inFlow, regain_keyAllowed]
  split
  · rfl
  · refine regain_bind fun u => ?_
    have flow : (regain ts u).inFlow = u.inFlow := rfl
    rw [flow]
    simp [takeIndicator, push, mark, Except.map, pure, Except.pure, regain]

theorem regain_takeValue (let_go : ts.length ≤ s.released) (ordered : Ordered s) :
    (regain ts s).takeValue = s.takeValue.map (regain ts) := by
  have key : (regain ts s).key = s.key := rfl
  unfold takeValue
  rw [key]
  cases pending : s.key with
  | some k =>
    have later := (ordered k (by simp [pending])).1
    have inserted : (s.insert k.number (.key false) k.mark).released = s.released := rfl
    simp only
    rw [regain_insert let_go later, regain_openBlock (by rw [inserted]; exact let_go) _
      (by intro n here; cases here; exact later), regain_takeIndicator]
    rfl
  | none =>
    simp only
    rw [regain_openBlock let_go _ (by simp), regain_inFlow, regain_keyAllowed]
    split
    · rfl
    · rw [regain_takeIndicator]
      rfl

theorem regain_takeName (let_go : ts.length ≤ s.released) (activity : Activity) (kind : String → Token.Kind) :
    (regain ts s).takeName activity kind = (s.takeName activity kind).map (regain ts) := by
  unfold takeName
  rw [regain_saveKey let_go]
  refine regain_bind fun u => ?_
  rw [regain_cursor]
  cases readName activity u.cursor with
  | error f => rfl
  | ok read => simp [push, mark, Except.map, pure, Except.pure, regain]

theorem regain_takeTag (let_go : ts.length ≤ s.released) :
    (regain ts s).takeTag = s.takeTag.map (regain ts) := by
  unfold takeTag
  rw [regain_saveKey let_go]
  refine regain_bind fun u => ?_
  rw [regain_cursor, regain_inFlow]
  cases readTag u.inFlow u.cursor with
  | error f => rfl
  | ok read => simp [push, mark, Except.map, pure, Except.pure, regain]

theorem regain_takeBlockScalar (style : ScalarStyle) :
    (regain ts s).takeBlockScalar style = (s.takeBlockScalar style).map (regain ts) := by
  unfold takeBlockScalar
  rw [regain_dropKey]
  refine regain_bind fun u => ?_
  rw [regain_cursor, regain_parent]
  cases readBlock (style = .literal) u.parent u.cursor with
  | error f => rfl
  | ok read => simp [push, mark, Except.map, pure, Except.pure, regain]

theorem regain_takeScalar (let_go : ts.length ≤ s.released) (style : ScalarStyle)
    (read : Mark → List Char → Mark → Except Fault ScalarRead) (skip : Nat) :
    (regain ts s).takeScalar style read skip = (s.takeScalar style read skip).map (regain ts) := by
  unfold takeScalar
  rw [regain_saveKey let_go]
  refine regain_bind fun u => ?_
  rw [regain_cursor, regain_mark]
  simp only
  cases read u.mark (u.cursor.skips skip).rest (u.cursor.skips skip).mark with
  | error f => rfl
  | ok text => simp [push, mark, Except.map, pure, Except.pure, regain]

theorem regain_takeToken (let_go : ts.length ≤ s.released) (ordered : Ordered s) :
    (regain ts s).takeToken = s.takeToken.map (regain ts) := by
  unfold takeToken
  rw [regain_cursor, regain_mark, regain_inFlow]
  extract_lets flow atStart
  split
  · exact regain_takeEnd
  · iterate 19
      rw [apply_ite (Except.map (regain ts))]
      refine ite_congr rfl (fun _ => ?_) (fun _ => ?_)
      · first
          | exact regain_takeDirective
          | exact regain_takeDocumentIndicator _
          | exact regain_takeFlowStart let_go _
          | exact regain_takeFlowEnd _
          | exact regain_takeFlowEntry
          | exact regain_takeBlockEntry let_go
          | exact regain_takeKey let_go
          | exact regain_takeValue let_go ordered
          | exact regain_takeName let_go _ _
          | exact regain_takeTag let_go
          | exact regain_takeBlockScalar _
          | exact regain_takeScalar let_go _ _ _
    rfl

theorem regain_advance (let_go : ts.length ≤ s.released) (ordered : Ordered s) :
    (regain ts s).advance = s.advance.map (regain ts) := by
  unfold advance
  rw [regain_toNextToken, regain_dropStaleKeys]
  cases dropped : s.toNextToken.dropStaleKeys with
  | error f => rfl
  | ok u =>
    have before := keeps_before dropped
    show ((regain ts u).closeBlocks u.mark.column).takeToken = _
    rw [regain_closeBlocks]
    exact regain_takeToken (by rw [before.released]; exact let_go) (before.moves.ordered ordered)

end Regain

/-- Where no key is pending none can be stale. -/
theorem dropStaleKeys_of_no_key {s : Scanner} (none_pending : ∀ k, some k ∉ s.key :: s.outer) :
    s.dropStaleKeys = .ok s := by
  have single : ∀ key ∈ s.key :: s.outer, s.dropStaleKey key = .ok key := by
    intro key member
    cases key with
    | none => rfl
    | some k => exact absurd member (none_pending k)
  have all : ∀ keys : List (Option PendingKey), (∀ key ∈ keys, s.dropStaleKey key = .ok key) →
      keys.mapM s.dropStaleKey = .ok keys := by
    intro keys each
    induction keys with
    | nil => rfl
    | cons key keys ih =>
      rw [List.mapM_cons, each key (by simp), ih fun k member => each k (by simp [member])]
      rfl
  unfold dropStaleKeys
  rw [all s.outer.reverse fun key member => single key (by simp [List.mem_reverse.1 member]),
    single s.key (by simp)]
  simp [bind, Except.bind, pure, Except.pure]

theorem foldl_min_le (f : PendingKey → Nat) (keys : List PendingKey) (n : Nat) :
    keys.foldl (fun n k => min n (f k)) n ≤ n ∧ ∀ k ∈ keys, keys.foldl (fun n k => min n (f k)) n ≤ f k := by
  induction keys generalizing n with
  | nil => simp
  | cons key keys ih =>
    obtain ⟨start, each⟩ := ih (min n (f key))
    refine ⟨by simp only [List.foldl_cons]; omega, fun k member => ?_⟩
    rcases List.mem_cons.1 member with rfl | later
    · simp only [List.foldl_cons]; omega
    · exact each k later

theorem readyCount_le (s : Scanner) : s.readyCount ≤ s.queue.length := (foldl_min_le _ _ _).1

theorem readyCount_le_key {s : Scanner} {k : PendingKey} (member : some k ∈ s.key :: s.outer) :
    s.readyCount ≤ k.number - s.released :=
  (foldl_min_le (fun k => k.number - s.released) _ _).2 k (List.mem_filterMap.2 ⟨some k, member, rfl⟩)

/-- The scanner after it has let go what need not wait. -/
def letGo (s : Scanner) : Scanner :=
  { s with queue := s.queue.drop s.readyCount, released := s.released + s.readyCount }

/-- What a scanner lets go, and what is left. -/
theorem release_eq {s u : Scanner} (ordered : Ordered s) (dropped : s.dropStaleKeys = .ok u) :
    s.release = .ok (u.queue.take u.readyCount, u.letGo) := by
  unfold release
  split
  · rename_i empty
    have none_pending : ∀ k, some k ∉ s.key :: s.outer := by
      intro k member
      have := ordered k member
      rw [List.isEmpty_iff.1 empty] at this
      simp at this
      omega
    rw [dropStaleKeys_of_no_key none_pending] at dropped
    cases dropped
    rfl
  · rw [dropped]
    rfl

theorem ordered_letGo {s : Scanner} (ordered : Ordered s) : Ordered s.letGo := by
  intro k member
  obtain ⟨low, high⟩ := ordered k member
  have ready := readyCount_le_key (s := s) member
  have length := readyCount_le s
  simp only [letGo, List.length_drop]
  omega

theorem regain_letGo (ts : List Token) (s : Scanner) :
    regain (ts ++ s.queue.take s.readyCount) s.letGo = regain ts s := by
  have length := readyCount_le s
  simp only [regain, letGo, List.append_assoc, List.take_append_drop, List.length_append, List.length_take]
  congr 1
  omega

/-- The tokens of a run that keeps them all are the tokens. -/
theorem tokens_of_run {s t : Scanner} {ts : List Token} (run : Run (regain ts s) n t) (ordered : Ordered s)
    (let_go : s.released = ts.length) (ended : t.ended = true) (none_pending : ∀ k, some k ∉ t.key :: t.outer)
    (fuel : Nat) : ∃ more, t.queue = ts ++ more ∧ tokens none (n + 1 + fuel) s = (more, none) := by
  generalize start : regain ts s = r at run
  induction run generalizing s ts with
  | done r =>
    subst start
    have none_here : ∀ k, some k ∉ s.key :: s.outer := none_pending
    have all : s.readyCount = s.queue.length := by
      have keys : (s.key :: s.outer).filterMap id = [] := by
        rw [List.filterMap_eq_nil_iff]
        intro key member
        cases key with
        | none => rfl
        | some k => exact absurd member (none_here k)
      rw [readyCount, keys, List.foldl_nil]
    have finished : s.letGo.ended = true := ended
    refine ⟨s.queue, rfl, ?_⟩
    rw [Nat.zero_add, Nat.add_comm, tokens, release_eq ordered (dropStaleKeys_of_no_key none_here)]
    simp [finished, all]
  | @round r v t n live step _ ih =>
    subst start
    obtain ⟨w, dropped, advanced⟩ := bind_eq_ok.1 step
    rw [regain_dropStaleKeys] at dropped
    obtain ⟨u, settled, same⟩ := map_eq_ok.1 dropped
    have keeps := keeps_dropStaleKeys settled
    have inOrder := keeps.moves.ordered ordered
    -- Some tokens go now; with them in place of the queue's front the next round is the same.
    have count : u.letGo.released = (ts ++ u.queue.take u.readyCount).length := by
      have length := readyCount_le u
      have kept := keeps.released
      simp only [letGo, List.length_append, List.length_take]
      omega
    rw [← same, ← regain_letGo, regain_advance (by omega) (ordered_letGo inOrder)] at advanced
    obtain ⟨x, read, here⟩ := map_eq_ok.1 advanced
    have moves := moves_advance read
    obtain ⟨more, queue, rest⟩ :=
      ih (moves.ordered (ordered_letGo inOrder)) (moves.released.trans count) ended none_pending here
    have on : u.letGo.ended = false := by
      obtain ⟨key, outer, rfl, _⟩ := dropStaleKeys_eq settled
      exact live
    refine ⟨u.queue.take u.readyCount ++ more, by rw [queue, List.append_assoc], ?_⟩
    rw [Nat.add_right_comm (n + 1) 1 fuel, tokens, release_eq ordered settled]
    simp [on, read, whole, rest]

end Scanner

/-- A run over a whole text that keeps its tokens ends with the tokens of the text. -/
theorem Source.tokens_of_run {chars : List Char} {t : Scanner} {n : Nat} (run : Scanner.Run (.start chars) n t)
    (short : n ≤ chars.length + 2) (ended : t.ended = true) (none_pending : ∀ k, some k ∉ t.key :: t.outer) :
    Source.tokens ⟨chars, none⟩ = (t.queue, none) := by
  have ordered : Scanner.Ordered (.start chars) := by
    intro k member
    simp [Scanner.start] at member
  obtain ⟨fuel, enough⟩ := Nat.exists_eq_add_of_le short
  have kept : Scanner.Run (Scanner.regain [] (.start chars)) n t := run
  obtain ⟨more, queue, tokens⟩ := Scanner.tokens_of_run kept ordered rfl ended none_pending fuel
  have count : chars.length + 3 = n + 1 + fuel := by omega
  rw [Source.tokens, count, tokens, queue]
  rfl

end MachineOperator.Yaml
