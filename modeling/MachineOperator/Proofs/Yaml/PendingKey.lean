import MachineOperator.Proofs.Result
import MachineOperator.Yaml.Token.Scan

/-!
Where pending keys stand. A key that may still turn out to be one has a place in the queue, in front of a token that
waits there; reading on keeps it so.
-/
namespace MachineOperator.Yaml.Scanner

/-- Every pending key comes before a token that is still in the queue. -/
def Ordered (s : Scanner) : Prop :=
  ∀ k, some k ∈ s.key :: s.outer → s.released ≤ k.number ∧ k.number < s.released + s.queue.length

/-- Nothing leaves the queue, and no key is new. -/
structure Keeps (s t : Scanner) : Prop where
  released : t.released = s.released
  queue : s.queue.length ≤ t.queue.length
  keys : ∀ k, some k ∈ t.key :: t.outer → some k ∈ s.key :: s.outer

theorem Keeps.trans (first : Keeps s t) (second : Keeps t u) : Keeps s u :=
  ⟨second.released.trans first.released, Nat.le_trans first.queue second.queue,
    fun k member => first.keys k (second.keys k member)⟩

/-- Reading on releases no token and leaves the pending keys in order. -/
structure Moves (s t : Scanner) : Prop where
  released : t.released = s.released
  ordered : Ordered s → Ordered t

theorem Keeps.moves (keeps : Keeps s t) : Moves s t := by
  refine ⟨keeps.released, fun ordered k member => ?_⟩
  obtain ⟨low, high⟩ := ordered k (keeps.keys k member)
  have := keeps.queue
  rw [keeps.released]
  omega

/-- A key may be saved for the token that comes next. -/
structure Saves (s t : Scanner) : Prop where
  released : t.released = s.released
  queue : t.queue = s.queue
  keys : ∀ k, some k ∈ t.key :: t.outer → some k ∈ s.key :: s.outer ∨ k.number = s.released + s.queue.length

/-- A saved key is in order once its token has been added. -/
theorem Saves.moves (saves : Saves s t) (released : u.released = t.released)
    (added : t.queue.length < u.queue.length)
    (keys : ∀ k, some k ∈ u.key :: u.outer → some k ∈ t.key :: t.outer) : Moves s u := by
  refine ⟨released.trans saves.released, fun ordered k member => ?_⟩
  have queue := congrArg List.length saves.queue
  rw [released, saves.released]
  rcases saves.keys k (keys k member) with old | new
  · obtain ⟨low, high⟩ := ordered k old
    omega
  · omega

section Parts
variable {s t : Scanner}

theorem keeps_insert (s : Scanner) (n : Nat) (kind : Token.Kind) (m : Mark) : Keeps s (s.insert n kind m) := by
  refine ⟨rfl, ?_, fun _ h => h⟩
  simp only [insert, List.length_append, List.length_take, List.length_cons, List.length_drop]
  omega

theorem keeps_openBlock (s : Scanner) (column : Nat) (number : Option Nat) (kind : Token.Kind) (m : Mark) :
    Keeps s (s.openBlock column number kind m) := by
  unfold openBlock
  split
  · exact ⟨rfl, Nat.le_refl _, fun _ h => h⟩
  · cases number with
    | none => exact ⟨rfl, by simp [push], fun _ h => h⟩
    | some n =>
      have inserted := keeps_insert { s with indents := column :: s.indents } n kind m
      exact ⟨inserted.released, inserted.queue, inserted.keys⟩

theorem keeps_closeBlocks (s : Scanner) (column : Nat) : Keeps s (s.closeBlocks column) := by
  unfold closeBlocks
  split
  · exact ⟨rfl, Nat.le_refl _, fun _ h => h⟩
  · exact ⟨rfl, by simp, fun _ h => h⟩

theorem keeps_closeAllBlocks (s : Scanner) : Keeps s s.closeAllBlocks := by
  unfold closeAllBlocks
  split
  · exact ⟨rfl, Nat.le_refl _, fun _ h => h⟩
  · exact ⟨rfl, by simp, fun _ h => h⟩

theorem keeps_dropKey (dropped : s.dropKey = .ok t) : Keeps s t := by
  unfold dropKey at dropped
  split at dropped
  · split at dropped
    · cases dropped
    · cases dropped
      exact ⟨rfl, Nat.le_refl _, fun _ h => by simp_all⟩
  · cases dropped
    exact ⟨rfl, Nat.le_refl _, fun _ h => h⟩

theorem queue_dropKey (dropped : s.dropKey = .ok t) : t.queue = s.queue := by
  unfold dropKey at dropped
  split at dropped
  · split at dropped
    · cases dropped
    · cases dropped; rfl
  · cases dropped; rfl

theorem mem_dropStaleKey {key key' : Option PendingKey} (dropped : s.dropStaleKey key = .ok key') :
    key' = none ∨ key' = key := by
  unfold dropStaleKey at dropped
  split at dropped
  · split at dropped
    · split at dropped
      · cases dropped
      · cases dropped; exact .inl rfl
    · cases dropped; exact .inr rfl
  · cases dropped; exact .inl rfl

theorem mem_mapM_dropStaleKey {keys keys' : List (Option PendingKey)} (dropped : keys.mapM s.dropStaleKey = .ok keys')
    (k : PendingKey) (member : some k ∈ keys') : some k ∈ keys := by
  induction keys generalizing keys' with
  | nil => cases dropped; exact member
  | cons key keys ih =>
    rw [List.mapM_cons] at dropped
    obtain ⟨key', first, dropped⟩ := bind_eq_ok.1 dropped
    obtain ⟨rest, others, same⟩ := bind_eq_ok.1 dropped
    cases same
    rcases List.mem_cons.1 member with here | there
    · rcases mem_dropStaleKey first with gone | same
      · simp [gone] at here
      · simp [here, same]
    · exact List.mem_cons_of_mem _ (ih others there)

/-- Only keys are given up. -/
theorem dropStaleKeys_eq (dropped : s.dropStaleKeys = .ok t) :
    ∃ key outer, t = { s with key, outer } ∧ ∀ k, some k ∈ key :: outer → some k ∈ s.key :: s.outer := by
  obtain ⟨outer', outer, dropped⟩ := bind_eq_ok.1 dropped
  obtain ⟨key', inner, same⟩ := bind_eq_ok.1 dropped
  cases same
  refine ⟨key', outer'.reverse, rfl, fun k member => ?_⟩
  rcases List.mem_cons.1 member with here | there
  · rcases mem_dropStaleKey inner with gone | same
    · simp [gone] at here
    · simp [here, same]
  · have := mem_mapM_dropStaleKey outer k (List.mem_reverse.1 there)
    exact List.mem_cons_of_mem _ (List.mem_reverse.1 this)

theorem keeps_dropStaleKeys (dropped : s.dropStaleKeys = .ok t) : Keeps s t := by
  obtain ⟨key, outer, rfl, keys⟩ := dropStaleKeys_eq dropped
  exact ⟨rfl, Nat.le_refl _, keys⟩

theorem saves_saveKey (saved : s.saveKey = .ok t) : Saves s t := by
  unfold saveKey at saved
  split at saved
  · obtain ⟨u, dropped, same⟩ := bind_eq_ok.1 saved
    cases same
    refine ⟨(keeps_dropKey dropped).released, queue_dropKey (t := u) dropped, fun k member => ?_⟩
    rcases List.mem_cons.1 member with here | there
    · cases here; exact .inr rfl
    · exact .inl ((keeps_dropKey dropped).keys k (List.mem_cons_of_mem _ there))
  · cases saved
    exact ⟨rfl, rfl, fun k h => .inl h⟩

/-! Each kind of token, by what it does to the keys and the queue. -/

theorem keeps_takeEnd (taken : s.takeEnd = .ok t) : Keeps s t := by
  obtain ⟨u, dropped, same⟩ := bind_eq_ok.1 taken
  cases same
  have closed := (keeps_closeAllBlocks _).trans (keeps_dropKey dropped)
  refine Keeps.trans ⟨?_, ?_, ?_⟩ (closed.trans ⟨rfl, by simp [push], fun _ h => h⟩)
  · split <;> rfl
  · split <;> exact Nat.le_refl _
  · split <;> exact fun _ h => h

theorem keeps_takeDirective (taken : s.takeDirective = .ok t) : Keeps s t := by
  obtain ⟨u, dropped, taken⟩ := bind_eq_ok.1 taken
  obtain ⟨⟨kind, cursor⟩, _, same⟩ := bind_eq_ok.1 taken
  cases same
  exact ((keeps_closeAllBlocks _).trans (keeps_dropKey dropped)).trans ⟨rfl, by simp [push], fun _ h => h⟩

theorem keeps_takeDocumentIndicator {kind : Token.Kind} (taken : s.takeDocumentIndicator kind = .ok t) : Keeps s t := by
  obtain ⟨u, dropped, same⟩ := bind_eq_ok.1 taken
  cases same
  exact ((keeps_closeAllBlocks _).trans (keeps_dropKey dropped)).trans ⟨rfl, by simp [push], fun _ h => h⟩

theorem keeps_takeFlowEnd {kind : Token.Kind} (taken : s.takeFlowEnd kind = .ok t) : Keeps s t := by
  obtain ⟨u, dropped, same⟩ := bind_eq_ok.1 taken
  cases same
  refine (keeps_dropKey dropped).trans ?_
  split
  · exact ⟨rfl, by simp [takeIndicator, push], fun _ h => h⟩
  · rename_i key outer nested
    refine ⟨rfl, by simp [takeIndicator, push], fun k member => ?_⟩
    rw [nested]
    exact List.mem_cons_of_mem _ member

theorem keeps_takeFlowEntry (taken : s.takeFlowEntry = .ok t) : Keeps s t := by
  obtain ⟨u, dropped, same⟩ := bind_eq_ok.1 taken
  cases same
  exact (keeps_dropKey dropped).trans ⟨rfl, by simp [takeIndicator, push], fun _ h => h⟩

theorem keeps_takeBlockEntry (taken : s.takeBlockEntry = .ok t) : Keeps s t := by
  unfold takeBlockEntry at taken
  split at taken
  · cases taken
  · obtain ⟨u, dropped, same⟩ := bind_eq_ok.1 taken
    cases same
    exact ((keeps_openBlock ..).trans (keeps_dropKey dropped)).trans
      ⟨rfl, by simp [takeIndicator, push], fun _ h => h⟩

theorem keeps_takeKey (taken : s.takeKey = .ok t) : Keeps s t := by
  unfold takeKey at taken
  split at taken
  · cases taken
  · obtain ⟨u, dropped, same⟩ := bind_eq_ok.1 taken
    cases same
    exact ((keeps_openBlock ..).trans (keeps_dropKey dropped)).trans
      ⟨rfl, by simp [takeIndicator, push], fun _ h => h⟩

theorem keeps_takeValue (taken : s.takeValue = .ok t) : Keeps s t := by
  unfold takeValue at taken
  split at taken
  · cases taken
    refine ((keeps_insert ..).trans (keeps_openBlock ..)).trans
      ⟨rfl, by simp [takeIndicator, push], fun k member => ?_⟩
    rcases List.mem_cons.1 member with here | there
    · cases here
    · exact List.mem_cons_of_mem _ there
  · split at taken
    · cases taken
    · cases taken
      exact (keeps_openBlock ..).trans ⟨rfl, by simp [takeIndicator, push], fun _ h => h⟩

theorem keeps_takeBlockScalar {style : ScalarStyle} (taken : s.takeBlockScalar style = .ok t) : Keeps s t := by
  obtain ⟨u, dropped, taken⟩ := bind_eq_ok.1 taken
  obtain ⟨read, _, same⟩ := bind_eq_ok.1 taken
  cases same
  exact (keeps_dropKey dropped).trans ⟨rfl, by simp [push], fun _ h => h⟩

theorem moves_takeFlowStart {kind : Token.Kind} (taken : s.takeFlowStart kind = .ok t) : Moves s t := by
  obtain ⟨u, saved, same⟩ := bind_eq_ok.1 taken
  cases same
  refine (saves_saveKey saved).moves rfl (by simp [takeIndicator, push]) fun k member => ?_
  rcases List.mem_cons.1 member with here | there
  · cases here
  · exact there

theorem moves_takeName {activity : Activity} {kind : String → Token.Kind}
    (taken : s.takeName activity kind = .ok t) : Moves s t := by
  obtain ⟨u, saved, taken⟩ := bind_eq_ok.1 taken
  obtain ⟨⟨name, cursor⟩, _, same⟩ := bind_eq_ok.1 taken
  cases same
  exact (saves_saveKey saved).moves rfl (by simp [push]) fun _ h => h

theorem moves_takeTag (taken : s.takeTag = .ok t) : Moves s t := by
  obtain ⟨u, saved, taken⟩ := bind_eq_ok.1 taken
  obtain ⟨⟨kind, cursor⟩, _, same⟩ := bind_eq_ok.1 taken
  cases same
  exact (saves_saveKey saved).moves rfl (by simp [push]) fun _ h => h

theorem moves_takeScalar {style : ScalarStyle} {read : Mark → List Char → Mark → Except Fault ScalarRead}
    {skip : Nat} (taken : s.takeScalar style read skip = .ok t) : Moves s t := by
  obtain ⟨u, saved, taken⟩ := bind_eq_ok.1 taken
  obtain ⟨text, _, same⟩ := bind_eq_ok.1 taken
  cases same
  exact (saves_saveKey saved).moves rfl (by simp [push]) fun _ h => h

theorem moves_takeToken (taken : s.takeToken = .ok t) : Moves s t := by
  unfold takeToken at taken
  extract_lets flow atStart at taken
  revert taken
  split
  · exact fun taken => (keeps_takeEnd taken).moves
  · iterate 19
      refine iteInduction (motive := fun x : Except Fault Scanner => x = .ok t → Moves s t)
        (fun _ taken => ?_) (fun _ => ?_)
      · first
          | exact (keeps_takeDirective taken).moves
          | exact (keeps_takeDocumentIndicator taken).moves
          | exact (keeps_takeFlowEnd taken).moves
          | exact (keeps_takeFlowEntry taken).moves
          | exact (keeps_takeBlockEntry taken).moves
          | exact (keeps_takeKey taken).moves
          | exact (keeps_takeValue taken).moves
          | exact (keeps_takeBlockScalar taken).moves
          | exact moves_takeFlowStart taken
          | exact moves_takeName taken
          | exact moves_takeTag taken
          | exact moves_takeScalar taken
    exact fun taken => by cases taken

/-- What happens before a token is read keeps everything in the queue. -/
theorem keeps_before {u : Scanner} (dropped : s.toNextToken.dropStaleKeys = .ok u) :
    Keeps s (u.closeBlocks u.mark.column) := by
  have keeps : Keeps s u := ⟨(keeps_dropStaleKeys dropped).released, (keeps_dropStaleKeys dropped).queue,
    (keeps_dropStaleKeys dropped).keys⟩
  exact keeps.trans (keeps_closeBlocks ..)

theorem moves_advance (read : s.advance = .ok t) : Moves s t := by
  obtain ⟨u, dropped, taken⟩ := bind_eq_ok.1 read
  have before := (keeps_before dropped).moves
  have token := moves_takeToken taken
  exact ⟨token.released.trans before.released, fun ordered => token.ordered (before.ordered ordered)⟩

end Parts

end MachineOperator.Yaml.Scanner
