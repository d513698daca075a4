import MachineOperator.Proofs.Yaml.Key

/-!
The tokens of a written document. A collection opens a block at its column with its first key or indicator, and the
block is closed on the way to the next token to the left of it. The tokens between are those of the parts, in order.
-/
namespace MachineOperator.Yaml

namespace Value

mutual

/-- Whether all numbers in a value are whole and of up to 128 bits. -/
def isExact : Value → Bool
  | .int n => Width.fits128 n
  | .float _ => false
  | .sequence vs => areExact vs
  | .mapping es => holdExact es
  | .null | .bool _ | .string _ => true

def areExact : List Value → Bool
  | [] => true
  | v :: r => v.isExact && areExact r

def holdExact : List (String × Value) → Bool
  | [] => true
  | (_, v) :: r => v.isExact && holdExact r

end

mutual

/-- The tokens of a value. The items of a sequence right after a key of their own column are bare. -/
def kinds (bare : Bool) : Value → List Token.Kind
  | .mapping (e :: es) => .blockMappingStart :: entryKinds (e :: es) ++ [.blockEnd]
  | .sequence (v :: vs) =>
    if bare then itemKinds (v :: vs) else .blockSequenceStart :: itemKinds (v :: vs) ++ [.blockEnd]
  | v => v.leafKinds

def entryKinds : List (String × Value) → List Token.Kind
  | [] => []
  | (key, v) :: r =>
    .key (!isSimpleKey key) :: .scalar (styleOf key) key :: .value :: kinds (isSimpleKey key) v ++ entryKinds r

def itemKinds : List Value → List Token.Kind
  | [] => []
  | v :: r => .blockEntry :: kinds false v ++ itemKinds r

end

end Value

namespace Scanner
variable {indents final : List Nat} {allowed : Bool} {m : Mark} {text after : List Char} {k c : Nat} {more : List Char}
  {kinds : List Token.Kind}

/-- From right after an indicator a text is read as tokens of these kinds, after blanks or in the next line. -/
structure Continues (indents : List Nat) (allowed : Bool) (m : Mark) (text : List Char) (k : Nat) (more : List Char)
    (final : List Nat) (kinds : List Token.Kind) : Prop where
  line : (m.past text).column = 0
  way : ∀ queue, ∃ a n ts, (facing indents allowed none queue (text ++ (spaces k ++ more)) m).arrive = .ok a ∧
    n ≤ text.length ∧ ts.map Token.kind = kinds ∧
    Way a n ((facing final true none (queue ++ ts) more (m.past (text ++ spaces k))).closeBlocks k)

theorem continues_space (scans : Scans indents allowed m.next text k more final kinds) (begins : BeginsToken text)
    (right : parentOf indents ≤ m.column + 2) : Continues indents allowed m (' ' :: text) k more final kinds where
  line := scans.line
  way := fun queue => by
    obtain ⟨n, ts, short, same, way⟩ := scans.way queue
    have arrived : (facing indents allowed none queue (spaces 1 ++ (text ++ (spaces k ++ more))) m).arrive = _ :=
      arrive_spaces 1 (begins.append _).startsToken
    rw [closeBlocks_facing_of_le (by rw [Mark.past_spaces]; exact right)] at arrived
    exact ⟨_, n, ts, arrived, by simp; omega, same, way⟩

theorem continues_newline {j : Nat} (scans : Scans indents true (m.newline.past (spaces j)) text k more final kinds)
    (begins : BeginsToken text) (right : parentOf indents ≤ j + 1) :
    Continues indents allowed m ('\n' :: (spaces j ++ text)) k more final kinds where
  line := by
    rw [Mark.past_cons, Mark.past_append]
    exact scans.line
  way := fun queue => by
    obtain ⟨n, ts, short, same, way⟩ := scans.way queue
    have arrived :
        (facing indents allowed none queue ('\n' :: spaces j ++ (text ++ (spaces k ++ more))) m).arrive = _ :=
      arrive_newline j (begins.append _).startsToken (by simp)
    rw [closeBlocks_facing_of_le right] at arrived
    have past : m.past ('\n' :: (spaces j ++ text) ++ spaces k) =
        (m.newline.past (spaces j)).past (text ++ spaces k) := by
      rw [List.cons_append, Mark.past_cons, List.append_assoc, Mark.past_append]
      rfl
    rw [past, List.cons_append, List.append_assoc]
    exact ⟨_, n, ts, arrived, by simp; omega, same, way⟩

/-- An indicator and what follows it. -/
theorem scans_indicator {sign : Char} {first : List Token.Kind} {around : List Nat} (no_break : isBreak sign = false)
    (taken : ∀ queue rest, isDivider rest = true → (facing around true none queue (sign :: rest) m).takeToken =
      .ok (facing indents true none (queue ++ tokensAt m first) rest m.next))
    (divider : ∀ x, isDivider (after ++ x) = true)
    (value : Continues indents true m.next after k more final kinds) :
    Scans around true m (sign :: after) k more final (first ++ kinds) where
  line := by
    rw [Mark.past_cons, no_break]
    exact value.line
  way := fun queue => by
    obtain ⟨a, n, ts, arrived, short, same, way⟩ := value.way (queue ++ tokensAt m first)
    have past : m.past (sign :: after ++ spaces k) = m.next.past (after ++ spaces k) := by
      rw [List.cons_append, Mark.past_cons, no_break]
      rfl
    refine ⟨n + 1, tokensAt m first ++ ts, by simpa using short, by simp [same], ?_⟩
    rw [List.append_assoc] at way
    rw [past]
    exact .token (taken queue _ (divider _)) rfl arrived way

/-- Two parts of a block collection, one after the other. -/
theorem scans_join {around : List Nat} {first second : List Char} {kinds' : List Token.Kind}
    (left : Scans around allowed m first c (second ++ (spaces k ++ more)) (c :: indents) kinds)
    (right : ∀ p : Mark, p.column = c → Scans (c :: indents) true p second k more final kinds') :
    Scans around allowed m (first ++ (spaces c ++ second)) k more final (kinds ++ kinds') := by
  have column : (m.past (first ++ spaces c)).column = c := by
    rw [Mark.past_append, Mark.past_spaces]
    simp [left.line]
  have rest := right _ column
  refine ⟨?_, fun queue => ?_⟩
  · rw [← List.append_assoc, Mark.past_append]
    exact rest.line
  · obtain ⟨n, ts, short, same, way⟩ := left.way queue
    obtain ⟨n', ts', short', same', way'⟩ := rest.way (queue ++ ts)
    have past : m.past (first ++ (spaces c ++ second) ++ spaces k) =
        (m.past (first ++ spaces c)).past (second ++ spaces k) := by
      rw [← Mark.past_append]
      simp
    refine ⟨n + n', ts ++ ts', ?_, by simp [same, same'], ?_⟩
    · simp only [List.length_append]
      omega
    · rw [closeBlocks_facing_of_le (Nat.le_refl _)] at way
      rw [past, List.append_assoc, List.append_assoc]
      rw [List.append_assoc] at way'
      exact way.trans way'

/-- To the left of a block the block ends. -/
theorem scans_close (scans : Scans indents allowed m text k more (c :: final) kinds) (left : k < c) :
    Scans indents allowed m text k more final (kinds ++ [.blockEnd]) := by
  refine ⟨scans.line, fun queue => ?_⟩
  obtain ⟨n, ts, short, same, way⟩ := scans.way queue
  refine ⟨n, ts ++ [⟨.blockEnd, m.past (text ++ spaces k)⟩], short, by simp [same], ?_⟩
  rw [closeBlocks_facing_cons left, List.append_assoc] at way
  exact way

section Parts
variable {fresh : Bool} {ks : List Token.Kind} (column : m.column = c) (left : fresh = true → parentOf indents ≤ c)
include column left

/-- An item is its indicator and its value. -/
theorem scans_item (divider : ∀ x, isDivider (after ++ x) = true)
    (value : Continues (c :: indents) true m.next after k more (c :: indents) ks) :
    Scans (around fresh c indents) true m ('-' :: after) k more (c :: indents)
      (begun fresh .blockSequenceStart ++ .blockEntry :: ks) := by
  subst column
  have scans : Scans (around fresh m.column indents) true m ('-' :: after) k more (m.column :: indents) _ :=
    scans_indicator (by decide) (fun _ _ divider => takeToken_entry divider left) divider value
  rwa [List.append_assoc] at scans

theorem parentOf_around : parentOf (around fresh c indents) ≤ m.column + 1 := by
  cases fresh with
  | true => exact Nat.le_succ_of_le (by rw [column]; exact left rfl)
  | false => simp [around, parentOf, column]

/-- An entry is a key that may do without its indicator, a `:` and its value. -/
theorem scans_simpleKey {key : String} (simple : isSimpleKey key = true) (divider : ∀ x, isDivider (after ++ x) = true)
    (value : ∀ p : Mark, c < p.column → Continues (c :: indents) false p after k more (c :: indents) ks) :
    Scans (around fresh c indents) true m (printKey key ++ ':' :: after) k more (c :: indents)
      (begun fresh .blockMappingStart ++ .key false :: .scalar (styleOf key) key :: .value :: ks) := by
  have right := parentOf_around column left
  subst column
  obtain ⟨one_line, some_text, short⟩ := printKey_line simple
  have past := Mark.past_line m one_line
  have value := value (m.past (printKey key)).next (by rw [past]; exact Nat.lt_succ_of_le (Nat.le_add_right ..))
  have whole : ∀ x, m.past (printKey key ++ ':' :: x) = (m.past (printKey key)).next.past x := by
    intro x
    rw [Mark.past_append, Mark.past_cons]
    rfl
  refine ⟨by rw [whole]; exact value.line, fun queue => ?_⟩
  obtain ⟨a, n, ts, arrived, few, same, way⟩ := value.way
    (queue ++ (tokensAt m (begun fresh .blockMappingStart ++ [.key false, .scalar (styleOf key) key]) ++
      [⟨.value, m.past (printKey key)⟩]))
  have key_read : (facing (around fresh m.column indents) true none queue
      (printKey key ++ ':' :: (after ++ (spaces k ++ more))) m).takeToken = _ :=
    takeToken_printKey simple (by omega) (divider _)
  have stays : (facing (around fresh m.column indents) false
      (some ⟨parentOf (around fresh m.column indents) == m.column + 1, queue.length, m⟩)
      (queue ++ [⟨.scalar (styleOf key) key, m⟩]) (':' :: (after ++ (spaces k ++ more)))
        (m.past (printKey key))).arrive =
      _ := arrive_colon (by rw [past]) (by rw [past]; simp; omega) (by rw [past]; simp; omega)
  have key_known : (facing (around fresh m.column indents) false
      (some ⟨parentOf (around fresh m.column indents) == m.column + 1, queue.length, m⟩)
      (queue ++ [⟨.scalar (styleOf key) key, m⟩]) (':' :: (after ++ (spaces k ++ more)))
        (m.past (printKey key))).takeToken =
      _ := takeToken_colon (divider _) left
  refine ⟨n + 2, tokensAt m (begun fresh .blockMappingStart ++ [.key false, .scalar (styleOf key) key]) ++
    (⟨.value, m.past (printKey key)⟩ :: ts), ?_, by simp [same], ?_⟩
  · simp only [List.length_append, List.length_cons]
    omega
  · rw [List.append_assoc, List.cons_append, List.append_assoc, List.cons_append, whole]
    simp only [List.append_assoc, List.cons_append, List.nil_append] at way
    exact .token key_read rfl stays (.token key_known rfl arrived (by simpa using way))

/-- Or it is a key with its indicator, which ends in a line of its own, and then a `:` and its value. -/
theorem scans_explicitKey {key : String} (divider : ∀ x, isDivider (after ++ x) = true)
    (value : ∀ p : Mark, p.column = c + 1 → Continues (c :: indents) true p after k more (c :: indents) ks) :
    Scans (around fresh c indents) true m ('?' :: ' ' :: printString (c + 2) key ++ (spaces c ++ ':' :: after)) k more
      (c :: indents) (begun fresh .blockMappingStart ++ .key true :: .scalar (styleOf key) key :: .value :: ks) := by
  have written : Continues (c :: indents) true m.next (' ' :: printString (c + 2) key) c
      (':' :: after ++ (spaces k ++ more))
      (c :: indents) [.scalar (styleOf key) key] :=
    continues_space (scans_leaf (.string key) (by simp) rfl
      (by simp [parentOf, column]) rfl (.inl (by simp [parentOf])))
      (beginsToken_printString _ key) (by simp [parentOf, column])
  have first : Scans (around fresh c indents) true m ('?' :: ' ' :: printString (c + 2) key) c
      (':' :: after ++ (spaces k ++ more)) (c :: indents) (begun fresh .blockMappingStart ++ [.key true] ++
        [.scalar (styleOf key) key]) := by
    subst column
    exact scans_indicator (by decide) (fun _ _ divider => takeToken_key divider left) (fun _ => rfl) written
  have second : ∀ p : Mark, p.column = c → Scans (c :: indents) true p (':' :: after) k more (c :: indents)
      ([.value] ++ ks) := by
    intro p here
    have taken : ∀ queue rest, isDivider rest = true →
        (facing (around false p.column indents) true none queue (':' :: rest) p).takeToken = _ :=
      fun _ _ divider => takeToken_value divider (by simp)
    rw [here] at taken
    exact scans_indicator (by decide) taken divider (value p.next (by simp [here]))
  have entry := scans_join first second
  simpa using entry

end Parts

theorem beginsToken_printEntries (n : Nat) (e : String × Value) (es : List (String × Value)) :
    BeginsToken (Value.printEntries n (e :: es)) := by
  obtain ⟨key, v⟩ := e
  rw [Value.printEntries]
  split
  · exact ((beginsToken_printKey key).append _).append _
  · exact ⟨'?', _, rfl, rfl⟩

theorem beginsToken_printItems (n : Nat) (v : Value) (vs : List Value) : BeginsToken (Value.printItems n (v :: vs)) :=
  ⟨'-', _, by rw [Value.printItems]; rfl, rfl⟩

theorem isDivider_printAfterKey (n : Nat) (v : Value) (x : List Char) : isDivider (v.printAfterKey n ++ x) = true := by
  cases v with
  | mapping entries => cases entries <;> rfl
  | sequence items => cases items <;> rfl
  | _ => rfl

theorem isDivider_printAfterIndicator (n : Nat) (v : Value) (x : List Char) :
    isDivider (v.printAfterIndicator n ++ x) = true := by
  cases v with
  | mapping entries => cases entries <;> rfl
  | sequence items => cases items <;> rfl
  | _ => rfl

theorem continues_leaf {v : Value} (whole : ∀ x, v ≠ .float x) (right : c < m.column) (starts : startsToken more = true)
    (left : k ≤ c) :
    Continues (c :: indents) allowed m (' ' :: v.printLeaf (c + 2)) k more (c :: indents) v.leafKinds :=
  continues_space (scans_leaf v whole rfl (by simp only [parentOf, Mark.next_column]; omega) starts
    (.inl (by simp only [parentOf]; omega))) (beginsToken_printLeaf _ v whole) (by simp only [parentOf]; omega)

mutual

/-- After a key the items of a sequence stand at the key's column, and everything else to the right of it. -/
theorem continues_afterKey (v : Value) (whole : v.isExact = true) {indents : List Nat} {m : Mark} {k c : Nat}
    {more : List Char} (starts : startsToken more = true) (right : c < m.column) (left : k ≤ c) :
    Continues (c :: indents) false m (v.printAfterKey c) k more (c :: indents) (v.kinds true) := by
  match v, whole with
  | .mapping ((key, w) :: es), whole =>
    have scans : Scans (c :: indents) true (m.newline.past (spaces (c + 2)))
        (Value.printEntries (c + 2) ((key, w) :: es)) k more ((c + 2) :: c :: indents)
        (.blockMappingStart :: Value.entryKinds ((key, w) :: es)) :=
      scans_entries key w es whole true starts (by simp [Mark.past_spaces]) (by simp [parentOf]) (by omega)
    exact continues_newline (scans_close scans (by omega)) (beginsToken_printEntries _ (key, w) es) (by simp [parentOf])
  | .sequence (w :: vs), whole =>
    have scans : Scans (c :: indents) true (m.newline.past (spaces c)) (Value.printItems c (w :: vs)) k more
        (c :: indents)
        (Value.itemKinds (w :: vs)) :=
      scans_items w vs whole false starts (by simp [Mark.past_spaces]) (by simp) left
    exact continues_newline scans (beginsToken_printItems _ w vs) (by simp [parentOf])
  | .mapping [], _ => exact continues_leaf (by simp) right starts left
  | .sequence [], _ => exact continues_leaf (by simp) right starts left
  | .null, _ => exact continues_leaf (by simp) right starts left
  | .bool b, _ => exact continues_leaf (by simp) right starts left
  | .int n, _ => exact continues_leaf (by simp) right starts left
  | .string s, _ => exact continues_leaf (by simp) right starts left
termination_by sizeOf v

/-- After an indicator a collection starts on the same line. -/
theorem continues_afterIndicator (v : Value) (whole : v.isExact = true) {indents : List Nat} {m : Mark} {k c : Nat}
    {more : List Char} (starts : startsToken more = true) (column : m.column = c + 1) (left : k ≤ c) :
    Continues (c :: indents) true m (v.printAfterIndicator c) k more (c :: indents) (v.kinds false) := by
  have right : c < m.column := by omega
  match v, whole with
  | .mapping ((key, w) :: es), whole =>
    have scans : Scans (c :: indents) true m.next (Value.printEntries (c + 2) ((key, w) :: es)) k more
        ((c + 2) :: c :: indents) (.blockMappingStart :: Value.entryKinds ((key, w) :: es)) :=
      scans_entries key w es whole true starts (by simp [column]) (by simp [parentOf]) (by omega)
    exact continues_space (scans_close scans (by omega)) (beginsToken_printEntries _ (key, w) es)
      (by simp [parentOf, column])
  | .sequence (w :: vs), whole =>
    have scans : Scans (c :: indents) true m.next (Value.printItems (c + 2) (w :: vs)) k more
        ((c + 2) :: c :: indents) (.blockSequenceStart :: Value.itemKinds (w :: vs)) :=
      scans_items w vs whole true starts (by simp [column]) (by simp [parentOf]) (by omega)
    exact continues_space (scans_close scans (by omega)) (beginsToken_printItems _ w vs) (by simp [parentOf, column])
  | .mapping [], _ => exact continues_leaf (by simp) right starts left
  | .sequence [], _ => exact continues_leaf (by simp) right starts left
  | .null, _ => exact continues_leaf (by simp) right starts left
  | .bool b, _ => exact continues_leaf (by simp) right starts left
  | .int n, _ => exact continues_leaf (by simp) right starts left
  | .string s, _ => exact continues_leaf (by simp) right starts left
termination_by sizeOf v

/-- The entries of a mapping, the first of which begins it if it is fresh. -/
theorem scans_entries (key : String) (v : Value) (es : List (String × Value))
    (whole : Value.holdExact ((key, v) :: es) = true)
    {indents : List Nat} {m : Mark} {k c : Nat} {more : List Char} (fresh : Bool) (starts : startsToken more = true)
    (column : m.column = c) (within : fresh = true → parentOf indents ≤ c) (left : k ≤ c) :
    Scans (around fresh c indents) true m (Value.printEntries c ((key, v) :: es)) k more (c :: indents)
      (begun fresh .blockMappingStart ++ Value.entryKinds ((key, v) :: es)) := by
  obtain ⟨here, others⟩ : v.isExact = true ∧ Value.holdExact es = true := by
    simpa only [Value.holdExact, Bool.and_eq_true] using whole
  have entry : ∃ text, (∀ tail, Value.printEntries c ((key, v) :: tail) =
      text ++ if tail.isEmpty then [] else spaces c ++ Value.printEntries c tail) ∧
      ∀ {k : Nat} {more : List Char}, startsToken more = true → k ≤ c →
        Scans (around fresh c indents) true m text k more (c :: indents) (begun fresh .blockMappingStart ++
          .key (!isSimpleKey key) :: .scalar (styleOf key) key :: .value :: v.kinds (isSimpleKey key)) := by
    cases simple : isSimpleKey key with
    | true =>
      refine ⟨printKey key ++ ':' :: v.printAfterKey c, fun tail => by simp [Value.printEntries, simple], ?_⟩
      exact fun starts left => scans_simpleKey column within simple (isDivider_printAfterKey c v) fun p right =>
        continues_afterKey v here starts right left
    | false =>
      refine ⟨'?' :: ' ' :: printString (c + 2) key ++ (spaces c ++ ':' :: v.printAfterIndicator c),
        fun tail => by simp [Value.printEntries, simple], ?_⟩
      exact fun starts left => scans_explicitKey column within (isDivider_printAfterIndicator c v) fun p column =>
        continues_afterIndicator v here starts column left
  obtain ⟨text, parts, entry⟩ := entry
  match same : es, others with
  | [], _ => simpa [parts, Value.entryKinds] using entry starts left
  | (key', w) :: es, others =>
    have rest : ∀ p : Mark, p.column = c → Scans (c :: indents) true p (Value.printEntries c ((key', w) :: es)) k more
        (c :: indents) (Value.entryKinds ((key', w) :: es)) := fun p column =>
      scans_entries key' w es others false starts column (by simp) left
    have joined := scans_join (entry ((beginsToken_printEntries c (key', w) es).append _).startsToken (Nat.le_refl c))
      rest
    rw [parts, Value.entryKinds]
    simpa using joined
termination_by sizeOf ((key, v) :: es)

/-- The items of a sequence. -/
theorem scans_items (v : Value) (vs : List Value) (whole : Value.areExact (v :: vs) = true)
    {indents : List Nat} {m : Mark} {k c : Nat} {more : List Char} (fresh : Bool) (starts : startsToken more = true)
    (column : m.column = c) (within : fresh = true → parentOf indents ≤ c) (left : k ≤ c) :
    Scans (around fresh c indents) true m (Value.printItems c (v :: vs)) k more (c :: indents)
      (begun fresh .blockSequenceStart ++ Value.itemKinds (v :: vs)) := by
  obtain ⟨here, others⟩ : v.isExact = true ∧ Value.areExact vs = true := by
    simpa only [Value.areExact, Bool.and_eq_true] using whole
  have item : ∀ {k : Nat} {more : List Char}, startsToken more = true → k ≤ c →
      Scans (around fresh c indents) true m ('-' :: v.printAfterIndicator c) k more (c :: indents)
        (begun fresh .blockSequenceStart ++ .blockEntry :: v.kinds false) := fun starts left =>
    scans_item column within (isDivider_printAfterIndicator c v)
      (continues_afterIndicator v here starts (by simp [column]) left)
  match same : vs, others with
  | [], _ => simpa [Value.printItems, Value.itemKinds] using item starts left
  | w :: ws, others =>
    have rest : ∀ p : Mark, p.column = c → Scans (c :: indents) true p (Value.printItems c (w :: ws)) k more
        (c :: indents)
        (Value.itemKinds (w :: ws)) := fun p column => scans_items w ws others false starts column (by simp) left
    have joined := scans_join (item ((beginsToken_printItems c w ws).append _).startsToken (Nat.le_refl c)) rest
    rw [Value.printItems, Value.itemKinds]
    simpa using joined
termination_by sizeOf (v :: vs)
decreasing_by all_goals subst_vars; simp_wf <;> omega

end

/-- At the end of the text all blocks end. -/
theorem takeToken_end (indents : List Nat) (column : m.column = 0) (queue : List Token) :
    (facing indents true none queue [] m).takeToken = .ok { facing [] false none
      (queue ++ tokensAt m (indents.map (fun _ => .blockEnd) ++ [.streamEnd])) [] m with ended := true } := by
  simp [takeToken, facing, takeEnd, mark, column, closeAllBlocks, inFlow, dropKey, push, tokensAt, bind, Except.bind,
    pure, Except.pure]

/-- A text that is scanned to its end has the tokens that were found, and the end of the stream. -/
theorem tokens_of_scans {text : List Char} {final : List Nat} {kinds : List Token.Kind}
    (scans : Scans [] true .origin text 0 [] final kinds) (begins : BeginsToken text) (flat : parentOf final ≤ 1) :
    ∃ ts, Source.tokens ⟨text, none⟩ = (ts, none) ∧
      ts.map Token.kind = kinds ++ (final.map (fun _ => .blockEnd) ++ [.streamEnd]) := by
  obtain ⟨n, ts, short, same, way⟩ := scans.way []
  have clean : text ++ (spaces 0 ++ []) = text := by simp [spaces]
  have end_clean : text ++ spaces 0 = text := by simp [spaces]
  rw [clean, end_clean, closeBlocks_facing_of_le flat, List.nil_append] at way
  have arrived : (start text).arrive = .ok (facing [] true none [] text .origin) := by
    rw [start_eq_facing, arrive_token begins.startsToken (by simp)]
    rfl
  obtain ⟨t, run, live, ending⟩ := way.run rfl arrived
  have ended := takeToken_end final scans.line ts
  have last : t.round = (facing final true none ts [] (Mark.origin.past text)).takeToken := by
    rw [round_eq, ending]
    rfl
  refine ⟨_, Source.tokens_of_run (run.trans (.single live (last.trans ended))) (by omega) rfl (by simp [facing]), ?_⟩
  simp [facing, same]

end Scanner

/-- The tokens of a written document. -/
theorem tokens_print {v : Value} (whole : v.isExact = true) :
    ∃ ts, Source.tokens ⟨v.print, none⟩ = (ts, none) ∧ ts.map Token.kind = v.kinds false ++ [.streamEnd] := by
  have leaf : (∀ x, v ≠ .float x) → v.print = v.printLeaf 2 → v.kinds false = v.leafKinds →
      ∃ ts, Source.tokens ⟨v.print, none⟩ = (ts, none) ∧ ts.map Token.kind = v.kinds false ++ [.streamEnd] := by
    intro no_float text kinds
    have scans : Scanner.Scans [] true .origin (v.printLeaf 2) 0 [] [] v.leafKinds :=
      Scanner.scans_leaf v no_float rfl (Nat.zero_le _) rfl (.inr ⟨rfl, rfl⟩)
    rw [text, kinds]
    simpa using Scanner.tokens_of_scans scans (Scanner.beginsToken_printLeaf 2 v no_float) (by decide)
  match v, whole with
  | .mapping ((key, w) :: es), whole =>
    have scans : Scanner.Scans [] true .origin (Value.printEntries 0 ((key, w) :: es)) 0 [] [0]
        (.blockMappingStart :: Value.entryKinds ((key, w) :: es)) :=
      Scanner.scans_entries key w es whole true rfl rfl (fun _ => Nat.zero_le _) (Nat.le_refl 0)
    have tokens := Scanner.tokens_of_scans scans (Scanner.beginsToken_printEntries 0 (key, w) es) (by decide)
    simpa [Value.print, Value.kinds] using tokens
  | .sequence (w :: vs), whole =>
    have scans : Scanner.Scans [] true .origin (Value.printItems 0 (w :: vs)) 0 [] [0]
        (.blockSequenceStart :: Value.itemKinds (w :: vs)) :=
      Scanner.scans_items w vs whole true rfl rfl (fun _ => Nat.zero_le _) (Nat.le_refl 0)
    have tokens := Scanner.tokens_of_scans scans (Scanner.beginsToken_printItems 0 w vs) (by decide)
    simpa [Value.print, Value.kinds] using tokens
  | .mapping [], _ => exact leaf (by simp) rfl rfl
  | .sequence [], _ => exact leaf (by simp) rfl rfl
  | .null, _ => exact leaf (by simp) rfl rfl
  | .bool b, _ => exact leaf (by simp) rfl rfl
  | .int n, _ => exact leaf (by simp) rfl rfl
  | .string s, _ => exact leaf (by simp) rfl rfl

end MachineOperator.Yaml
