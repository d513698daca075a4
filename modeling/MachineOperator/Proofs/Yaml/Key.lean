import MachineOperator.Proofs.Yaml.Leaf

/-!
The key of an entry, with or without its indicator. A key without one is known by the `:` after it, which has to come
in the same line and soon enough: so only short keys of one line are written like that.
-/
namespace MachineOperator.Yaml

section Length

theorem utf8ByteSize_cons (c : Char) (r : List Char) :
    (String.ofList (c :: r)).utf8ByteSize = c.utf8Size + (String.ofList r).utf8ByteSize := by
  rw [String.ofList_cons, String.utf8ByteSize_append, String.utf8ByteSize_singleton]

/-- A text that is written character by character is at most so many times as long as its bytes. -/
theorem length_flatMap_le {f : Char → List Char} {most : Nat} (each : ∀ c, (f c).length ≤ most * c.utf8Size)
    (cs : List Char) : (cs.flatMap f).length ≤ most * (String.ofList cs).utf8ByteSize := by
  induction cs with
  | nil => exact Nat.zero_le _
  | cons c r ih =>
    have here := each c
    rw [List.flatMap_cons, List.length_append, utf8ByteSize_cons, Nat.mul_add]
    omega

theorem hexDigits_length (k n : Nat) : (hexDigits k n).length = k := by
  induction k generalizing n with
  | zero => rfl
  | succ k ih => simp [hexDigits, ih]

theorem two_le_utf8Size {c : Char} (large : 0xff < c.toNat) : 2 ≤ c.utf8Size := by
  have some_byte := c.utf8Size_pos
  have apart : c.utf8Size ≠ 1 := by
    intro one
    have small : c.toNat ≤ 127 := UInt32.le_iff_toNat_le.1 (Char.utf8Size_eq_one_iff.1 one)
    omega
  omega

theorem four_le_utf8Size {c : Char} (large : 0xffff < c.toNat) : 4 ≤ c.utf8Size := by
  have four : c.utf8Size = 4 := Char.utf8Size_eq_four_iff.2 (UInt32.lt_iff_toNat_lt.2 large)
  omega

theorem escaped_length (c : Char) : (escaped c).length ≤ 4 * c.utf8Size := by
  have some_byte := c.utf8Size_pos
  unfold escaped
  split
  · simp; omega
  · split
    · simp [hexDigits_length]; omega
    · split
      · next large _ =>
        have two := two_le_utf8Size (Nat.lt_of_not_le large)
        simp [hexDigits_length]; omega
      · next large =>
        have four := four_le_utf8Size (Nat.lt_of_not_le large)
        simp [hexDigits_length]; omega

end Length

/-! A key without its indicator stays within its line. -/

theorem isSimpleKey_spec {key : String} (simple : isSimpleKey key = true) :
    (∀ c ∈ key.toList, isAnyBreak c = false) ∧ key.utf8ByteSize ≤ 128 := by
  simp only [isSimpleKey, Bool.and_eq_true, Bool.not_eq_true', decide_eq_true_eq] at simple
  exact ⟨fun c member => by simpa using List.any_eq_false.1 simple.1 c member, simple.2⟩

/-- Text of one line between single quotes. -/
theorem singleQuotedFrom_line {indent : Nat} {cs : List Char} (line : ∀ c ∈ cs, isAnyBreak c = false) :
    singleQuotedFrom indent false cs = cs.flatMap fun c => if c = '\'' then ['\'', '\''] else [c] := by
  induction cs with
  | nil => rfl
  | cons c r ih =>
    have here := line c (by simp)
    have rest := ih fun d member => line d (by simp [member])
    by_cases space : isSpace c = true
    · have no_quote : c ≠ '\'' := by rintro rfl; exact absurd space (by decide)
      simp [singleQuotedFrom, space, rest, no_quote]
    · simp [singleQuotedFrom, space, here, rest]

/-- Text between two quotes, each character written as one or more. -/
theorem quoted_line {f : Char → List Char} {quote : Char} {cs : List Char} (no_quote : isBreak quote = false)
    (line : ∀ c ∈ cs, ∀ d ∈ f c, isBreak d = false) (each : ∀ c, (f c).length ≤ 4 * c.utf8Size)
    (short : (String.ofList cs).utf8ByteSize ≤ 128) :
    (∀ c ∈ quote :: cs.flatMap f ++ [quote], isBreak c = false) ∧ 0 < (quote :: cs.flatMap f ++ [quote]).length ∧
      (quote :: cs.flatMap f ++ [quote]).length ≤ 1024 := by
  have long := length_flatMap_le each cs
  refine ⟨fun c member => ?_, by simp, ?_⟩
  · simp only [List.cons_append, List.mem_cons, List.mem_append, List.mem_flatMap, List.not_mem_nil, or_false] at member
    rcases member with rfl | ⟨d, inside, member⟩ | rfl
    · exact no_quote
    · exact line d inside c member
    · exact no_quote
  · simp only [List.cons_append, List.length_cons, List.length_append, List.length_nil]
    omega

theorem printKey_line {key : String} (simple : isSimpleKey key = true) :
    (∀ c ∈ printKey key, isBreak c = false) ∧ 0 < (printKey key).length ∧ (printKey key).length ≤ 1024 := by
  obtain ⟨line, short⟩ := isSimpleKey_spec simple
  have bytes : (String.ofList key.toList).utf8ByteSize ≤ 128 := by rwa [String.ofList_toList]
  have no_break : ∀ c ∈ key.toList, isBreak c = false := fun c member => isBreak_of_isAnyBreak (line c member)
  unfold printKey
  dsimp only
  split
  · next style =>
    obtain ⟨c, r, parts, _⟩ := plainText_of_style style
    have long : (key.toList.flatMap fun c => [c]).length ≤ 1 * _ :=
      length_flatMap_le (fun c => by have := c.utf8Size_pos; simp; omega) key.toList
    rw [List.flatMap_singleton'] at long
    exact ⟨no_break, by rw [parts]; simp, by omega⟩
  · rw [singleQuoted, singleQuotedFrom_line line]
    refine quoted_line (by decide) (fun c inside d member => ?_) (fun c => ?_) bytes
    · split at member
      · simp only [List.mem_cons, List.not_mem_nil, or_false, or_self] at member
        subst member
        decide
      · rw [List.mem_singleton.1 member]
        exact no_break c inside
    · have := c.utf8Size_pos
      split <;> simp <;> omega
  · refine quoted_line (by decide) (fun c inside d member => ?_) (fun c => ?_) bytes
    · split at member
      · exact escaped_no_break c d member
      · rw [List.mem_singleton.1 member]
        exact no_break c inside
    · have := c.utf8Size_pos
      split
      · exact escaped_length c
      · simp; omega

theorem isSimpleKey_style {key : String} (simple : isSimpleKey key = true) : styleOf key ≠ .literal := by
  obtain ⟨line, _⟩ := isSimpleKey_spec simple
  have no_lines : key.toList.contains '\n' = false := by
    simp only [List.contains_eq_mem, decide_eq_false_iff_not]
    exact fun member => absurd (line '\n' member) (by decide)
  unfold styleOf
  simp only [no_lines, Bool.false_eq_true, if_false]
  split
  · simp
  · split <;> simp

theorem beginsToken_printKey (key : String) : Scanner.BeginsToken (printKey key) := by
  unfold printKey
  cases style : styleOf key with
  | plain => exact Scanner.beginsToken_plain (plainText_of_style style)
  | singleQuoted => exact ⟨'\'', _, rfl, rfl⟩
  | doubleQuoted => exact ⟨'"', _, rfl, rfl⟩
  | literal => exact ⟨'"', _, rfl, rfl⟩
  | folded => exact ⟨'"', _, rfl, rfl⟩

namespace Scanner
variable {indents : List Nat} {allowed : Bool} {queue : List Token} {rest after : List Char} {m : Mark} {c k : Nat}
  {more : List Char}

/-- A key without its indicator is read up to the `:` after it. -/
theorem takeToken_printKey {key : String} (simple : isSimpleKey key = true) (right : parentOf indents ≤ m.column + 2)
    (divider : isDivider after = true) :
    (facing indents allowed none queue (printKey key ++ ':' :: after) m).takeToken =
      .ok (facing indents false (saved indents allowed queue m) (queue ++ [⟨.scalar (styleOf key) key, m⟩])
        (':' :: after) (m.past (printKey key))) := by
  have suits := suits_styleOf key
  have no_literal := isSimpleKey_style simple
  obtain ⟨line, _⟩ := isSimpleKey_spec simple
  unfold printKey
  cases style : styleOf key with
  | plain =>
    obtain ⟨c, r, parts, plain⟩ := plainText_of_style style
    have taken : (facing indents allowed none queue (c :: r ++ ':' :: after) m).takeToken = _ :=
      takeToken_plain plain right (by simp) (readPlain_colon _ after _ divider)
    rwa [← parts, String.ofList_toList] at taken
  | singleQuoted =>
    rw [style] at suits
    have breaks : ∀ d ∈ key.toList, isAnyBreak d = true → 0 < 0 ∧ d ≠ '\n' :=
      fun d member breaking => absurd breaking (by simp [line d member])
    have taken : (facing indents allowed none queue (singleQuoted 0 key.toList ++ ':' :: after) m).takeToken = _ :=
      takeToken_singleQuoted suits.1 breaks (by simp)
    rwa [String.ofList_toList] at taken
  | doubleQuoted =>
    have taken : (facing indents allowed none queue (doubleQuoted key.toList ++ ':' :: after) m).takeToken = _ :=
      takeToken_doubleQuoted key.toList (':' :: after)
    rwa [String.ofList_toList] at taken
  | literal => exact absurd style no_literal
  | folded =>
    rw [style] at suits
    cases suits

/-! An indicator opens the block collection that it is the first of. -/

/-- The columns of the blocks around a collection, with its own once it has begun. -/
def around (fresh : Bool) (c : Nat) (indents : List Nat) : List Nat := if fresh then indents else c :: indents

/-- The token that begins a collection, before its first part. -/
def begun (fresh : Bool) (kind : Token.Kind) : List Token.Kind := if fresh then [kind] else []

/-- Tokens that start at one place. -/
def tokensAt (m : Mark) (kinds : List Token.Kind) : List Token := kinds.map (⟨·, m⟩)

@[simp] theorem map_kind_tokensAt (m : Mark) (kinds : List Token.Kind) :
    (tokensAt m kinds).map Token.kind = kinds := by
  simp [tokensAt, Function.comp_def]

theorem openBlock_around {fresh : Bool} {key : Option PendingKey} {kind : Token.Kind}
    (left : fresh = true → parentOf indents ≤ m.column) :
    (facing (around fresh m.column indents) allowed key queue rest m).openBlock m.column none kind m =
      facing (m.column :: indents) allowed key (queue ++ tokensAt m (begun fresh kind)) rest m := by
  cases fresh with
  | true =>
    have opens : ¬m.column < parentOf indents := by have := left rfl; omega
    simp [openBlock, around, begun, opens, push, tokensAt]
    simp [facing]
  | false => simp [openBlock, around, begun, parentOf, tokensAt]

theorem insert_facing {key : Option PendingKey} (before after : List Token) (kind : Token.Kind) (p : Mark) :
    (facing indents allowed key (before ++ after) rest m).insert before.length kind p =
      facing indents allowed key (before ++ ⟨kind, p⟩ :: after) rest m := by
  simp [insert, facing]

theorem openBlock_around_at {fresh : Bool} {key : Option PendingKey} {kind : Token.Kind} {before after : List Token}
    {p : Mark} (left : fresh = true → parentOf indents ≤ p.column) :
    (facing (around fresh p.column indents) allowed key (before ++ after) rest m).openBlock p.column
      (some before.length) kind p =
      facing (p.column :: indents) allowed key (before ++ (tokensAt p (begun fresh kind) ++ after)) rest m := by
  cases fresh with
  | true =>
    have opens : ¬p.column < parentOf indents := by have := left rfl; omega
    have opened : (facing (p.column :: indents) allowed key (before ++ after) rest m).insert before.length kind p = _ :=
      insert_facing before after kind p
    simp only [openBlock, around, begun, facing_inFlow, facing_parent, opens, if_true, Bool.false_or, decide_false,
      Bool.false_eq_true, if_false]
    exact opened
  | false => simp [openBlock, around, begun, parentOf, tokensAt]

section Indicators
variable {fresh : Bool} (divider : isDivider rest = true) (left : fresh = true → parentOf indents ≤ m.column)
include divider left

theorem takeToken_entry : (facing (around fresh m.column indents) true none queue ('-' :: rest) m).takeToken =
    .ok (facing (m.column :: indents) true none
      (queue ++ tokensAt m (begun fresh .blockSequenceStart ++ [.blockEntry])) rest m.next) := by
  have no_dash : startsIndicator '-' ('-' :: rest) = false := by
    rcases rest with _ | ⟨d, _ | ⟨e, r⟩⟩
    · rfl
    · rfl
    · have other : d ≠ '-' := by
        rintro rfl
        simp [isDivider, isBlank, isBreak] at divider
      simp [startsIndicator, other]
  have chosen : (facing (around fresh m.column indents) true none queue ('-' :: rest) m).takeToken =
      (facing (around fresh m.column indents) true none queue ('-' :: rest) m).takeBlockEntry := by
    simp [takeToken, facing, no_dash, startsIndicator_of_ne, divider]
  rw [chosen, takeBlockEntry, facing_mark, openBlock_around left, dropKey_facing]
  simp [takeIndicator, push, facing, tokensAt, mark, Cursor.skip, bind, Except.bind, pure, Except.pure]

theorem takeToken_key : (facing (around fresh m.column indents) true none queue ('?' :: rest) m).takeToken =
    .ok (facing (m.column :: indents) true none
      (queue ++ tokensAt m (begun fresh .blockMappingStart ++ [.key true])) rest m.next) := by
  have chosen : (facing (around fresh m.column indents) true none queue ('?' :: rest) m).takeToken =
      (facing (around fresh m.column indents) true none queue ('?' :: rest) m).takeKey := by
    simp [takeToken, facing, startsIndicator_of_ne, divider]
  rw [chosen, takeKey, facing_mark, openBlock_around left, dropKey_facing]
  simp [takeIndicator, push, facing, tokensAt, inFlow, mark, Cursor.skip, bind, Except.bind, pure, Except.pure]

theorem takeToken_value : (facing (around fresh m.column indents) true none queue (':' :: rest) m).takeToken =
    .ok (facing (m.column :: indents) true none
      (queue ++ tokensAt m (begun fresh .blockMappingStart ++ [.value])) rest m.next) := by
  have chosen : (facing (around fresh m.column indents) true none queue (':' :: rest) m).takeToken =
      (facing (around fresh m.column indents) true none queue (':' :: rest) m).takeValue := by
    simp [takeToken, facing, startsIndicator_of_ne, divider]
  rw [chosen, takeValue, facing_mark, openBlock_around left]
  simp [takeIndicator, push, facing, tokensAt, inFlow, mark, Cursor.skip, pure, Except.pure]

omit left in
/-- A `:` after what may be a key puts the key's token before it, and before that the token that begins a mapping. -/
theorem takeToken_colon {required : Bool} {key : Mark} {kind : Token.Kind}
    (left : fresh = true → parentOf indents ≤ key.column) :
    (facing (around fresh key.column indents) false (some ⟨required, queue.length, key⟩) (queue ++ [⟨kind, key⟩])
      (':' :: rest) m).takeToken =
      .ok (facing (key.column :: indents) false none
        (queue ++ (tokensAt key (begun fresh .blockMappingStart ++ [.key false, kind]) ++ [⟨.value, m⟩]))
          rest m.next) := by
  have chosen : ∀ s : Scanner, s.cursor.rest = ':' :: rest → s.takeToken = s.takeValue := fun s ahead => by
    simp [takeToken, ahead, startsIndicator_of_ne, divider]
  rw [chosen _ rfl]
  unfold takeValue
  simp only [facing_key, insert_facing, openBlock_around_at left]
  simp [takeIndicator, push, facing, tokensAt, mark, Cursor.skip]

end Indicators

/-- What may be a key is kept up to a `:` in its line that is not too far away. -/
theorem arrive_colon {key : PendingKey} (line : key.mark.line = m.line) (near : m.column ≤ key.mark.column + 1024)
    (right : parentOf indents ≤ m.column + 1) :
    (facing indents allowed (some key) queue (':' :: rest) m).arrive =
      .ok (facing indents allowed (some key) queue (':' :: rest) m) := by
  have stays : (facing indents allowed (some key) queue (':' :: rest) m).toNextToken =
      facing indents allowed (some key) queue (':' :: rest) m := by
    simp [toNextToken, facing, inFlow, mark, skipBlanks_token _ _ _ (rfl : startsToken (':' :: rest) = true)]
  rw [arrive_of (dropStaleKeys_fresh line near) (by rw [stays]; exact dropStaleKeys_fresh line near), facing_mark,
    closeBlocks_facing_of_le right]

end Scanner
end MachineOperator.Yaml
