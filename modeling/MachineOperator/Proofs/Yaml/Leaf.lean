import MachineOperator.Proofs.Yaml.BlockText
import MachineOperator.Proofs.Yaml.Numeral

/-!
A scalar is one token and an empty collection two. The end of the line after it leads on to whatever stands next.
-/
namespace MachineOperator.Yaml

theorem startsIndicator_of_ne {c x : Char} (r : List Char) (other : c ≠ x) : startsIndicator x (c :: r) = false := by
  rcases r with _ | ⟨d, _ | ⟨e, r⟩⟩
  · rfl
  · rfl
  · simp [startsIndicator, other]

/-- What a text has to be to be written in a style. -/
def Suits (s : String) : ScalarStyle → Prop
  | .plain => looksTyped s = false ∧ plainAllowed s.toList = true
  | .singleQuoted => singleAllowed s.toList = true ∧ '\n' ∉ s.toList
  | .doubleQuoted => True
  | .literal => literalAllowed s.toList = true ∧ s.toList ≠ []
  | .folded => False

theorem suits_styleOf (s : String) : Suits s (styleOf s) := by
  unfold styleOf
  dsimp only
  split
  · next lines =>
    split
    · next literally =>
      refine ⟨literally, fun nothing => ?_⟩
      rw [nothing] at lines
      cases lines
    · trivial
  · next lines =>
    have no_lines : '\n' ∉ s.toList := by simpa using lines
    split
    · next plain => simpa [Suits] using plain
    · split
      · next single => exact ⟨single, no_lines⟩
      · trivial

theorem plainText_of_style {s : String} (style : styleOf s = .plain) : ∃ c r, s.toList = c :: r ∧ PlainText c r := by
  have suits := suits_styleOf s
  rw [style] at suits
  obtain ⟨untyped, plain⟩ := suits
  cases parts : s.toList with
  | nil =>
    have nothing : s = "" := String.toList_eq_nil_iff.1 parts
    subst nothing
    exact absurd untyped (by decide)
  | cons c r => exact ⟨c, r, rfl, plainText_of_allowed (parts ▸ plain)⟩

namespace Scanner
variable {indents : List Nat} {allowed : Bool} {key : Option PendingKey} {queue : List Token} {rest : List Char}
  {m : Mark}

/-- The key that may have started at a place, if one may start there. -/
def saved (indents : List Nat) (allowed : Bool) (queue : List Token) (m : Mark) : Option PendingKey :=
  if allowed then some ⟨parentOf indents == m.column + 1, queue.length, m⟩ else none

theorem saveKey_facing : (facing indents allowed none queue rest m).saveKey =
    .ok (facing indents allowed (saved indents allowed queue m) queue rest m) := by
  cases allowed <;> cases indents <;>
    simp [saveKey, saved, facing, dropKey, parent, parentOf, inFlow, mark, bind, Except.bind, pure, Except.pure]

theorem dropKey_facing :
    (facing indents allowed none queue rest m).dropKey = .ok (facing indents allowed none queue rest m) := rfl

theorem takeScalar_facing {style : ScalarStyle} {reader : Mark → List Char → Mark → Except Fault ScalarRead}
    {skip : Nat} {read : ScalarRead}
    (result : reader m (Cursor.skips ⟨rest, m⟩ skip).rest (Cursor.skips ⟨rest, m⟩ skip).mark = .ok read) :
    (facing indents allowed none queue rest m).takeScalar style reader skip =
      .ok (facing indents read.lineEnded (saved indents allowed queue m)
        (queue ++ [⟨.scalar style read.text, m⟩]) read.cursor.rest read.cursor.mark) := by
  unfold takeScalar
  rw [saveKey_facing, bind_ok]
  have same : reader (facing indents allowed (saved indents allowed queue m) queue rest m).mark
      (Cursor.skips (facing indents allowed (saved indents allowed queue m) queue rest m).cursor skip).rest
      (Cursor.skips (facing indents allowed (saved indents allowed queue m) queue rest m).cursor skip).mark =
      .ok read := result
  simp only [same, bind_ok]
  rfl

section Dispatch

theorem takeToken_eq_takePlain {c : Char} {r : List Char} (no_dash : startsIndicator '-' (c :: r) = false)
    (no_dot : startsIndicator '.' (c :: r) = false) (no_indicator : isIndicator c = false)
    (attached : c = '?' ∨ c = ':' ∨ c = '-' → isDivider r = false) (starts : startsPlain false (c :: r) = true) :
    (facing indents allowed key queue (c :: r) m).takeToken =
      (facing indents allowed key queue (c :: r) m).takePlain := by
  have no_sign : ∀ x, x = '?' ∨ x = ':' ∨ x = '-' → (c == x && isDivider r) = false := by
    intro x sign
    by_cases same : c = x
    · subst same
      simp [attached sign]
    · simp [same]
  simp only [isIndicator, List.contains_eq_mem, decide_eq_false_iff_not] at no_indicator
  simp at no_indicator
  unfold takeToken
  simp [facing, inFlow, no_dash, no_dot, no_indicator, no_sign, starts]

theorem takeToken_eq_takeSingleQuoted {r : List Char} : (facing indents allowed key queue ('\'' :: r) m).takeToken =
    (facing indents allowed key queue ('\'' :: r) m).takeSingleQuoted := by
  have no_dash := startsIndicator_of_ne r (by decide : '\'' ≠ '-')
  have no_dot := startsIndicator_of_ne r (by decide : '\'' ≠ '.')
  simp [takeToken, facing, inFlow, no_dash, no_dot]

theorem takeToken_eq_takeDoubleQuoted {r : List Char} : (facing indents allowed key queue ('"' :: r) m).takeToken =
    (facing indents allowed key queue ('"' :: r) m).takeDoubleQuoted := by
  have no_dash := startsIndicator_of_ne r (by decide : '"' ≠ '-')
  have no_dot := startsIndicator_of_ne r (by decide : '"' ≠ '.')
  simp [takeToken, facing, inFlow, no_dash, no_dot]

theorem takeToken_eq_takeBlockScalar {r : List Char} : (facing indents allowed key queue ('|' :: r) m).takeToken =
    (facing indents allowed key queue ('|' :: r) m).takeBlockScalar .literal := by
  have no_dash := startsIndicator_of_ne r (by decide : '|' ≠ '-')
  have no_dot := startsIndicator_of_ne r (by decide : '|' ≠ '.')
  simp [takeToken, facing, inFlow, no_dash, no_dot]

end Dispatch

section Line
variable {k : Nat} {more : List Char}

/-- To the right of the innermost block nothing has to be a key. -/
theorem saved_optional (right : parentOf indents ≤ m.column) :
    ∀ p ∈ saved indents allowed queue m, p.required = false ∧ p.mark = m := by
  intro p member
  have apart : ¬parentOf indents = m.column + 1 := by omega
  cases allowed with
  | false => cases member
  | true =>
    cases member
    exact ⟨by simp [apart], rfl⟩

theorem arrive_line_end {queue' : List Token} (text : List Char) (right : parentOf indents ≤ m.column)
    (starts : startsToken more = true) :
    (facing indents false (saved indents allowed queue m) queue' ('\n' :: (spaces k ++ more)) (m.past text)).arrive =
      .ok ((facing indents true none queue' more (m.past (text ++ '\n' :: spaces k))).closeBlocks k) := by
  have optional : ∀ p ∈ saved indents allowed queue m, p.required = false ∧ p.mark.line ≤ (m.past text).line := by
    intro p member
    obtain ⟨free, same⟩ := saved_optional right p member
    exact ⟨free, by rw [same]; exact Mark.line_le_past m text⟩
  rw [Mark.past_append, Mark.past_cons]
  exact arrive_newline k starts optional

end Line

/-! What a scalar leaves behind depends on its style: plain and literal text end in the next line. -/

theorem takeToken_plain {c : Char} {r tail after : List Char} {m' : Mark} {lineEnded : Bool} (plain : PlainText c r)
    (right : parentOf indents ≤ m.column + 2) (apart : tail.head? ≠ some '-' ∧ tail.head? ≠ some '.')
    (ends : readPlain false (parentOf indents) m tail (m.past (c :: r)) (c :: r).reverse .none =
      .ok (.of (c :: r).reverse after m' lineEnded)) :
    (facing indents allowed none queue (c :: r ++ tail) m).takeToken =
      .ok (facing indents lineEnded (saved indents allowed queue m)
        (queue ++ [⟨.scalar .plain (String.ofList (c :: r)), m⟩]) after m') := by
  have no_dash := plain.no_startsIndicator tail (.inl rfl) apart.1
  have no_dot := plain.no_startsIndicator tail (.inr rfl) apart.2
  have attached := fun sign => (plain.attached tail sign).1
  have starts := plain.startsPlain tail
  have read : readPlain false (parentOf indents) m (c :: r ++ tail) m [] .none =
      .ok (.of (c :: r).reverse after m' lineEnded) := (plain.read right tail).trans ends
  rw [List.cons_append] at *
  rw [takeToken_eq_takePlain no_dash no_dot plain.no_indicator attached starts, takePlain, facing_inFlow,
    facing_parent, takeScalar_facing read]
  simp [ScalarRead.of]

theorem takeToken_singleQuoted {indent : Nat} {cs tail : List Char} (single : singleAllowed cs = true)
    (breaks : ∀ c ∈ cs, isAnyBreak c = true → 0 < indent ∧ c ≠ '\n') (apart : tail.head? ≠ some '\'') :
    (facing indents allowed none queue (singleQuoted indent cs ++ tail) m).takeToken =
      .ok (facing indents false (saved indents allowed queue m)
        (queue ++ [⟨.scalar .singleQuoted (String.ofList cs), m⟩]) tail (m.past (singleQuoted indent cs))) := by
  have parts : singleQuoted indent cs ++ tail = '\'' :: (singleQuotedFrom indent false cs ++ '\'' :: tail) := by
    simp [singleQuoted]
  have read : readSingleQuoted m (singleQuotedFrom indent false cs ++ '\'' :: tail) m.next [] .none =
      .ok (.of cs.reverse tail (m.past (singleQuoted indent cs)) false) :=
    readSingleQuoted_quoted single tail breaks (by simp) apart
  rw [parts, takeToken_eq_takeSingleQuoted, takeSingleQuoted, takeScalar_facing read]
  simp [ScalarRead.of]

theorem takeToken_doubleQuoted (cs tail : List Char) :
    (facing indents allowed none queue (doubleQuoted cs ++ tail) m).takeToken =
      .ok (facing indents false (saved indents allowed queue m)
        (queue ++ [⟨.scalar .doubleQuoted (String.ofList cs), m⟩]) tail (m.past (doubleQuoted cs))) := by
  have parts : doubleQuoted cs ++ tail = '"' :: (doubleQuotedFrom cs ++ '"' :: tail) := by
    simp [doubleQuoted, doubleQuotedFrom]
  have read : readDoubleQuoted m (doubleQuotedFrom cs ++ '"' :: tail) m.next [] .none none =
      .ok (.of cs.reverse tail (m.past (doubleQuoted cs)) false) :=
    readDoubleQuoted_quoted cs tail (by simp)
  rw [parts, takeToken_eq_takeDoubleQuoted, takeDoubleQuoted, takeScalar_facing read]
  simp [ScalarRead.of]

theorem takeToken_literal {indent k : Nat} {cs more : List Char} (literally : literalAllowed cs = true)
    (some_text : cs ≠ []) (deep : indent = parentOf indents - 1 + 2) (left : k < indent)
    (starts : startsToken more = true) :
    (facing indents allowed none queue (literal indent cs ++ (spaces k ++ more)) m).takeToken =
      .ok (facing indents true none (queue ++ [⟨.scalar .literal (String.ofList cs), m⟩]) more
        (m.past (literal indent cs ++ spaces k))) := by
  have read := readBlock_literal (m := m) literally some_text deep left starts
  have parts : ∀ x, ∃ y, literal indent cs ++ x = '|' :: y := fun x => ⟨_, by simp [literal]; rfl⟩
  obtain ⟨y, same⟩ := parts (spaces k ++ more)
  rw [same] at read ⊢
  rw [takeToken_eq_takeBlockScalar]
  unfold takeBlockScalar
  rw [dropKey_facing, bind_ok, facing_parent]
  have block : readBlock (ScalarStyle.literal = .literal) (parentOf indents)
      (facing indents allowed none queue ('|' :: y) m).cursor = _ := read
  rw [block, bind_ok]
  simp [ScalarRead.of, facing, push, mark, pure, Except.pure]

section Line
variable {k : Nat} {more : List Char}

/-- A scalar that ends in its own line leads to the next one. -/
theorem way_of_line {queue' : List Token} {text : List Char} (right : parentOf indents ≤ m.column)
    (starts : startsToken more = true)
    (taken : (facing indents allowed none queue (text ++ '\n' :: (spaces k ++ more)) m).takeToken =
      .ok (facing indents false (saved indents allowed queue m) queue' ('\n' :: (spaces k ++ more)) (m.past text))) :
    Way (facing indents allowed none queue (text ++ '\n' :: (spaces k ++ more)) m) 1
      ((facing indents true none queue' more (m.past (text ++ '\n' :: spaces k))).closeBlocks k) :=
  .single taken rfl (arrive_line_end text right starts)

/-- Plain text is read on into the next line, where it ends. -/
theorem way_plain {c : Char} {r : List Char} (plain : PlainText c r) (right : parentOf indents ≤ m.column)
    (starts : startsToken more = true) (left : more ≠ [] → k < parentOf indents) :
    Way (facing indents allowed none queue (c :: r ++ '\n' :: (spaces k ++ more)) m) 1
      ((facing indents true none (queue ++ [⟨.scalar .plain (String.ofList (c :: r)), m⟩]) more
        (m.past (c :: r ++ '\n' :: spaces k))).closeBlocks k) := by
  have ends : readPlain false (parentOf indents) m ('\n' :: (spaces k ++ more))
      (m.past (c :: r)) (c :: r).reverse .none =
      .ok (.of (c :: r).reverse more (m.past (c :: r ++ '\n' :: spaces k)) true) := by
    refine (readPlain_newline _ more _ k starts left).trans ?_
    rw [Mark.past_append, Mark.past_cons]
    rfl
  have later : ∀ p ∈ saved indents allowed queue m,
      p.required = false ∧ p.mark.line < (m.past (c :: r ++ '\n' :: spaces k)).line := by
    intro p member
    obtain ⟨free, same⟩ := saved_optional right p member
    refine ⟨free, ?_⟩
    have line := Mark.line_le_past m (c :: r)
    rw [same, Mark.past_append, Mark.past_cons, Mark.past_spaces]
    simp [isBreak]
    omega
  have column : (m.past (c :: r ++ '\n' :: spaces k)).column = k := by
    rw [Mark.past_append, Mark.past_cons, Mark.past_spaces]
    simp [isBreak]
  have arrived : (facing indents true (saved indents allowed queue m)
      (queue ++ [⟨.scalar .plain (String.ofList (c :: r)), m⟩])
        more (m.past (c :: r ++ '\n' :: spaces k))).arrive = _ :=
    arrive_token starts later
  rw [column] at arrived
  exact .single (takeToken_plain plain (by omega) (by simp) ends) rfl arrived

theorem way_string {indent : Nat} (s : String) (deep : indent = parentOf indents - 1 + 2)
    (right : parentOf indents ≤ m.column) (starts : startsToken more = true)
    (left : k < parentOf indents ∨ more = [] ∧ k = 0) :
    Way (facing indents allowed none queue (printString indent s ++ (spaces k ++ more)) m) 1
      ((facing indents true none (queue ++ [⟨.scalar (styleOf s) s, m⟩]) more
        (m.past (printString indent s ++ spaces k))).closeBlocks k) := by
  have near : k < indent := by omega
  have before : more ≠ [] → k < parentOf indents := by
    intro some_more
    rcases left with left | ⟨nothing, _⟩
    · exact left
    · exact absurd nothing some_more
  have parts : ∀ (text x : List Char), text ++ ['\n'] ++ x = text ++ '\n' :: x := by simp
  have suits := suits_styleOf s
  unfold printString
  cases style : styleOf s with
  | plain =>
    obtain ⟨c, r, same, plain⟩ := plainText_of_style style
    have way : Way (facing indents allowed none queue (c :: r ++ '\n' :: (spaces k ++ more)) m) 1 _ :=
      way_plain plain right starts before
    rw [← same, String.ofList_toList] at way
    dsimp only
    rw [parts, parts]
    exact way
  | singleQuoted =>
    rw [style] at suits
    obtain ⟨single, no_lines⟩ := suits
    have breaks : ∀ c ∈ s.toList, isAnyBreak c = true → 0 < indent ∧ c ≠ '\n' :=
      fun c member _ => ⟨by omega, fun same => no_lines (same ▸ member)⟩
    have taken : (facing indents allowed none queue (singleQuoted indent s.toList ++ '\n' :: (spaces k ++ more))
      m).takeToken = _ := takeToken_singleQuoted single breaks (by simp)
    rw [String.ofList_toList] at taken
    dsimp only
    rw [parts, parts]
    exact way_of_line right starts taken
  | doubleQuoted =>
    have taken : (facing indents allowed none queue (doubleQuoted s.toList ++ '\n' :: (spaces k ++ more)) m).takeToken =
      _ := takeToken_doubleQuoted s.toList ('\n' :: (spaces k ++ more))
    rw [String.ofList_toList] at taken
    dsimp only
    rw [parts, parts]
    exact way_of_line right starts taken
  | literal =>
    rw [style] at suits
    obtain ⟨literally, some_text⟩ := suits
    have taken : (facing indents allowed none queue (literal indent s.toList ++ (spaces k ++ more)) m).takeToken = _ :=
      takeToken_literal literally some_text deep near starts
    rw [String.ofList_toList] at taken
    have arrived : (facing indents true none (queue ++ [⟨.scalar .literal s, m⟩]) more
        (m.past (literal indent s.toList ++ spaces k))).arrive = _ := arrive_token starts (by simp)
    have column : (m.past (literal indent s.toList ++ spaces k)).column = k := by
      rw [Mark.past_append, Mark.past_spaces]
      simp [past_literal_column m indent (literalAllowed_printable literally)]
    rw [column] at arrived
    exact .single taken rfl arrived
  | folded =>
    rw [style] at suits
    cases suits

/-! An empty collection is its two brackets, on one line. -/

/-- A bracket that opens a flow collection and the one that closes it. -/
structure Brackets (opening closing : Char) (first last : Token.Kind) : Prop where
  opens : ∀ (s : Scanner) (r : List Char), s.cursor.rest = opening :: r → s.takeToken = s.takeFlowStart first
  closes : ∀ (s : Scanner) (r : List Char), s.cursor.rest = closing :: r → s.takeToken = s.takeFlowEnd last
  line : isBreak opening = false ∧ isBreak closing = false
  token : ∀ r, startsToken (closing :: r) = true

theorem brackets_sequence : Brackets '[' ']' .flowSequenceStart .flowSequenceEnd where
  opens := fun s r ahead => by
    simp [takeToken, ahead, startsIndicator_of_ne]
  closes := fun s r ahead => by
    simp [takeToken, ahead, startsIndicator_of_ne]
  line := by decide
  token := fun r => rfl

theorem brackets_mapping : Brackets '{' '}' .flowMappingStart .flowMappingEnd where
  opens := fun s r ahead => by
    simp [takeToken, ahead, startsIndicator_of_ne]
  closes := fun s r ahead => by
    simp [takeToken, ahead, startsIndicator_of_ne]
  line := by decide
  token := fun r => rfl

/-- Inside a flow collection nothing is passed where a token starts, and the key around it is kept in its line. -/
theorem arrive_inFlow (starts : startsToken rest = true)
    (fresh : ∀ p ∈ key, p.mark.line = m.line ∧ m.column ≤ p.mark.column + 1024) :
    { facing indents allowed none queue rest m with outer := [key] }.arrive =
      .ok { facing indents allowed none queue rest m with outer := [key] } := by
  have kept : { facing indents allowed none queue rest m with outer := [key] }.dropStaleKeys =
      .ok { facing indents allowed none queue rest m with outer := [key] } := by
    cases key with
    | none => rfl
    | some p =>
      obtain ⟨line, near⟩ := fresh p rfl
      have not_far : ¬p.mark.column + 1024 < m.column := by omega
      simp [dropStaleKeys, dropStaleKey, isStale, facing, mark, line, not_far, bind, Except.bind, pure, Except.pure]
  have stays : { facing indents allowed none queue rest m with outer := [key] }.toNextToken =
      { facing indents allowed none queue rest m with outer := [key] } := by
    simp [toNextToken, facing, inFlow, mark, skipBlanks_token _ _ _ starts]
  rw [arrive_of kept (by rw [stays]; exact kept)]
  rfl

theorem way_brackets {opening closing : Char} {first last : Token.Kind} (brackets : Brackets opening closing first last)
    (right : parentOf indents ≤ m.column) (starts : startsToken more = true) :
    Way (facing indents allowed none queue ([opening, closing] ++ '\n' :: (spaces k ++ more)) m) 2
      ((facing indents true none (queue ++ [⟨first, m⟩, ⟨last, m.next⟩]) more
        (m.past ([opening, closing] ++ '\n' :: spaces k))).closeBlocks k) := by
  have opened : (facing indents allowed none queue (opening :: closing :: '\n' :: (spaces k ++ more)) m).takeToken =
      .ok { facing indents true none (queue ++ [⟨first, m⟩]) (closing :: '\n' :: (spaces k ++ more)) m.next with
        outer := [saved indents allowed queue m] } := by
    rw [brackets.opens _ _ rfl, takeFlowStart, saveKey_facing]
    rfl
  have fresh : ∀ p ∈ saved indents allowed queue m,
      p.mark.line = m.next.line ∧ m.next.column ≤ p.mark.column + 1024 := by
    intro p member
    obtain ⟨_, same⟩ := saved_optional right p member
    rw [same]
    exact ⟨rfl, by simp⟩
  have closed : Scanner.takeToken { facing indents true none (queue ++ [⟨first, m⟩])
      (closing :: '\n' :: (spaces k ++ more)) m.next with outer := [saved indents allowed queue m] } =
      .ok (facing indents false (saved indents allowed queue m) (queue ++ [⟨first, m⟩, ⟨last, m.next⟩])
        ('\n' :: (spaces k ++ more)) (m.past [opening, closing])) := by
    rw [brackets.closes _ _ rfl, takeFlowEnd]
    simp [dropKey, takeIndicator, push, facing, mark, Cursor.skip, Mark.past_cons, brackets.line, bind, Except.bind,
      pure, Except.pure]
  exact .token opened rfl (arrive_inFlow (brackets.token _) fresh)
    (.single closed rfl (arrive_line_end [opening, closing] right starts))

end Line
end Scanner

/-- The tokens of a scalar or an empty collection. -/
def Value.leafKinds : Value → List Token.Kind
  | .null => [.scalar .plain "null"]
  | .bool b => [.scalar .plain (if b then "true" else "false")]
  | .int n => [.scalar .plain (toString n)]
  | .float x => [.scalar .plain x.compact]
  | .string s => [.scalar (styleOf s) s]
  | .sequence _ => [.flowSequenceStart, .flowSequenceEnd]
  | .mapping _ => [.flowMappingStart, .flowMappingEnd]

namespace Scanner

/-- The texts that a token starts with. -/
def BeginsToken (text : List Char) : Prop := ∃ c r, text = c :: r ∧ startsToken [c] = true

theorem BeginsToken.append {text : List Char} (begins : BeginsToken text) (tail : List Char) :
    BeginsToken (text ++ tail) := by
  obtain ⟨c, r, rfl, token⟩ := begins
  exact ⟨c, r ++ tail, rfl, token⟩

theorem BeginsToken.startsToken {text : List Char} (begins : BeginsToken text) : startsToken text = true := by
  obtain ⟨c, r, rfl, token⟩ := begins
  exact token

theorem beginsToken_plain {text : List Char} (plain : ∃ c r, text = c :: r ∧ PlainText c r) : BeginsToken text := by
  obtain ⟨c, r, rfl, plain⟩ := plain
  have token := plain.startsToken []
  exact ⟨c, r, rfl, token⟩

theorem beginsToken_printString (indent : Nat) (s : String) : BeginsToken (printString indent s) := by
  unfold printString
  cases style : styleOf s with
  | plain => exact (beginsToken_plain (plainText_of_style style)).append _
  | singleQuoted => exact ⟨'\'', _, rfl, rfl⟩
  | doubleQuoted => exact ⟨'"', _, rfl, rfl⟩
  | literal => exact ⟨'|', _, rfl, rfl⟩
  | folded => exact ⟨'|', _, rfl, rfl⟩

/-- From where it starts a text is read as tokens of these kinds, up to the token after it; blocks to the right of
that one are closed then. There are no more tokens than characters, and the text ends its line. -/
structure Scans (indents : List Nat) (allowed : Bool) (m : Mark) (text : List Char) (k : Nat) (more : List Char)
    (final : List Nat) (kinds : List Token.Kind) : Prop where
  line : (m.past text).column = 0
  way : ∀ queue, ∃ n ts, n ≤ text.length ∧ ts.map Token.kind = kinds ∧
    Way (facing indents allowed none queue (text ++ (spaces k ++ more)) m) n
      ((facing final true none (queue ++ ts) more (m.past (text ++ spaces k))).closeBlocks k)

theorem past_printString_column (m : Mark) (indent : Nat) (s : String) :
    (m.past (printString indent s)).column = 0 := by
  have suits := suits_styleOf s
  unfold printString
  cases style : styleOf s with
  | plain => exact Mark.past_newline_column m _
  | singleQuoted => exact Mark.past_newline_column m _
  | doubleQuoted => exact Mark.past_newline_column m _
  | literal =>
    rw [style] at suits
    exact past_literal_column m indent (literalAllowed_printable suits.1)
  | folded =>
    rw [style] at suits
    cases suits

/-- A plain text that is always written the same. -/
theorem plainText_word (w : String) (plain : plainAllowed w.toList = true) (some_text : w.toList ≠ []) :
    ∃ c r, w.toList = c :: r ∧ PlainText c r := by
  cases parts : w.toList with
  | nil => exact absurd parts some_text
  | cons c r => exact ⟨c, r, rfl, plainText_of_allowed (parts ▸ plain)⟩

section Leaf
variable {indents : List Nat} {allowed : Bool} {m : Mark} {k : Nat} {more : List Char}

theorem scans_plain {text : List Char} (plain : ∃ c r, text = c :: r ∧ PlainText c r)
    (right : parentOf indents ≤ m.column) (starts : startsToken more = true)
    (left : k < parentOf indents ∨ more = [] ∧ k = 0) :
    Scans indents allowed m (text ++ ['\n']) k more indents [.scalar .plain (String.ofList text)] := by
  refine ⟨Mark.past_newline_column m text, fun queue => ?_⟩
  obtain ⟨c, r, rfl, plain⟩ := plain
  have before : more ≠ [] → k < parentOf indents := by
    intro some_more
    rcases left with left | ⟨nothing, _⟩
    · exact left
    · exact absurd nothing some_more
  refine ⟨1, [⟨.scalar .plain (String.ofList (c :: r)), m⟩], by simp, rfl, ?_⟩
  rw [List.append_assoc, List.append_assoc]
  exact way_plain plain right starts before

theorem scans_brackets {opening closing : Char} {first last : Token.Kind}
    (brackets : Brackets opening closing first last) (right : parentOf indents ≤ m.column)
    (starts : startsToken more = true) :
    Scans indents allowed m [opening, closing, '\n'] k more indents [first, last] where
  line := Mark.past_newline_column m [opening, closing]
  way := fun queue =>
    ⟨2, [⟨first, m⟩, ⟨last, m.next⟩], by simp, rfl, way_brackets brackets right starts⟩

theorem scans_leaf {indent : Nat} (v : Value) (whole : ∀ x, v ≠ .float x)
    (deep : indent = parentOf indents - 1 + 2) (right : parentOf indents ≤ m.column)
    (starts : startsToken more = true) (left : k < parentOf indents ∨ more = [] ∧ k = 0) :
    Scans indents allowed m (v.printLeaf indent) k more indents v.leafKinds := by
  have word : ∀ w : String, (∃ c r, w.toList = c :: r ∧ PlainText c r) →
      Scans indents allowed m (w.toList ++ ['\n']) k more indents [.scalar .plain w] := by
    intro w plain
    have scans : Scans indents allowed m _ k more indents _ := scans_plain plain right starts left
    rwa [String.ofList_toList] at scans
  cases v with
  | null => exact word "null" (plainText_word "null" (by decide) (by decide))
  | bool b =>
    cases b with
    | true => exact word "true" (plainText_word "true" (by decide) (by decide))
    | false => exact word "false" (plainText_word "false" (by decide) (by decide))
  | int n =>
    obtain ⟨c, r, same, plain, _⟩ := plainText_int n
    exact word (toString n) ⟨c, r, same, plain⟩
  | float x => exact absurd rfl (whole x)
  | string s =>
    refine ⟨past_printString_column m indent s, fun queue => ?_⟩
    obtain ⟨c, r, parts, _⟩ := beginsToken_printString indent s
    refine ⟨1, [⟨.scalar (styleOf s) s, m⟩], ?_, rfl, way_string s deep right starts left⟩
    simp [Value.printLeaf, parts]
  | sequence vs => exact scans_brackets brackets_sequence right starts
  | mapping es => exact scans_brackets brackets_mapping right starts

theorem beginsToken_printLeaf (indent : Nat) (v : Value) (whole : ∀ x, v ≠ .float x) :
    BeginsToken (v.printLeaf indent) := by
  cases v with
  | null => exact ⟨'n', _, rfl, rfl⟩
  | bool b => cases b <;> exact ⟨_, _, rfl, rfl⟩
  | int n =>
    obtain ⟨c, r, same, plain, _⟩ := plainText_int n
    exact (beginsToken_plain ⟨c, r, same, plain⟩).append _
  | float x => exact absurd rfl (whole x)
  | string s => exact beginsToken_printString indent s
  | sequence vs => exact ⟨'[', _, rfl, rfl⟩
  | mapping es => exact ⟨'{', _, rfl, rfl⟩

end Leaf
end Scanner
end MachineOperator.Yaml
