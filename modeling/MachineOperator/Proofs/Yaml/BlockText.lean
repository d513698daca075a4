import MachineOperator.Proofs.Yaml.QuotedText

/-!
A literal block is read as the lines that were written. The head gives the indentation where the first line does not
show it, and says what becomes of the line breaks at the end.
-/
namespace MachineOperator.Yaml

/-- Whether a line has just begun after a text. -/
def endsAtLineStart (cs : List Char) : Bool := (cs.getLast?.map isAnyBreak).getD true

/-- A block scalar that has been read so far, line breaks that were put aside included. -/
structure BlockState.HasRead (indent : Nat) (cs : List Char) (s : BlockState) : Prop where
  known : s.indent = some indent
  text : s.breaks ++ s.acc = cs.reverse
  line : s.inLine = !endsAtLineStart cs
  within : s.inLine = true → s.leading = none ∧ s.trailing = []
  /-- After text only the line break that ends it is the leading one. -/
  leading : ∀ ds d c, cs = ds ++ [d, c] → isAnyBreak d = false → isAnyBreak c = true → s.trailing = []

section Lines
variable (chomping : Chomping) (parent : Nat) (start : Mark) {indent : Nat}

theorem endsAtLineStart_append (cs : List Char) (c : Char) : endsAtLineStart (cs ++ [c]) = isAnyBreak c := by
  simp [endsAtLineStart]

/-- Indentation is passed, up to the column of the text. -/
theorem readBlockLines_spaces (n : Nat) (x : List Char) (m : Mark) (s : BlockState) (out : s.inLine = false)
    (left : ∀ i ∈ s.indent, m.column + n ≤ i) :
    readBlockLines true chomping parent start (spaces n ++ x) m s =
      readBlockLines true chomping parent start x (m.past (spaces n)) s := by
  induction n generalizing m with
  | zero => rfl
  | succ n ih =>
    have one : spaces (n + 1) = ' ' :: spaces n := rfl
    have indents : s.indents m.column = true := by
      unfold BlockState.indents
      split
      · rfl
      · next i known =>
        have := left i (by simp [known])
        simp only [decide_eq_true_eq]
        omega
    have rest := ih m.next fun i known => by have := left i known; simp only [Mark.next_column]; omega
    rw [one, List.cons_append, Mark.past_cons]
    refine Eq.trans ?_ rest
    simp [readBlockLines, out, indents]

/-- The first character of a line is text at the column of the text. -/
theorem readBlockLines_first {c : Char} {x : List Char} {m : Mark} {s : BlockState} (out : s.inLine = false)
    (unbroken : isAnyBreak c = false) (known : s.indent = some indent) (column : m.column = indent) :
    readBlockLines true chomping parent start (c :: x) m s =
      readBlockLines true chomping parent start x m.next
        ⟨c :: (s.breaks ++ s.acc), none, [], some indent, max s.widest indent, isBlank c, true⟩ := by
  have no_break := isBreak_of_isAnyBreak unbroken
  have text : s.indents indent = false := by simp [BlockState.indents, known]
  rw [readBlockLines]
  simp [out, no_break, text, known, column, BlockState.joined]

theorem BlockState.HasRead.first {done : List Char} {s : BlockState} {c : Char} (read : s.HasRead indent done)
    (unbroken : isAnyBreak c = false) (widest : Nat) (blank : Bool) :
    BlockState.HasRead indent (done ++ [c]) ⟨c :: (s.breaks ++ s.acc), none, [], some indent, widest, blank, true⟩ where
  known := rfl
  text := by simp [← read.text, BlockState.breaks]
  line := by simp [endsAtLineStart_append, unbroken]
  within := fun _ => ⟨rfl, rfl⟩
  leading := fun _ _ _ _ _ _ => rfl

/-- In a line every character but a line break is text. -/
theorem BlockState.HasRead.char {done : List Char} {s : BlockState} {c : Char} (read : s.HasRead indent done)
    (inside : s.inLine = true) (unbroken : isAnyBreak c = false) :
    BlockState.HasRead indent (done ++ [c]) { s with acc := c :: s.acc } := by
  obtain ⟨no_leading, no_trailing⟩ := read.within inside
  have text := read.text
  simp only [BlockState.breaks, no_leading, no_trailing] at text
  refine ⟨read.known, ?_, ?_, read.within, fun _ _ _ _ _ _ => no_trailing⟩
  · simp [BlockState.breaks, no_leading, no_trailing, ← text]
  · simp [endsAtLineStart_append, unbroken, inside]

/-- A line break is put aside, whether it ends a line with text or an empty one. -/
theorem readBlockLines_break {done : List Char} {c : Char} (x : List Char) (m : Mark) {s : BlockState}
    (read : s.HasRead indent done)
    (printable : isPrintable c = true) (breaking : isAnyBreak c = true) :
    ∃ s' : BlockState, s'.HasRead indent (done ++ [c]) ∧
      readBlockLines true chomping parent start (c :: x) m s =
        readBlockLines true chomping parent start x m.newline s' := by
  have is_break : isBreak c = true := by rw [isBreak_eq_isAnyBreak printable]; exact breaking
  have no_blank : c ≠ ' ' ∧ c ≠ '\t' := by
    constructor <;> rintro rfl <;> exact absurd breaking (by decide)
  cases inside : s.inLine with
  | true =>
    obtain ⟨no_leading, no_trailing⟩ := read.within inside
    have text := read.text
    simp only [BlockState.breaks, no_leading, no_trailing] at text
    refine ⟨{ s with leading := some c, inLine := false }, ⟨read.known, ?_, ?_, by simp, ?_⟩, ?_⟩
    · simp [BlockState.breaks, no_trailing, ← text]
    · simp [endsAtLineStart_append, breaking]
    · exact fun _ _ _ _ _ _ => no_trailing
    · simp [readBlockLines, inside, is_break]
  | false =>
    have began : endsAtLineStart done = true := by simpa [inside] using read.line
    refine ⟨{ s with trailing := c :: s.trailing, widest := max s.widest m.column }, ⟨read.known, ?_, ?_, ?_, ?_⟩, ?_⟩
    · simp [BlockState.breaks, ← read.text]
    · simp [endsAtLineStart_append, breaking, inside]
    · simp [inside]
    · -- Text before this line break would have ended in a line of its own.
      intro ds d e same unbroken _
      have split : done ++ [c] = (ds ++ [d]) ++ [e] := by simpa using same
      rw [(List.append_inj' split rfl).1, endsAtLineStart_append, unbroken] at began
      cases began
    · simp [readBlockLines, inside, is_break, no_blank]

/-- A character of a line is text; before the first one stands the indentation of its line. -/
theorem readBlockLines_char {done : List Char} {c : Char} (m : Mark) {s : BlockState} (read : s.HasRead indent done)
    (unbroken : isAnyBreak c = false) (column : endsAtLineStart done = true → m.column = 0) :
    ∃ (m' : Mark) (s' : BlockState),
      m.past ((if endsAtLineStart done then spaces indent else []) ++ [c]) = m' ∧ s'.HasRead indent (done ++ [c]) ∧
      ∀ x, readBlockLines true chomping parent start
          ((if endsAtLineStart done then spaces indent else []) ++ c :: x) m s =
        readBlockLines true chomping parent start x m' s' := by
  have no_break := isBreak_of_isAnyBreak unbroken
  cases began : endsAtLineStart done with
  | true =>
    have out : s.inLine = false := by simpa [began] using read.line
    have column := column began
    refine ⟨_, _, rfl, read.first unbroken (max s.widest indent) (isBlank c), fun x => ?_⟩
    rw [if_pos rfl, readBlockLines_spaces chomping parent start indent (c :: x) m s out
      (by simp [read.known, column]),
      readBlockLines_first chomping parent start out unbroken read.known (by simp [Mark.past_spaces, column]),
      Mark.past_append, Mark.past_cons, no_break]
    rfl
  | false =>
    have inside : s.inLine = true := by simpa [began] using read.line
    refine ⟨_, _, rfl, read.char inside unbroken, fun x => ?_⟩
    simp [readBlockLines_inLine inside no_break, Mark.past_cons, no_break]

/-- Each character is read as it was written, with the indentation before it where it begins a line. -/
theorem readBlockLines_literal (cs done x : List Char) (m : Mark) (s : BlockState) (read : s.HasRead indent done)
    (printable : ∀ c ∈ cs, isPrintable c = true) (column : endsAtLineStart done = true → m.column = 0) :
    ∃ s' : BlockState, s'.HasRead indent (done ++ cs) ∧
      (endsAtLineStart (done ++ cs) = true → (m.past (literalLines indent (endsAtLineStart done) cs)).column = 0) ∧
      readBlockLines true chomping parent start (literalLines indent (endsAtLineStart done) cs ++ x) m s =
        readBlockLines true chomping parent start x (m.past (literalLines indent (endsAtLineStart done) cs)) s' := by
  induction cs generalizing done m s with
  | nil => exact ⟨s, by simpa using read, by simpa [literalLines] using column, by simp [literalLines]⟩
  | cons c r ih =>
    have here := printable c (by simp)
    have rest : ∀ d ∈ r, isPrintable d = true := fun d member => printable d (by simp [member])
    have next := endsAtLineStart_append done c
    have joined : done ++ c :: r = (done ++ [c]) ++ r := by simp
    by_cases breaking : isAnyBreak c = true
    · have is_break : isBreak c = true := by rw [isBreak_eq_isAnyBreak here]; exact breaking
      obtain ⟨s', read', step⟩ := readBlockLines_break chomping parent start
        (literalLines indent true r ++ x) m read here breaking
      obtain ⟨s'', read'', column'', steps⟩ := ih (done ++ [c]) m.newline s' read' rest fun _ => rfl
      rw [next, breaking] at column'' steps
      refine ⟨s'', by rw [joined]; exact read'', ?_, ?_⟩
      · rw [joined]
        simpa [literalLines, breaking, Mark.past_cons, is_break] using column''
      · simp only [literalLines, breaking, if_true, List.cons_append]
        rw [step, steps, Mark.past_cons, if_pos is_break]
    · have unbroken : isAnyBreak c = false := by simpa using breaking
      obtain ⟨m', s', past, read', step⟩ := readBlockLines_char chomping parent start m read unbroken column
      obtain ⟨s'', read'', column'', steps⟩ := ih (done ++ [c]) m' s' read' rest fun began => by
        rw [next, unbroken] at began
        cases began
      have split : ∀ y, literalLines indent (endsAtLineStart done) (c :: r) ++ y =
          (if endsAtLineStart done then spaces indent else []) ++ c :: (literalLines indent false r ++ y) := by
        intro y
        simp [literalLines, unbroken]
      have past_all : m.past (literalLines indent (endsAtLineStart done) (c :: r)) =
          m'.past (literalLines indent false r) := by
        have whole := split []
        simp only [List.append_nil] at whole
        rw [whole, ← past, ← Mark.past_append]
        simp
      rw [next, unbroken] at column'' steps
      refine ⟨s'', by rw [joined]; exact read'', ?_, ?_⟩
      · rw [joined, past_all]
        exact column''
      · rw [split, step, steps, past_all]

/-- A line that is not indented as far as the text ends the block. -/
theorem readBlockLines_left {k : Nat} {more : List Char} {m : Mark} {s : BlockState} (out : s.inLine = false)
    (known : s.indent = some indent) (column : m.column = 0) (left : k < indent) (starts : startsToken more = true) :
    readBlockLines true chomping parent start (spaces k ++ more) m s =
      .ok (.of (s.chomped chomping) more (m.past (spaces k)) true) := by
  rw [readBlockLines_spaces chomping parent start k more m s out (by simp [known]; omega)]
  cases more with
  | nil => rfl
  | cons c r =>
    simp only [startsToken, isBlank, Bool.and_eq_true, Bool.not_eq_true', Bool.or_eq_false_iff, beq_eq_false_iff_ne]
      at starts
    obtain ⟨⟨⟨⟨no_space, no_tab⟩, no_break⟩, _⟩, _⟩ := starts
    have apart : ¬k = indent := by omega
    simp [readBlockLines, out, no_space, no_tab, no_break, known, Mark.past_spaces, column, apart]

/-- The first text of a block shows how far the block is indented. -/
theorem readBlockLines_shown {c : Char} {x : List Char} {m : Mark} (printable : isPrintable c = true)
    (no_space : isSpace c = false) (unbroken : isAnyBreak c = false) (column : m.column = 0)
    (right : indent = parent - 1 + 2) :
    readBlockLines true chomping parent start (spaces indent ++ c :: x) m ⟨[], none, [], none, 0, false, false⟩ =
      readBlockLines true chomping parent start (spaces indent ++ c :: x) m
        ⟨[], none, [], some indent, 0, false, false⟩ := by
  have no_break := isBreak_of_isAnyBreak unbroken
  have no_tab := (isPrintable_ne printable).1
  have found : max indent (max parent 1) = indent := by omega
  simp only [isSpace, beq_eq_false_iff_ne] at no_space
  have text : readBlockLines true chomping parent start (c :: x) (m.past (spaces indent))
      ⟨[], none, [], some indent, 0, false, false⟩ = _ :=
    readBlockLines_first chomping parent start rfl unbroken rfl (by simp [Mark.past_spaces, column])
  rw [readBlockLines_spaces chomping parent start indent (c :: x) m _ rfl (by simp),
    readBlockLines_spaces chomping parent start indent (c :: x) m _ rfl (by simp [column]), text]
  simp [readBlockLines, no_break, no_tab, no_space, Mark.past_spaces, column, found,
    BlockState.joined, BlockState.breaks]

end Lines

/-- What becomes of the line breaks at the end of a text. -/
def chompingOf (cs : List Char) : Chomping :=
  match cs.reverse with
  | [] => .strip
  | [c] => if isAnyBreak c then .keep else .strip
  | c :: d :: _ => if !isAnyBreak c then .strip else if isAnyBreak d then .keep else .clip

theorem endsLine_append (cs : List Char) (c : Char) : endsLine (cs ++ [c]) = isAnyBreak c := by
  simp [endsLine]

theorem endsAtLineStart_eq_endsLine {cs : List Char} (some_text : cs ≠ []) : endsAtLineStart cs = endsLine cs := by
  rcases List.eq_nil_or_concat cs with rfl | ⟨ds, c, rfl⟩
  · exact absurd rfl some_text
  · rw [List.concat_eq_append, endsAtLineStart_append, endsLine_append]

namespace BlockState.HasRead
variable {indent : Nat} {cs : List Char} {s : BlockState}

/-- A text that ends in a line break keeps as many of them as it had. -/
theorem chomped_of_endsLine (read : s.HasRead indent cs) (ends : endsLine cs = true) :
    s.chomped (chompingOf cs) = cs.reverse := by
  have text := read.text
  rcases List.eq_nil_or_concat cs with rfl | ⟨ds, c, rfl⟩
  · cases ends
  rw [List.concat_eq_append] at *
  rw [endsLine_append] at ends
  rcases List.eq_nil_or_concat ds with rfl | ⟨es, d, rfl⟩
  · rw [← text]
    simp [chompingOf, ends, chomped]
  · rw [List.concat_eq_append] at *
    cases before : isAnyBreak d with
    | true =>
      rw [← text]
      simp [chompingOf, ends, before, chomped]
    | false =>
      have single := read.leading es d c (by simp) before ends
      rw [← text]
      simp [chompingOf, ends, before, chomped, breaks, single]

/-- The line break after a text that has none at its end is dropped. -/
theorem chomped_of_not_endsLine (read : s.HasRead indent cs) (inside : s.inLine = true) (ends : endsLine cs = false) :
    { s with leading := some '\n', inLine := false : BlockState }.chomped (chompingOf cs) = cs.reverse := by
  obtain ⟨no_leading, no_trailing⟩ := read.within inside
  have text := read.text
  simp only [breaks, no_leading, no_trailing, Option.toList_none, List.nil_append] at text
  have strip : chompingOf cs = .strip := by
    rcases List.eq_nil_or_concat cs with rfl | ⟨ds, c, rfl⟩
    · rfl
    rw [List.concat_eq_append] at *
    rw [endsLine_append] at ends
    rcases List.eq_nil_or_concat ds with rfl | ⟨es, d, rfl⟩ <;> simp [chompingOf, ends]
  rw [strip, ← text]
  rfl

end BlockState.HasRead

/-- The indentation that a head gives. -/
def hintOf (cs : List Char) : Option Nat := if indentHint cs = [] then none else some 2

theorem readBlockHead_hints (cs r : List Char) (start m : Mark) :
    readBlockHead start ⟨indentHint cs ++ (chompHint cs ++ '\n' :: r), m⟩ =
      .ok (⟨chompingOf cs, hintOf cs⟩, ⟨'\n' :: r, m.past (indentHint cs ++ chompHint cs)⟩) := by
  have hint : indentHint cs = [] ∨ indentHint cs = ['2'] := by
    unfold indentHint
    split
    · split <;> simp
    · simp
  have chomp : (chompHint cs = ['-'] ∧ chompingOf cs = .strip) ∨ (chompHint cs = ['+'] ∧ chompingOf cs = .keep) ∨
      (chompHint cs = [] ∧ chompingOf cs = .clip) := by
    unfold chompHint chompingOf
    rcases cs.reverse with _ | ⟨c, _ | ⟨d, _⟩⟩
    · simp
    · cases h : isAnyBreak c <;> simp [h]
    · cases h : isAnyBreak c <;> cases h' : isAnyBreak d <;> simp [h, h']
  unfold hintOf
  rcases hint with hint | hint <;> rcases chomp with ⟨chomp, same⟩ | ⟨chomp, same⟩ | ⟨chomp, same⟩ <;>
    rw [hint, chomp, same] <;> rfl

section Block
variable {parent indent k : Nat} {cs more : List Char} {m : Mark}

theorem literalAllowed_printable (allowed : literalAllowed cs = true) : ∀ c ∈ cs, isPrintable c = true := by
  simp only [literalAllowed, needsEscape, Bool.and_eq_true, Bool.not_eq_true', Bool.or_eq_false_iff] at allowed
  intro c member
  simpa using List.any_eq_false.1 allowed.1.1 c member

/-- The indentation of a block is known from its head or from the first text. -/
theorem readBlockLines_hinted (start : Mark) (x : List Char) (printable : ∀ c ∈ cs, isPrintable c = true)
    (some_text : cs ≠ []) (column : m.column = 0) (right : indent = parent - 1 + 2) :
    readBlockLines true (chompingOf cs) parent start (literalLines indent true cs ++ x) m
        ⟨[], none, [], (hintOf cs).map (parent - 1 + ·), 0, false, false⟩ =
      readBlockLines true (chompingOf cs) parent start (literalLines indent true cs ++ x) m
        ⟨[], none, [], some indent, 0, false, false⟩ := by
  rcases cs with _ | ⟨c, r⟩
  · exact absurd rfl some_text
  have here := printable c (by simp)
  by_cases hidden : isSpace c || isAnyBreak c
  · simp [hintOf, indentHint, hidden, right]
  · have shown : isSpace c = false ∧ isAnyBreak c = false := by simpa using hidden
    have parts : literalLines indent true (c :: r) = spaces indent ++ c :: literalLines indent false r := by
      simp [literalLines, shown]
    have no_hint : hintOf (c :: r) = none := by simp [hintOf, indentHint, hidden]
    rw [parts, no_hint, List.append_assoc, List.cons_append]
    exact readBlockLines_shown (chompingOf (c :: r)) parent start here shown.1 shown.2 column right

/-- The lines of a block are read to its end, with the line breaks at the end that the text has. -/
theorem readBlockLines_lines (start : Mark) (allowed : literalAllowed cs = true) (some_text : cs ≠ [])
    (column : m.column = 0) (right : indent = parent - 1 + 2) (left : k < indent) (starts : startsToken more = true) :
    readBlockLines true (chompingOf cs) parent start
        (literalLines indent true cs ++ ((if endsLine cs then [] else ['\n']) ++ (spaces k ++ more))) m
        ⟨[], none, [], (hintOf cs).map (parent - 1 + ·), 0, false, false⟩ =
      .ok (.of cs.reverse more
        (m.past (literalLines indent true cs ++ ((if endsLine cs then [] else ['\n']) ++ spaces k))) true) := by
  have printable := literalAllowed_printable allowed
  have known := readBlockLines_hinted start ((if endsLine cs then [] else ['\n']) ++ (spaces k ++ more)) printable
    some_text column right
  have begun : BlockState.HasRead indent [] ⟨[], none, [], some indent, 0, false, false⟩ :=
    ⟨rfl, rfl, rfl, by simp, by simp⟩
  obtain ⟨s, read, column', lines⟩ := readBlockLines_literal (chompingOf cs) parent start cs []
    ((if endsLine cs then [] else ['\n']) ++ (spaces k ++ more)) m _ begun printable fun _ => column
  rw [List.nil_append] at read column'
  have line := read.line
  rw [endsAtLineStart_eq_endsLine some_text] at line column'
  refine known.trans (lines.trans ?_)
  cases ends : endsLine cs with
  | true =>
    have out : s.inLine = false := by simpa [ends] using line
    have closed := readBlockLines_left (chompingOf cs) parent start out read.known
      (column' ends) left starts
    simp only [if_true, List.nil_append]
    rw [read.chomped_of_endsLine ends, ← Mark.past_append] at closed
    exact closed
  | false =>
    have inside : s.inLine = true := by simpa [ends] using line
    have closed := readBlockLines_left (chompingOf cs) parent start
      (s := { s with leading := some '\n', inLine := false }) rfl read.known
      (Mark.newline_column (m.past (literalLines indent true cs))) left starts
    rw [read.chomped_of_not_endsLine inside ends] at closed
    have step : readBlockLines true (chompingOf cs) parent start ('\n' :: (spaces k ++ more))
        (m.past (literalLines indent true cs)) s =
        readBlockLines true (chompingOf cs) parent start (spaces k ++ more)
          (m.past (literalLines indent true cs)).newline
          { s with leading := some '\n', inLine := false } := by
      rw [readBlockLines]
      simp [inside, isBreak]
    simp only [Bool.false_eq_true, if_false, List.cons_append, List.nil_append]
    refine (step.trans closed).trans ?_
    simp [Mark.past_append, Mark.past_cons, isBreak]

/-- A literal block is read as the text that was written. -/
theorem readBlock_literal (allowed : literalAllowed cs = true) (some_text : cs ≠ []) (right : indent = parent - 1 + 2)
    (left : k < indent) (starts : startsToken more = true) :
    readBlock true parent ⟨literal indent cs ++ (spaces k ++ more), m⟩ =
      .ok (.of cs.reverse more (m.past (literal indent cs ++ spaces k)) true) := by
  have parts : ∀ x, literal indent cs ++ x = '|' :: (indentHint cs ++ (chompHint cs ++
      '\n' :: (literalLines indent true cs ++ ((if endsLine cs then [] else ['\n']) ++ x)))) := by
    intro x
    simp [literal]
  have read_head := readBlockHead_hints cs
    (literalLines indent true cs ++ ((if endsLine cs then [] else ['\n']) ++ (spaces k ++ more))) m m.next
  have lines := readBlockLines_lines m (m := (m.next.past (indentHint cs ++ chompHint cs)).newline) allowed
    some_text rfl right left starts
  rw [parts, parts, Mark.past_cons]
  have line_end : ∀ x m', (Cursor.skipWhile ⟨'\n' :: x, m'⟩ isBlank).skipComment = ⟨'\n' :: x, m'⟩ := fun _ _ => rfl
  simp only [readBlock, Cursor.skip, List.tail_cons, read_head, bind_ok, line_end]
  refine lines.trans ?_
  simp [Mark.past_append, Mark.past_cons, isBreak]

/-- Lines that end in a line break end at the start of a line. -/
theorem past_literalLines_column (indent : Nat) (fresh : Bool) (m : Mark) (printable : ∀ c ∈ cs, isPrintable c = true)
    (ends : endsLine cs = true) : (m.past (literalLines indent fresh cs)).column = 0 := by
  induction cs generalizing fresh m with
  | nil => cases ends
  | cons c r ih =>
    have rest : ∀ d ∈ r, isPrintable d = true := fun d member => printable d (by simp [member])
    rcases r with _ | ⟨d, r⟩
    · have breaking : isAnyBreak c = true := ends
      have is_break : isBreak c = true := by rw [isBreak_eq_isAnyBreak (printable c (by simp))]; exact breaking
      simp [literalLines, breaking, Mark.past_cons, is_break]
    · have ends' : endsLine (d :: r) = true := by simpa [endsLine] using ends
      rw [literalLines]
      split
      · exact ih true _ rest ends'
      · rw [Mark.past_append]
        exact ih false _ rest ends'

/-- A literal block ends its last line. -/
theorem past_literal_column (m : Mark) (indent : Nat) (printable : ∀ c ∈ cs, isPrintable c = true) :
    (m.past (literal indent cs)).column = 0 := by
  have parts : literal indent cs = ('|' :: indentHint cs ++ chompHint cs ++ ['\n']) ++
      (literalLines indent true cs ++ if endsLine cs then [] else ['\n']) := by
    simp [literal]
  rw [parts, Mark.past_append, Mark.past_append]
  cases ends : endsLine cs with
  | true => exact past_literalLines_column indent true _ printable ends
  | false => simp [Mark.past_cons, isBreak]

end Block

end MachineOperator.Yaml
