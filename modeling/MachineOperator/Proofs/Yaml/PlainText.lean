import MachineOperator.Proofs.Yaml.Passage

/-!
Plain text is read as it is written. What keeps a text from being written plainly is what a reader would stop at or
take for something else: indicators where they count, spaces at an end, and everything that breaks lines.
-/
namespace MachineOperator.Yaml

/-- What a printable character is not. -/
theorem isPrintable_ne {c : Char} (printable : isPrintable c = true) :
    c ≠ '\t' ∧ c ≠ '\x00' ∧ c ≠ '\r' ∧ c ≠ '\u0085' ∧ c ≠ '\ufeff' := by
  refine ⟨?_, ?_, ?_, ?_, ?_⟩ <;> rintro rfl <;> exact absurd printable (by decide)

theorem isBreak_of_isAnyBreak {c : Char} (unbroken : isAnyBreak c = false) : isBreak c = false := by
  simp only [isAnyBreak, Bool.or_eq_false_iff] at unbroken
  exact unbroken.1.1

theorem isBreak_eq_isAnyBreak {c : Char} (printable : isPrintable c = true) : isBreak c = isAnyBreak c := by
  obtain ⟨_, _, no_return, no_next_line, _⟩ := isPrintable_ne printable
  have other_return := beq_eq_false_iff_ne.2 no_return
  have other_line := beq_eq_false_iff_ne.2 no_next_line
  simp [isAnyBreak, other_return, other_line]

theorem isBlank_eq_isSpace {c : Char} (printable : isPrintable c = true) : isBlank c = isSpace c := by
  have no_tab := (isPrintable_ne printable).1
  simp [isBlank, isSpace, no_tab]

/-- Printable characters of one line. -/
def InLine (cs : List Char) : Prop := ∀ c ∈ cs, isPrintable c = true ∧ isAnyBreak c = false

theorem InLine.isBreak {cs : List Char} (inLine : InLine cs) (c : Char) (member : c ∈ cs) : isBreak c = false :=
  isBreak_of_isAnyBreak (inLine c member).2

theorem InLine.isBlank {cs : List Char} (inLine : InLine cs) {c : Char} (member : c ∈ cs) :
    isBlank c = isSpace c :=
  isBlank_eq_isSpace (inLine c member).1

/-- What sets off a text before it is followed by something else, still does so or is a divider itself. -/
theorem isDivider_of_isSetOff {r tail : List Char} (attached : isSetOff r = false) : isDivider (r ++ tail) = false := by
  cases r with
  | nil => simp [isSetOff] at attached
  | cons d r =>
    simp only [isSetOff, Bool.or_eq_false_iff] at attached
    simp [isDivider, attached.1.1, isBreak_of_isAnyBreak attached.1.2]

section Read
variable {indent : Nat} {start : Mark}

theorem readPlain_space (r acc gap : List Char) (m : Mark) :
    readPlain false indent start (' ' :: r) m acc (.blanks gap) =
      readPlain false indent start r m.next acc (.blanks (' ' :: gap)) := by
  simp [readPlain, isBlank, Gap.spansLines, Gap.addBlank]

/-- A character that is no blank and nothing to stop at becomes part of the text, with the blanks before it. -/
theorem readPlain_char {c : Char} {r acc gap : List Char} {m : Mark} (no_blank : isBlank c = false)
    (no_break : isBreak c = false) (no_value : c = ':' → isDivider r = false)
    (goes_on : gap ≠ [] → indent ≤ m.column ∧ c ≠ '#' ∧ 0 < m.column) :
    readPlain false indent start (c :: r) m acc (.blanks gap) =
      readPlain false indent start r m.next (c :: (gap ++ acc)) .none := by
  have value : (c == ':' && isDivider r) = false := by
    by_cases colon : c = ':'
    · simp [no_value colon]
    · simp [colon]
  cases gap with
  | nil => simp [readPlain, no_blank, no_break, value, Gap.isNone, Gap.folded]
  | cons g gap =>
    obtain ⟨right, no_comment, column⟩ := goes_on (by simp)
    have below : ¬m.column < indent := by omega
    have inside : ¬m.column = 0 := by omega
    simp [readPlain, no_blank, no_break, value, Gap.isNone, Gap.folded, no_comment, below, inside]

/-- After its first character a plain text is read to its end, whatever follows. -/
theorem readPlain_append (cs tail : List Char) (before : Char) (m : Mark) (acc gap : List Char) (inLine : InLine cs)
    (clean : holdsIndicator before cs = false) (ends : ∀ c ∈ cs.getLast?, isSpace c = false)
    (right : indent ≤ m.column + 1) (column : 0 < m.column)
    (open_gap : gap ≠ [] → cs ≠ [] ∧ before = ' ' ∧ indent ≤ m.column) :
    readPlain false indent start (cs ++ tail) m acc (.blanks gap) =
      readPlain false indent start tail (m.past cs) (cs.reverse ++ (gap ++ acc)) .none := by
  induction cs generalizing before m acc gap with
  | nil =>
    have closed : gap = [] := by
      cases gap with
      | nil => rfl
      | cons g gap => exact absurd rfl (open_gap (by simp)).1
    simp [closed, Gap.none]
  | cons c r ih =>
    have rest : InLine r := fun d member => inLine d (by simp [member])
    have no_break := inLine.isBreak c (by simp)
    simp only [holdsIndicator, Bool.or_eq_false_iff] at clean
    obtain ⟨⟨no_value, no_comment⟩, clean⟩ := clean
    have next : m.past (c :: r) = m.next.past r := by rw [Mark.past_cons, no_break]; rfl
    have ends' : ∀ d ∈ r.getLast?, isSpace d = false := by
      intro d member
      cases r with
      | nil => simp at member
      | cons e r => exact ends d (by simpa using member)
    by_cases space : c = ' '
    · subst space
      have more : r ≠ [] := by
        rintro rfl
        exact absurd (ends ' ' (by simp)) (by decide)
      rw [List.cons_append, readPlain_space, ih ' ' m.next acc (' ' :: gap) rest clean ends' (by simp; omega) (by simp)
        fun _ => ⟨more, rfl, by simp; omega⟩, next]
      simp
    · have no_blank : isBlank c = false := by
        rw [inLine.isBlank (by simp)]
        simp [isSpace, space]
      have value : c = ':' → isDivider (r ++ tail) = false := by
        rintro rfl
        exact isDivider_of_isSetOff (by simpa using no_value)
      have goes_on : gap ≠ [] → indent ≤ m.column ∧ c ≠ '#' ∧ 0 < m.column := by
        intro blanks
        obtain ⟨_, rfl, inside⟩ := open_gap blanks
        exact ⟨inside, by rintro rfl; simp [isSetOff, isBlank] at no_comment, column⟩
      rw [List.cons_append, readPlain_char no_blank no_break value goes_on, Gap.none,
        ih c m.next (c :: (gap ++ acc)) [] rest clean ends' (by simp; omega) (by simp) (by simp), next]
      simp [Gap.none]

/-- The end of the line ends a plain text, if what comes next is no continuation. -/
theorem readPlain_newline (acc more : List Char) (m : Mark) (n : Nat) (starts : startsToken more = true)
    (left : more ≠ [] → n < indent) :
    readPlain false indent start ('\n' :: spaces n ++ more) m acc .none =
      .ok (.of acc more (m.newline.past (spaces n)) true) := by
  have skipped : ∀ k m', readPlain false indent start (spaces k ++ more) m' acc (.lines (some '\n') []) =
      readPlain false indent start more (m'.past (spaces k)) acc (.lines (some '\n') []) := by
    intro k
    induction k with
    | zero => exact fun _ => rfl
    | succ k ih =>
      intro m'
      have one : spaces (k + 1) = ' ' :: spaces k := rfl
      rw [one, List.cons_append, Mark.past_cons, ← ih]
      simp [readPlain, isBlank, isBreak, Gap.addBlank]
  have first : readPlain false indent start ('\n' :: (spaces n ++ more)) m acc .none =
      readPlain false indent start (spaces n ++ more) m.newline acc (.lines (some '\n') []) := by
    simp [readPlain, isBlank, isBreak, Gap.none, Gap.addBreak]
  rw [List.cons_append, first, skipped, Mark.past_spaces]
  cases more with
  | nil => simp [readPlain, Gap.spansLines]
  | cons c r =>
    simp only [startsToken, Bool.and_eq_true, Bool.not_eq_true'] at starts
    obtain ⟨⟨⟨no_blank, no_break⟩, _⟩, _⟩ := starts
    simp [readPlain, no_blank, no_break, Gap.isNone, Gap.spansLines, left (by simp)]

/-- A `:` that is set off ends a plain text. -/
theorem readPlain_colon (acc r : List Char) (m : Mark) (divider : isDivider r = true) :
    readPlain false indent start (':' :: r) m acc .none = .ok (.of acc (':' :: r) m false) := by
  simp [readPlain, isBlank, isBreak, Gap.none, Gap.isNone, Gap.spansLines, divider]

end Read

/-- What `plainAllowed` says of a text with a first character. -/
structure PlainText (c : Char) (r : List Char) : Prop where
  inLine : InLine (c :: r)
  no_space : isSpace c = false
  ends : ∀ d ∈ (c :: r).getLast?, isSpace d = false
  no_triple : startsTriple (c :: r) = false
  no_other : startsOther (c :: r) = false
  clean : holdsIndicator c r = false

theorem inLine_of_not_needsEscape {cs : List Char} (printable : needsEscape cs = false)
    (unbroken : cs.any isAnyBreak = false) : InLine cs := by
  simp only [needsEscape, Bool.or_eq_false_iff] at printable
  intro c member
  have here := List.any_eq_false.1 printable.1 c member
  have there := List.any_eq_false.1 unbroken c member
  exact ⟨by simpa using here, by simpa using there⟩

theorem plainText_of_allowed {c : Char} {r : List Char} (plain : plainAllowed (c :: r) = true) : PlainText c r := by
  simp only [plainAllowed, Bool.and_eq_true, Bool.not_eq_true'] at plain
  obtain ⟨⟨⟨⟨⟨⟨printable, unbroken⟩, no_space⟩, ends⟩, no_triple⟩, no_other⟩, clean⟩ := plain
  refine ⟨inLine_of_not_needsEscape printable unbroken, no_space, fun d member => ?_, no_triple, no_other, clean⟩
  rw [Option.mem_def.1 member] at ends
  exact ends

namespace PlainText
variable {c : Char} {r : List Char}

/-- The first character is no indicator. -/
theorem no_indicator (plain : PlainText c r) : Scanner.isIndicator c = false := by
  have no_other := plain.no_other
  simp only [startsOther, Bool.or_eq_false_iff] at no_other
  have apart := no_other.1
  simp only [List.contains_eq_mem, decide_eq_false_iff_not] at apart
  simp at apart
  simp [Scanner.isIndicator, apart]

/-- A first character that would be an indicator alone does not stand alone. -/
theorem attached (plain : PlainText c r) (tail : List Char) (sign : c = '?' ∨ c = ':' ∨ c = '-') :
    isDivider (r ++ tail) = false ∧ ((r ++ tail).head?.map isBlank).getD false = false := by
  have no_other := plain.no_other
  simp only [startsOther, Bool.or_eq_false_iff, Bool.and_eq_false_iff] at no_other
  have attached : isSetOff r = false := by
    rcases no_other.2 with apart | attached
    · simp at apart; rcases sign with h | h | h <;> simp [h] at apart
    · exact attached
  refine ⟨isDivider_of_isSetOff attached, ?_⟩
  cases r with
  | nil => simp [isSetOff] at attached
  | cons d r =>
    simp only [isSetOff, Bool.or_eq_false_iff] at attached
    simp [attached.1.1]

theorem startsPlain (plain : PlainText c r) (tail : List Char) : Scanner.startsPlain false (c :: r ++ tail) = true := by
  have no_blank : isBlank c = false := by rw [plain.inLine.isBlank (by simp)]; exact plain.no_space
  have no_break := plain.inLine.isBreak c (by simp)
  by_cases dash : c = '-'
  · subst dash
    simpa [Scanner.startsPlain] using (plain.attached tail (by simp)).2
  by_cases sign : c = '?' ∨ c = ':'
  · have attached := (plain.attached tail (sign.elim .inl fun h => .inr (.inl h))).1
    rcases sign with rfl | rfl <;> simp [Scanner.startsPlain, attached]
  · obtain ⟨no_question, no_colon⟩ := not_or.1 sign
    simp [Scanner.startsPlain, no_blank, no_break, plain.no_indicator, no_question, no_colon]

/-- Three signs at the start of a line that mark a document do not start a plain text. -/
theorem no_startsIndicator (plain : PlainText c r) (tail : List Char) {x : Char} (mark : x = '-' ∨ x = '.')
    (ends : tail.head? ≠ some x) : startsIndicator x (c :: r ++ tail) = false := by
  have no_triple : ∀ a, a = x → ∀ s, c :: r ≠ a :: x :: x :: s := by
    rintro a rfl s same
    have no_triple := plain.no_triple
    rw [same] at no_triple
    rcases mark with rfl | rfl <;> simp [startsTriple] at no_triple
  rcases r with _ | ⟨d, _ | ⟨e, r⟩⟩
  · cases tail with
    | nil => rfl
    | cons t tail =>
      have other : t ≠ x := by simpa using ends
      rcases tail with _ | ⟨u, tail⟩ <;> simp [startsIndicator, other]
  · cases tail with
    | nil => rfl
    | cons t tail =>
      have other : t ≠ x := by simpa using ends
      simp [startsIndicator, other]
  · by_cases triple : c = x ∧ d = x ∧ e = x
    · obtain ⟨rfl, rfl, rfl⟩ := triple
      exact absurd rfl (no_triple _ rfl r)
    · simp [startsIndicator]
      intro h1 h2 h3
      exact absurd ⟨h1, h2, h3⟩ triple

theorem startsToken (plain : PlainText c r) (tail : List Char) : startsToken (c :: r ++ tail) = true := by
  have no_blank : isBlank c = false := by rw [plain.inLine.isBlank (by simp)]; exact plain.no_space
  have no_break := plain.inLine.isBreak c (by simp)
  have no_mark := (isPrintable_ne (plain.inLine c (by simp)).1).2.2.2.2
  have no_comment : c ≠ '#' := by
    rintro rfl
    exact absurd plain.no_indicator (by decide)
  simp [Yaml.startsToken, no_blank, no_break, no_mark, no_comment]

/-- A plain text is read from its first character on up to what follows it. -/
theorem read (plain : PlainText c r) {indent : Nat} {start m : Mark} (right : indent ≤ m.column + 2)
    (tail : List Char) : readPlain false indent start (c :: r ++ tail) m [] .none =
      readPlain false indent start tail (m.past (c :: r)) (c :: r).reverse .none := by
  have no_blank : isBlank c = false := by rw [plain.inLine.isBlank (by simp)]; exact plain.no_space
  have no_break := plain.inLine.isBreak c (by simp)
  have rest : InLine r := fun d member => plain.inLine d (by simp [member])
  have ends : ∀ d ∈ r.getLast?, isSpace d = false := by
    intro d member
    cases r with
    | nil => simp at member
    | cons e r => exact plain.ends d (by simpa using member)
  rw [List.cons_append, Gap.none, readPlain_char no_blank no_break
    (fun colon => (plain.attached tail (.inr (.inl colon))).1) (by simp), Gap.none,
    readPlain_append r tail c m.next (c :: ([] ++ [])) [] rest plain.clean ends (by simp; omega) (by simp) (by simp),
    Mark.past_cons, no_break]
  simp [Gap.none]

end PlainText

end MachineOperator.Yaml
