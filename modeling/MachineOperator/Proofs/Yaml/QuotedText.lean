import MachineOperator.Proofs.Yaml.PlainText
import Mathlib

/-!
Quoted text is read as it was before it was quoted. Between single quotes lines are begun anew and indented, which a
reader takes back; between double quotes everything that could be mistaken is escaped.
-/
namespace MachineOperator.Yaml

theorem holdsPair_cons {p q : Char → Bool} {c : Char} {r : List Char} (apart : holdsPair p q (c :: r) = false) :
    holdsPair p q r = false ∧ (p c = true → ∀ d ∈ r.head?, q d = false) := by
  cases r with
  | nil => simp [holdsPair]
  | cons d r =>
    simp only [holdsPair, Bool.or_eq_false_iff, Bool.and_eq_false_iff] at apart
    refine ⟨apart.2, fun here e member => ?_⟩
    cases member
    simpa [here] using apart.1

section Single
variable {start : Mark}

/-- Spaces at the start of a line within quotes count for nothing. -/
theorem readSingleQuoted_spaces (n : Nat) (r acc more : List Char) (m : Mark) (first : Option Char) :
    readSingleQuoted start (spaces n ++ r) m acc (.lines first more) =
      readSingleQuoted start r (m.past (spaces n)) acc (.lines first more) := by
  induction n generalizing m with
  | zero => rfl
  | succ n ih =>
    have one : spaces (n + 1) = ' ' :: spaces n := rfl
    rw [one, List.cons_append, Mark.past_cons, ← ih]
    simp [readSingleQuoted, isBlank, isBreak, Gap.addBlank]

theorem readSingleQuoted_char {c : Char} {r acc : List Char} {m : Mark} {gap : Gap} (no_quote : c ≠ '\'')
    (no_blank : isBlank c = false) (no_break : isBreak c = false) (column : 0 < m.column) :
    readSingleQuoted start (c :: r) m acc gap = readSingleQuoted start r m.next (c :: (gap.folded ++ acc)) .none := by
  have inside : ¬m.column = 0 := by omega
  simp [readSingleQuoted, no_quote, no_blank, no_break, inside]

theorem readSingleQuoted_close {r acc : List Char} {m : Mark} {gap : Gap} (single : r.head? ≠ some '\'') :
    readSingleQuoted start ('\'' :: r) m acc gap = .ok (.of (gap.folded ++ acc) r m.next false) := by
  cases r with
  | nil => simp [readSingleQuoted]
  | cons d r =>
    have other : d ≠ '\'' := by simpa using single
    simp [readSingleQuoted, other]

/-- What has been read and put aside before the rest of a text: spaces of a line, or lines without text. -/
def Aside (indent : Nat) (gap : Gap) (m : Mark) (cs : List Char) : Bool → Prop
  | false => ∃ blanks, gap = .blanks blanks ∧ 0 < m.column ∧
      (blanks ≠ [] → ∀ c ∈ cs.head?, isAnyBreak c = false)
  | true => ∃ first more, gap = .lines (some first) more ∧ first ≠ '\n' ∧ 0 < indent ∧
      ∀ c ∈ cs.head?, isSpace c = false

/-- Of lines without text none is dropped, because none of them ends in an ordinary line break. -/
theorem Aside.addBreak {indent : Nat} {gap : Gap} {m : Mark} {c : Char} {r : List Char} {broken : Bool}
    (aside : Aside indent gap m (c :: r) broken) (breaks : isAnyBreak c = true) (right : 0 < indent)
    (special : c ≠ '\n')
    (next : ∀ d ∈ r.head?, isSpace d = false) :
    Aside indent (gap.addBreak c) m.newline r true ∧ (gap.addBreak c).folded = c :: gap.folded := by
  cases broken with
  | false =>
    obtain ⟨blanks, rfl, column, blank⟩ := aside
    have none_there : blanks = [] := by
      cases blanks with
      | nil => rfl
      | cons b blanks => exact absurd (blank (by simp) c rfl) (by simp [breaks])
    subst none_there
    refine ⟨⟨c, [], rfl, special, right, next⟩, ?_⟩
    unfold Gap.addBreak Gap.folded
    split <;> simp_all
  | true =>
    obtain ⟨first, more, rfl, ordinary, _, _⟩ := aside
    refine ⟨⟨first, c :: more, rfl, ordinary, right, next⟩, ?_⟩
    have fold : ∀ l, (Gap.lines (some first) l).folded = l ++ [first] := by
      intro l
      unfold Gap.folded
      split <;> simp_all
    rw [Gap.addBreak, fold, fold]
    rfl

/-- A line that was just begun is indented before its text. -/
theorem Aside.begun {indent : Nat} {gap : Gap} {m : Mark} {cs : List Char} {broken : Bool}
    (aside : Aside indent gap m cs broken) (acc : List Char) :
    ∃ m', m.past (if broken then spaces indent else []) = m' ∧ 0 < m'.column ∧
      ∀ x, readSingleQuoted start ((if broken then spaces indent else []) ++ x) m acc gap =
        readSingleQuoted start x m' acc gap := by
  cases broken with
  | false =>
    obtain ⟨blanks, rfl, column, _⟩ := aside
    exact ⟨m, rfl, column, fun _ => rfl⟩
  | true =>
    obtain ⟨first, more, rfl, _, right, _⟩ := aside
    refine ⟨m.past (spaces indent), rfl, ?_, fun x => readSingleQuoted_spaces indent x acc more m (some first)⟩
    rw [Mark.past_spaces]
    exact Nat.lt_of_lt_of_le right (Nat.le_add_left indent m.column)

/-- Text between single quotes is read to the closing one, whatever was put aside before it. -/
theorem readSingleQuoted_from {indent : Nat} (cs tail : List Char) (broken : Bool) (m : Mark) (acc : List Char)
    (gap : Gap) (printable : ∀ c ∈ cs, isPrintable c = true) (before : holdsPair isSpace isAnyBreak cs = false)
    (after : holdsPair isAnyBreak isSpace cs = false)
    (breaks : ∀ c ∈ cs, isAnyBreak c = true → 0 < indent ∧ c ≠ '\n') (aside : Aside indent gap m cs broken)
    (single : tail.head? ≠ some '\'') :
    readSingleQuoted start (singleQuotedFrom indent broken cs ++ '\'' :: tail) m acc gap =
      .ok (.of (cs.reverse ++ (gap.folded ++ acc)) tail
        (m.past (singleQuotedFrom indent broken cs ++ ['\''])) false) := by
  induction cs generalizing broken m acc gap with
  | nil =>
    cases broken with
    | false =>
      simp only [singleQuotedFrom, Bool.false_eq_true, if_false, List.nil_append]
      rw [readSingleQuoted_close single]
      rfl
    | true =>
      obtain ⟨first, more, rfl, _⟩ := aside
      simp only [singleQuotedFrom, if_true]
      rw [readSingleQuoted_spaces, readSingleQuoted_close single, Mark.past_append]
      rfl
  | cons c r ih =>
    have rest : ∀ d ∈ r, isPrintable d = true := fun d member => printable d (by simp [member])
    have breaks' : ∀ d ∈ r, isAnyBreak d = true → 0 < indent ∧ d ≠ '\n' :=
      fun d member => breaks d (by simp [member])
    obtain ⟨before', space_then⟩ := holdsPair_cons before
    obtain ⟨after', break_then⟩ := holdsPair_cons after
    have here := printable c (by simp)
    by_cases space : isSpace c = true
    · -- A space of a line is put aside; none stands at the start of a line.
      have same : c = ' ' := by simpa [isSpace] using space
      subst same
      cases broken with
      | true =>
        obtain ⟨first, more, rfl, _, _, none_next⟩ := aside
        exact absurd (none_next ' ' rfl) (by simp [space])
      | false =>
        obtain ⟨blanks, rfl, column, _⟩ := aside
        have put : readSingleQuoted start (' ' :: (singleQuotedFrom indent false r ++ '\'' :: tail)) m acc
            (.blanks blanks) = readSingleQuoted start (singleQuotedFrom indent false r ++ '\'' :: tail) m.next acc
              (.blanks (' ' :: blanks)) := by
          simp [readSingleQuoted, isBlank, Gap.addBlank]
        simp only [singleQuotedFrom, space, if_true, List.cons_append]
        rw [put, ih false m.next acc _ rest before' after' breaks'
          ⟨' ' :: blanks, rfl, by simp, fun _ => space_then space⟩]
        simp [Gap.folded, Mark.past_cons, isBreak]
    have no_blank : isBlank c = false := by rw [isBlank_eq_isSpace here]; simpa using space
    by_cases breaking : isAnyBreak c = true
    · obtain ⟨right, special⟩ := breaks c (by simp) breaking
      have is_break : isBreak c = true := by rw [isBreak_eq_isAnyBreak here]; exact breaking
      have no_quote : c ≠ '\'' := by rintro rfl; exact absurd breaking (by decide)
      obtain ⟨aside, folded⟩ := aside.addBreak breaking right special (break_then breaking)
      have line : readSingleQuoted start (c :: (singleQuotedFrom indent true r ++ '\'' :: tail)) m acc gap =
          readSingleQuoted start (singleQuotedFrom indent true r ++ '\'' :: tail) m.newline acc (gap.addBreak c) := by
        simp [readSingleQuoted, no_blank, is_break, no_quote]
      simp only [singleQuotedFrom, space, breaking, if_true, if_false, List.cons_append, Bool.false_eq_true]
      rw [line, ih true m.newline acc _ rest before' after' breaks' aside, folded]
      simp [Mark.past_cons, is_break]
    · have no_break : isBreak c = false := by rw [isBreak_eq_isAnyBreak here]; simpa using breaking
      obtain ⟨m', past, column, begun⟩ := Aside.begun aside acc
      have fresh : ∀ m'' : Mark, 0 < m''.column → Aside indent .none m'' r false :=
        fun m'' right => ⟨[], rfl, right, by simp⟩
      simp only [singleQuotedFrom, space, breaking, if_false, List.append_assoc, Bool.false_eq_true]
      rw [begun]
      by_cases quote : c = '\''
      · subst quote
        simp only [if_true, List.cons_append, List.nil_append]
        rw [readSingleQuoted_quote, ih false m'.next.next _ _ rest before' after' breaks' (fresh _ (by simp))]
        simp [Mark.past_append, past, Mark.past_cons, isBreak, Gap.folded, Gap.none]
      · simp only [quote, if_false, List.cons_append, List.nil_append]
        rw [readSingleQuoted_char quote no_blank no_break column,
          ih false m'.next _ _ rest before' after' breaks' (fresh _ (by simp))]
        simp [Mark.past_append, past, Mark.past_cons, no_break, Gap.folded, Gap.none]

theorem readSingleQuoted_quoted {indent : Nat} {cs : List Char} (allowed : singleAllowed cs = true) (tail : List Char)
    {m : Mark} (breaks : ∀ c ∈ cs, isAnyBreak c = true → 0 < indent ∧ c ≠ '\n') (column : 0 < m.column)
    (single : tail.head? ≠ some '\'') :
    readSingleQuoted start (singleQuotedFrom indent false cs ++ '\'' :: tail) m [] .none =
      .ok (.of cs.reverse tail (m.past (singleQuotedFrom indent false cs ++ ['\''])) false) := by
  simp only [singleAllowed, needsEscape, Bool.and_eq_true, Bool.not_eq_true', Bool.or_eq_false_iff] at allowed
  obtain ⟨⟨printable, before⟩, after⟩ := allowed
  have printable' : ∀ c ∈ cs, isPrintable c = true := by
    intro c member
    simpa using List.any_eq_false.1 printable c member
  rw [readSingleQuoted_from cs tail false m [] .none printable' before after breaks ⟨[], rfl, column, by simp⟩ single]
  simp [Gap.folded, Gap.none]

end Single

/-! Between double quotes every character stands for itself or is escaped; a line is never begun anew. -/

/-- A space is put aside until it is known what follows. -/
theorem readDoubleQuoted_space {start : Mark} (r acc gap : List Char) (m : Mark) :
    readDoubleQuoted start (' ' :: r) m acc (.blanks gap) none =
      readDoubleQuoted start r m.next acc (.blanks (' ' :: gap)) none := by
  simp [readDoubleQuoted, isBlank, Gap.addBlank]

theorem letterEscape?_escapeLetter? {c letter : Char} (escape : escapeLetter? c = some letter) :
    letterEscape? letter = some c ∧ isBreak letter = false := by
  revert escape
  unfold escapeLetter?
  iterate 14
    refine iteInduction
      (motive := fun x : Option Char => x = some letter → letterEscape? letter = some c ∧ isBreak letter = false)
      (fun same escape => by cases escape; subst same; decide) (fun _ => ?_)
  exact fun escape => by cases escape

theorem hexDigit?_hexDigit {n : Nat} (small : n < 16) : Yaml.hexDigit? (hexDigit n) = some n := by
  have each : ∀ i : Fin 16, Yaml.hexDigit? (hexDigit i.val) = some i.val := by decide
  exact each ⟨n, small⟩

theorem hexDigit_no_break (n : Nat) : isBreak (hexDigit (n % 16)) = false := by
  have each : ∀ i : Fin 16, isBreak (hexDigit i.val) = false := by decide
  exact each ⟨n % 16, Nat.mod_lt _ (by decide)⟩

theorem hexDigits_no_break (k n : Nat) : ∀ c ∈ hexDigits k n, isBreak c = false := by
  induction k generalizing n with
  | zero => simp [hexDigits]
  | succ k ih =>
    intro c member
    rcases List.mem_append.1 member with earlier | last
    · exact ih _ c earlier
    · rw [List.mem_singleton.1 last]
      exact hexDigit_no_break n

/-- An escape stays within its line. -/
theorem escaped_no_break (c : Char) : ∀ d ∈ escaped c, isBreak d = false := by
  have slash : isBreak '\\' = false := by decide
  have numbered : ∀ (letter : Char) (k : Nat), isBreak letter = false →
      ∀ d ∈ '\\' :: letter :: hexDigits k c.toNat, isBreak d = false := by
    intro letter k no_break d member
    rcases List.mem_cons.1 member with rfl | member
    · exact slash
    · rcases List.mem_cons.1 member with rfl | member
      · exact no_break
      · exact hexDigits_no_break k _ d member
  unfold escaped
  cases escape : escapeLetter? c with
  | some letter =>
    obtain ⟨_, no_break⟩ := letterEscape?_escapeLetter? escape
    simp [slash, no_break]
  | none =>
    dsimp only
    split
    · exact numbered 'x' 2 (by decide)
    · split
      · exact numbered 'u' 4 (by decide)
      · exact numbered 'U' 8 (by decide)

section Double
variable {start : Mark}

/-- The digits of an escape, up to the last one. -/
theorem readDoubleQuoted_digits (k left value n : Nat) (from_ m : Mark) (tail acc : List Char) (gap : Gap) :
    readDoubleQuoted start (hexDigits k n ++ tail) m acc gap (some ⟨k + left + 1, value, from_⟩) =
      readDoubleQuoted start tail (m.past (hexDigits k n)) acc gap
        (some ⟨left + 1, value * 16 ^ k + n % 16 ^ k, from_⟩) := by
  induction k generalizing left n tail with
  | zero => simp [hexDigits, Nat.mod_one]
  | succ k ih =>
    have digit := hexDigit?_hexDigit (Nat.mod_lt n (by decide : 0 < 16))
    have more : ¬left + 1 + 1 = 1 := by omega
    have no_break := hexDigit_no_break n
    have total : (value * 16 ^ k + n / 16 % 16 ^ k) * 16 + n % 16 = value * 16 ^ (k + 1) + n % 16 ^ (k + 1) := by
      rw [Nat.pow_succ', Nat.mod_mul, Nat.add_mul, Nat.mul_assoc, Nat.mul_comm (16 ^ k) 16]
      omega
    have count : k + 1 + left + 1 = k + (left + 1) + 1 := by omega
    rw [hexDigits, List.append_assoc, count, ih (left + 1) (n / 16)]
    simp only [List.cons_append, List.nil_append]
    rw [readDoubleQuoted, digit]
    dsimp only
    rw [if_neg more, Nat.add_sub_cancel, total, Mark.past_append, Mark.past_cons, no_break]
    rfl

/-- The last digit completes the number of a character. -/
theorem readDoubleQuoted_last {x : Char} {d value : Nat} {c : Char} (digit : hexDigit? x = some d)
    (whole : value * 16 + d = c.toNat) (from_ m : Mark) (tail acc : List Char) (gap : Gap) :
    readDoubleQuoted start (x :: tail) m acc gap (some ⟨1, value, from_⟩) =
      readDoubleQuoted start tail m.next (c :: acc) gap none := by
  have valid : c.toNat.isValidChar := c.valid
  have same : Char.ofNatAux c.toNat valid = c := by
    apply Char.ext
    apply UInt32.toNat_inj.1
    rfl
  rw [readDoubleQuoted, digit]
  dsimp only
  rw [if_pos rfl]
  generalize value * 16 + d = number at whole
  subst whole
  rw [dif_pos valid, same]

/-- All the digits of a character's number give the character. -/
theorem readDoubleQuoted_number (k : Nat) (c : Char) (fits : c.toNat < 16 ^ (k + 1)) (from_ m : Mark)
    (tail acc : List Char) (gap : Gap) :
    readDoubleQuoted start (hexDigits (k + 1) c.toNat ++ tail) m acc gap (some ⟨k + 1, 0, from_⟩) =
      readDoubleQuoted start tail (m.past (hexDigits (k + 1) c.toNat)) (c :: acc) gap none := by
  have digit := hexDigit?_hexDigit (Nat.mod_lt c.toNat (by decide : 0 < 16))
  have no_break := hexDigit_no_break c.toNat
  have most : c.toNat / 16 < 16 ^ k := by
    rw [Nat.pow_succ] at fits
    exact Nat.div_lt_of_lt_mul (by omega)
  have total : (0 * 16 ^ k + c.toNat / 16 % 16 ^ k) * 16 + c.toNat % 16 = c.toNat := by
    rw [Nat.mod_eq_of_lt most]
    omega
  rw [hexDigits, List.append_assoc, readDoubleQuoted_digits k 0 0 (c.toNat / 16)]
  simp only [List.cons_append, List.nil_append]
  rw [readDoubleQuoted_last digit total, Mark.past_append, Mark.past_cons, no_break]
  rfl

theorem readDoubleQuoted_char {c : Char} {r acc : List Char} {m : Mark} {gap : Gap} (no_quote : c ≠ '"')
    (no_escape : c ≠ '\\') (no_blank : isBlank c = false) (no_break : isBreak c = false) (column : 0 < m.column) :
    readDoubleQuoted start (c :: r) m acc gap none =
      readDoubleQuoted start r m.next (c :: (gap.folded ++ acc)) .none none := by
  have inside : ¬m.column = 0 := by omega
  simp [readDoubleQuoted, no_escape, no_blank, no_break, inside]

theorem readDoubleQuoted_letter {c letter : Char} {r acc : List Char} {m : Mark} {gap : Gap}
    (no_break : isBreak letter = false) (escape : letterEscape? letter = some c) :
    readDoubleQuoted start ('\\' :: letter :: r) m acc gap none =
      readDoubleQuoted start r m.next.next (c :: (gap.folded ++ acc)) .none none := by
  simp [readDoubleQuoted, no_break, escape]

theorem readDoubleQuoted_code {letter : Char} {digits : Nat} {r acc : List Char} {m : Mark} {gap : Gap}
    (no_break : isBreak letter = false) (no_letter : letterEscape? letter = none)
    (code : codeEscape? letter = some digits) :
    readDoubleQuoted start ('\\' :: letter :: r) m acc gap none =
      readDoubleQuoted start r m.next.next (gap.folded ++ acc) .none (some ⟨digits, 0, m.next.next⟩) := by
  simp [readDoubleQuoted, no_break, no_letter, code]

/-- An escape is read as the character that it was written for. -/
theorem readDoubleQuoted_escaped (c : Char) (tail acc : List Char) (m : Mark) (gap : Gap) :
    readDoubleQuoted start (escaped c ++ tail) m acc gap none =
      readDoubleQuoted start tail (m.past (escaped c)) (c :: (gap.folded ++ acc)) .none none := by
  have slash : isBreak '\\' = false := by decide
  unfold escaped
  cases escape : escapeLetter? c with
  | some letter =>
    obtain ⟨reads, no_break⟩ := letterEscape?_escapeLetter? escape
    simp only [List.cons_append, List.nil_append]
    rw [readDoubleQuoted_letter no_break reads]
    simp [Mark.past_cons, slash, no_break]
  | none =>
    dsimp only
    split
    · next small =>
      simp only [List.cons_append]
      rw [readDoubleQuoted_code (by decide) (by decide) (show codeEscape? 'x' = some 2 by decide),
        readDoubleQuoted_number 1 c (by omega)]
      rfl
    · split
      · next small =>
        simp only [List.cons_append]
        rw [readDoubleQuoted_code (by decide) (by decide) (show codeEscape? 'u' = some 4 by decide),
          readDoubleQuoted_number 3 c (by omega)]
        rfl
      · have small : c.toNat < 4294967296 := c.val.toNat_lt
        simp only [List.cons_append]
        rw [readDoubleQuoted_code (by decide) (by decide) (show codeEscape? 'U' = some 8 by decide),
          readDoubleQuoted_number 7 c (by omega)]
        rfl

/-- The characters of a text between double quotes. -/
def doubleQuotedFrom (cs : List Char) : List Char := cs.flatMap fun c => if isEscaped c then escaped c else [c]

/-- Text between double quotes is read to the closing one, whatever spaces were put aside before it. -/
theorem readDoubleQuoted_from (cs tail : List Char) (m : Mark) (acc gap : List Char) (column : 0 < m.column) :
    readDoubleQuoted start (doubleQuotedFrom cs ++ '"' :: tail) m acc (.blanks gap) none =
      .ok (.of (cs.reverse ++ (gap ++ acc)) tail (m.past (doubleQuotedFrom cs ++ ['"'])) false) := by
  induction cs generalizing m acc gap with
  | nil =>
    simp only [doubleQuotedFrom, List.flatMap_nil, List.nil_append]
    simp [readDoubleQuoted, Gap.folded, Mark.past_cons, isBreak]
  | cons c r ih =>
    have parts : doubleQuotedFrom (c :: r) = (if isEscaped c then escaped c else [c]) ++ doubleQuotedFrom r := by
      simp [doubleQuotedFrom]
    rw [parts, List.append_assoc]
    by_cases escape : isEscaped c = true
    · have past := Mark.past_line m (escaped_no_break c)
      rw [if_pos escape, readDoubleQuoted_escaped, Gap.none, Gap.folded,
        ih (m.past (escaped c)) (c :: (gap ++ acc)) [] (by rw [past]; simp; omega)]
      simp [Mark.past_append]
    · have unmarked := escape
      simp only [isEscaped, Bool.or_eq_true, not_or, Bool.not_eq_true', Bool.not_eq_true, Bool.not_eq_false,
        beq_iff_eq] at unmarked
      obtain ⟨⟨⟨printable, no_break⟩, no_quote⟩, no_escape⟩ := unmarked
      have no_break := isBreak_of_isAnyBreak no_break
      have next : ∀ x, m.past (c :: x) = m.next.past x := by
        intro x
        rw [Mark.past_cons, no_break]
        rfl
      rw [if_neg escape]
      by_cases space : c = ' '
      · subst space
        simp only [List.cons_append, List.nil_append]
        rw [readDoubleQuoted_space, ih m.next acc (' ' :: gap) (by simp), next]
        simp
      · have no_blank : isBlank c = false := by
          rw [isBlank_eq_isSpace printable]
          simp [isSpace, space]
        simp only [List.cons_append, List.nil_append]
        rw [readDoubleQuoted_char no_quote no_escape no_blank no_break column, Gap.none, Gap.folded,
          ih m.next (c :: (gap ++ acc)) [] (by simp), next]
        simp

theorem readDoubleQuoted_quoted (cs tail : List Char) {m : Mark} (column : 0 < m.column) :
    readDoubleQuoted start (doubleQuotedFrom cs ++ '"' :: tail) m [] .none none =
      .ok (.of cs.reverse tail (m.past (doubleQuotedFrom cs ++ ['"'])) false) := by
  rw [Gap.none, readDoubleQuoted_from cs tail m [] [] column]
  simp

end Double

end MachineOperator.Yaml
