import MachineOperator.Proofs.Yaml.Numeral
import MachineOperator.Text.Quoted

/-!
Reading quoted text back. An escaped character tells which one it is, whatever follows it, and a bare quote ends the text.
So quoted text says which text it is and where it ends.
-/
namespace MachineOperator.Text
open Yaml.Plain (digitsFrom digit?)

/-- The character whose number stands before a brace, and what follows the brace. -/
def readNumber? (cs : List Char) : Option (Char × List Char) :=
  (digitsFrom 16 0 (cs.takeWhile (· ≠ '}'))).map fun n => (Char.ofNat n, (cs.dropWhile (· ≠ '}')).tail)

/-- The character that stands after a backslash as a code, and what follows the code. -/
def readCode? : List Char → Option (Char × List Char)
  | '0' :: r => some ('\x00', r)
  | 't' :: r => some ('\t', r)
  | 'n' :: r => some ('\n', r)
  | 'r' :: r => some ('\r', r)
  | '"' :: r => some ('"', r)
  | '\\' :: r => some ('\\', r)
  | 'u' :: '{' :: r => readNumber? r
  | _ => none

/-- The character that escaped text starts with, and what follows it. No character starts with a bare quote. -/
def readChar? : List Char → Option (Char × List Char)
  | [] => none
  | c :: r => if c = '"' then none else if c = '\\' then readCode? r else some (c, r)

theorem isSome_of_digitsFrom {base value n : Nat} {cs : List Char} (read : digitsFrom base value cs = some n) :
    ∀ c ∈ cs, (digit? base c).isSome := by
  induction cs generalizing value with
  | nil => nofun
  | cons d cs ih =>
    obtain ⟨k, here, later⟩ := Option.bind_eq_some_iff.1 read
    intro c member
    rcases List.mem_cons.1 member with rfl | member
    · simp [here]
    · exact ih later c member

theorem digitsFrom_lowerHex (n : Nat) : digitsFrom 16 0 (lowerHex n) = some n :=
  Yaml.Plain.digitsFrom_toDigits (by decide) (by decide) n

theorem readNumber?_lowerHex (c : Char) (rest : List Char) :
    readNumber? (lowerHex c.toNat ++ '}' :: rest) = some (c, rest) := by
  have value := digitsFrom_lowerHex c.toNat
  have open_ : ∀ d ∈ lowerHex c.toNat, decide (d ≠ '}') = true := by
    intro d member
    have known := isSome_of_digitsFrom value d member
    apply decide_eq_true
    rintro rfl
    exact absurd known (by decide)
  simp only [readNumber?, List.takeWhile_append_of_pos open_, List.dropWhile_append_of_pos open_]
  simp [value]

/-- The characters that are escaped by a letter, with that letter. -/
def letterEscapes : List (Char × Char) :=
  [('\x00', '0'), ('\t', 't'), ('\n', 'n'), ('\r', 'r'), ('"', '"'), ('\\', '\\')]

/-- A character is escaped by a letter, or by its number, or shown as it is. -/
theorem escapeChar_cases (c : Char) :
    (∃ letter, (c, letter) ∈ letterEscapes ∧ escapeChar c = ['\\', letter]) ∨
      escapeChar c = escapeNumber c ∨
      c ≠ '"' ∧ c ≠ '\\' ∧ isConcealed c = false ∧ escapeChar c = [c] := by
  by_cases named : ∃ letter, (c, letter) ∈ letterEscapes
  · obtain ⟨letter, member⟩ := named
    refine .inl ⟨letter, member, ?_⟩
    simp only [letterEscapes, List.mem_cons, Prod.mk.injEq, List.not_mem_nil, or_false] at member
    rcases member with ⟨rfl, rfl⟩ | ⟨rfl, rfl⟩ | ⟨rfl, rfl⟩ | ⟨rfl, rfl⟩ | ⟨rfl, rfl⟩ | ⟨rfl, rfl⟩ <;> rfl
  · simp only [letterEscapes, List.mem_cons, Prod.mk.injEq, List.not_mem_nil, or_false, not_exists, not_or] at named
    have other : c ≠ '\x00' ∧ c ≠ '\t' ∧ c ≠ '\n' ∧ c ≠ '\r' ∧ c ≠ '"' ∧ c ≠ '\\' := by grind
    obtain ⟨_, _, _, _, no_quote, no_backslash⟩ := other
    by_cases concealed : isConcealed c = true
    · exact .inr (.inl (by simp [escapeChar, *]))
    · exact .inr (.inr ⟨no_quote, no_backslash, by simpa using concealed, by simp [escapeChar, *]⟩)

/-- An escaped character is read as itself, whatever follows. -/
theorem readChar?_escapeChar (c : Char) (rest : List Char) : readChar? (escapeChar c ++ rest) = some (c, rest) := by
  rcases escapeChar_cases c with ⟨letter, member, same⟩ | same | ⟨no_quote, no_backslash, _, same⟩
  · rw [same]
    simp only [letterEscapes, List.mem_cons, Prod.mk.injEq, List.not_mem_nil, or_false] at member
    rcases member with ⟨rfl, rfl⟩ | ⟨rfl, rfl⟩ | ⟨rfl, rfl⟩ | ⟨rfl, rfl⟩ | ⟨rfl, rfl⟩ | ⟨rfl, rfl⟩ <;> rfl
  · have numbered := readNumber?_lowerHex c rest
    rw [same]
    simpa [escapeNumber, readChar?, readCode?] using numbered
  · rw [same]
    simp [readChar?, no_quote, no_backslash]

theorem readChar?_escape_nil (rest : List Char) : readChar? (escape [] ++ '"' :: rest) = none := rfl

theorem readChar?_escape_cons (c : Char) (cs rest : List Char) :
    readChar? (escape (c :: cs) ++ rest) = some (c, escape cs ++ rest) := by
  have first := readChar?_escapeChar c (escape cs ++ rest)
  rwa [← List.append_assoc] at first

/-- Escaped text is told from any other by what comes before the first bare quote. -/
theorem escape_append_inj {cs ds x y : List Char} :
    escape cs ++ '"' :: x = escape ds ++ '"' :: y ↔ cs = ds ∧ x = y := by
  constructor
  · intro same
    induction cs generalizing ds with
    | nil =>
      have read := congrArg readChar? same
      cases ds with
      | nil => exact ⟨rfl, (List.cons.inj same).2⟩
      | cons d ds =>
        rw [readChar?_escape_nil, readChar?_escape_cons] at read
        cases read
    | cons c cs ih =>
      have read := congrArg readChar? same
      rw [readChar?_escape_cons] at read
      cases ds with
      | nil =>
        rw [readChar?_escape_nil] at read
        cases read
      | cons d ds =>
        rw [readChar?_escape_cons, Option.some.injEq, Prod.mk.injEq] at read
        obtain ⟨rfl, later⟩ := read
        obtain ⟨rfl, rest⟩ := ih later
        exact ⟨rfl, rest⟩
  · rintro ⟨rfl, rfl⟩
    rfl

/-- Quoted text says which text it is and where it ends. -/
theorem quoted_append_inj {s t : String} {x y : List Char} :
    (quoted s).toList ++ x = (quoted t).toList ++ y ↔ s = t ∧ x = y := by
  simp [quoted, escape_append_inj, String.toList_inj]

/-- The digits of a number end at a character that is none. -/
theorem takeWhile_number {c : Char} (ends : c.isDigit = false) (n : Nat) (x : List Char) :
    ((toString n).toList ++ c :: x).takeWhile Char.isDigit = Nat.toDigits 10 n := by
  have digits : ∀ d ∈ (toString n).toList, d.isDigit = true := by
    intro d member
    rw [Nat.toString_eq_repr, Nat.toList_repr] at member
    exact Yaml.digit_of_mem member
  rw [List.takeWhile_append_of_pos digits]
  simp [ends]

/-- A number says which one it is before a character that is no digit. -/
theorem number_append_inj {n m : Nat} {c : Char} {x y : List Char} (ends : c.isDigit = false) :
    (toString n).toList ++ c :: x = (toString m).toList ++ c :: y ↔ n = m ∧ x = y := by
  constructor
  · intro same
    have digits := congrArg (List.takeWhile Char.isDigit) same
    rw [takeWhile_number ends, takeWhile_number ends] at digits
    have value (k : Nat) := Yaml.Plain.digitsFrom_toDigits (by decide : 1 < 10) (by decide) k
    have read := congrArg (digitsFrom 10 0) digits
    rw [value n, value m] at read
    obtain rfl := Option.some.inj read
    exact ⟨rfl, List.tail_eq_of_cons_eq (List.append_cancel_left same)⟩
  · rintro ⟨rfl, rfl⟩
    rfl

/-! Quoted text is one line, and each of its characters shows as itself. -/

/-- No run of concealed characters meets those from the space to the tilde. -/
theorem isConcealed_ascii {c : Char} (plain : 0x20 ≤ c.toNat ∧ c.toNat ≤ 0x7e) : isConcealed c = false := by
  have apart : ∀ run ∈ concealedRanges, run.2 < 0x20 ∨ 0x7e < run.1 := by decide +kernel
  apply List.any_eq_false.2
  intro run member
  have := apart run member
  simp only [Bool.and_eq_true, decide_eq_true_eq]
  omega

theorem isConcealed_digit {base : Nat} {c : Char} (known : (digit? base c).isSome) : isConcealed c = false := by
  obtain ⟨value, held⟩ := Option.isSome_iff_exists.1 known
  have digit := (Option.filter_eq_some_iff.1 held).1
  have runs : ('0' ≤ c ∧ c ≤ '9') ∨ ('A' ≤ c ∧ c ≤ 'F') ∨ ('a' ≤ c ∧ c ≤ 'f') := by
    grind [Yaml.hexDigit?]
  simp only [Char.le_def, UInt32.le_iff_toNat_le, Char.reduceVal, UInt32.reduceToNat] at runs
  apply isConcealed_ascii
  show 0x20 ≤ c.val.toNat ∧ c.val.toNat ≤ 0x7e
  omega

theorem isConcealed_number {n : Nat} {c : Char} (member : c ∈ (toString n).toList) : isConcealed c = false := by
  rw [Nat.toString_eq_repr, Nat.toList_repr] at member
  have value := Yaml.Plain.digitsFrom_toDigits (by decide : 1 < 10) (by decide) n
  exact isConcealed_digit (isSome_of_digitsFrom value c member)

theorem isConcealed_escapeNumber {c d : Char} (member : d ∈ escapeNumber c) : isConcealed d = false := by
  have value := digitsFrom_lowerHex c.toNat
  have fixed : ∀ e ∈ ['\\', 'u', '{', '}'], 0x20 ≤ e.toNat ∧ e.toNat ≤ 0x7e := by simp
  rcases List.mem_append.1 member with member | closing
  · rcases List.mem_append.1 member with opening | digit
    · exact isConcealed_ascii (fixed d (List.mem_append_left ['}'] opening))
    · exact isConcealed_digit (isSome_of_digitsFrom value d digit)
  · exact isConcealed_ascii (fixed d (List.mem_append_right ['\\', 'u', '{'] closing))

theorem isConcealed_escapeChar {c d : Char} (member : d ∈ escapeChar c) : isConcealed d = false := by
  rcases escapeChar_cases c with ⟨letter, named, same⟩ | same | ⟨_, _, shows, same⟩
  · have coded : ∀ e ∈ letterEscapes, 0x20 ≤ e.2.toNat ∧ e.2.toNat ≤ 0x7e := by simp [letterEscapes]
    rw [same, List.mem_cons, List.mem_singleton] at member
    rcases member with rfl | rfl
    · exact isConcealed_ascii (by decide)
    · exact isConcealed_ascii (coded _ named)
  · rw [same] at member
    exact isConcealed_escapeNumber member
  · rw [same, List.mem_singleton] at member
    rw [member]
    exact shows

/-- All characters of quoted text show. -/
theorem isConcealed_quoted {s : String} {c : Char} (member : c ∈ (quoted s).toList) : isConcealed c = false := by
  have mark : isConcealed '"' = false := isConcealed_ascii (by decide)
  simp only [quoted, escape, String.toList_ofList, List.cons_append, List.mem_cons, List.mem_append, List.mem_flatMap,
    List.not_mem_nil, or_false] at member
  rcases member with rfl | ⟨d, _, here⟩ | rfl
  · exact mark
  · exact isConcealed_escapeChar here
  · exact mark

end MachineOperator.Text
