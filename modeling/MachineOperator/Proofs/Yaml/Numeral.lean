import MachineOperator.Proofs.Yaml.PlainText

/-!
A number in base ten is written plainly and stands for itself. Its digits have no leading zero, which would make it
text.
-/
namespace MachineOperator.Yaml

/-- A digit is the character of its value. -/
theorem digit_eq {c : Char} (digit : c.isDigit = true) : ∃ d : Fin 10, c = Nat.digitChar d := by
  simp only [Char.isDigit, Bool.and_eq_true, decide_eq_true_eq] at digit
  have low : 48 ≤ c.toNat := digit.1
  have high : c.toNat ≤ 57 := digit.2
  refine ⟨⟨c.toNat - 48, by omega⟩, ?_⟩
  have value := Nat.toNat_digitChar_of_lt_ten (n := c.toNat - 48) (by omega)
  apply Char.ext
  apply UInt32.toNat_inj.1
  exact (by omega : c.toNat = 48 + (c.toNat - 48)).trans value.symm

/-- A digit is text wherever it stands. -/
structure IsText (c : Char) : Prop where
  printable : isPrintable c = true
  unbroken : isAnyBreak c = false
  no_space : isSpace c = false
  no_indicator : Scanner.isIndicator c = false
  no_sign : "?:-+.#".toList.contains c = false

theorem isText_of_digit {c : Char} (digit : c.isDigit = true) : IsText c := by
  obtain ⟨d, rfl⟩ := digit_eq digit
  have each : ∀ d : Fin 10, isPrintable (Nat.digitChar d) = true ∧ isAnyBreak (Nat.digitChar d) = false ∧
      isSpace (Nat.digitChar d) = false ∧ Scanner.isIndicator (Nat.digitChar d) = false ∧
      "?:-+.#".toList.contains (Nat.digitChar d) = false := by decide
  obtain ⟨h1, h2, h3, h4, h5⟩ := each d
  exact ⟨h1, h2, h3, h4, h5⟩

theorem digit_of_mem {n : Nat} {c : Char} (member : c ∈ Nat.toDigits 10 n) : c.isDigit = true :=
  Nat.isDigit_of_mem_toDigits (by decide) (by decide) member

/-- Only zero has a zero as its first digit. -/
theorem toDigits_cons (n : Nat) : ∃ c r, Nat.toDigits 10 n = c :: r ∧ (c = '0' → n = 0) := by
  induction n using Nat.strongRecOn with
  | ind n ih =>
    by_cases small : n < 10
    · exact ⟨_, [], Nat.toDigits_of_lt_base small, fun zero => by simpa using zero⟩
    · obtain ⟨c, r, same, leading⟩ := ih (n / 10) (by omega)
      rw [Nat.toDigits_of_base_le (by decide) (by omega), same]
      exact ⟨c, r ++ [Nat.digitChar (n % 10)], rfl, fun zero => absurd (leading zero) (by omega)⟩

theorem holdsIndicator_of_isText {ds : List Char} (text : ∀ d ∈ ds, IsText d) (before : Char) :
    holdsIndicator before ds = false := by
  induction ds generalizing before with
  | nil => rfl
  | cons d ds ih =>
    have sign := (text d (by simp)).no_sign
    simp at sign
    simp [holdsIndicator, sign, ih fun e member => text e (by simp [member])]

/-- A numeral may have a sign. -/
theorem plainText_numeral {c : Char} {r : List Char} (first : c.isDigit = true ∨ c = '-' ∧ r ≠ [])
    (digits : ∀ d ∈ r, d.isDigit = true) : PlainText c r := by
  have text : ∀ d ∈ r, IsText d := fun d member => isText_of_digit (digits d member)
  have head : isPrintable c = true ∧ isAnyBreak c = false ∧ isSpace c = false ∧ Scanner.isIndicator c = false := by
    rcases first with digit | ⟨rfl, _⟩
    · have text := isText_of_digit digit
      exact ⟨text.printable, text.unbroken, text.no_space, text.no_indicator⟩
    · decide
  obtain ⟨printable, unbroken, no_space, no_indicator⟩ := head
  refine ⟨?_, no_space, ?_, ?_, ?_, ?_⟩
  · intro d member
    rcases List.mem_cons.1 member with rfl | member
    · exact ⟨printable, unbroken⟩
    · exact ⟨(text d member).printable, (text d member).unbroken⟩
  · intro d member
    rcases List.mem_cons.1 (List.mem_of_getLast? member) with rfl | member
    · exact no_space
    · exact (text d member).no_space
  · -- Three signs in a row would be two after the first character.
    rcases r with _ | ⟨d, r⟩
    · rcases first with digit | ⟨rfl, some_digits⟩
      · simp [startsTriple, List.isPrefixOf]
      · exact absurd rfl some_digits
    · have sign := (text d (by simp)).no_sign
      simp at sign
      simp [startsTriple, List.isPrefixOf, Ne.symm sign.2.2.1, Ne.symm sign.2.2.2.2.1]
  · have apart : "#,[]\x7b\x7d&*!|>'\"%@`".toList.contains c = false := by
      simp only [Scanner.isIndicator, List.contains_eq_mem, decide_eq_false_iff_not] at no_indicator
      simp at no_indicator
      simp [no_indicator]
    have attached : ((c == '?' || c == ':' || c == '-') && isSetOff r) = false := by
      rcases first with digit | ⟨rfl, some_digits⟩
      · have sign := (isText_of_digit digit).no_sign
        simp at sign
        simp [sign]
      · rcases r with _ | ⟨d, r⟩
        · exact absurd rfl some_digits
        · have here := text d (by simp)
          have no_end := (isPrintable_ne here.printable).2.1
          have no_tab := (isPrintable_ne here.printable).1
          have no_space := here.no_space
          simp only [isSpace] at no_space
          simp [isSetOff, isBlank, here.unbroken, no_end, no_tab, no_space]
    simp only [startsOther, apart, attached, Bool.or_false]
  · exact holdsIndicator_of_isText text c

/-- A whole number is written as its digits, with a sign before them if it is negative. -/
theorem toList_toString (n : Int) : (∃ k : Nat, n = k ∧ (toString n).toList = Nat.toDigits 10 k) ∨
    ∃ k : Nat, n = -k ∧ (toString n).toList = '-' :: Nat.toDigits 10 k := by
  rw [Int.toString_eq_repr, Int.repr_eq_if]
  split
  · next positive => exact .inl ⟨n.toNat, by omega, Nat.toList_repr⟩
  · next negative =>
    refine .inr ⟨(-n).toNat, by omega, ?_⟩
    rw [String.toList_append, Nat.toList_repr]
    rfl

theorem plainText_int (n : Int) :
    ∃ c r, (toString n).toList = c :: r ∧ PlainText c r ∧ (c.isDigit = true ∨ c = '-') := by
  rcases toList_toString n with ⟨k, _, same⟩ | ⟨k, _, same⟩
  · obtain ⟨c, r, parts, _⟩ := toDigits_cons k
    have digits : ∀ d ∈ c :: r, d.isDigit = true := fun d member => digit_of_mem (parts ▸ member)
    have first := digits c (by simp)
    exact ⟨c, r, same.trans parts, plainText_numeral (.inl first)
      fun d member => digits d (by simp [member]), .inl first⟩
  · exact ⟨'-', _, same, plainText_numeral (.inr ⟨rfl, Nat.toDigits_ne_nil⟩) fun d member => digit_of_mem member,
      .inr rfl⟩

namespace Plain

theorem digitsFrom_append (base value : Nat) (cs : List Char) (c : Char) : digitsFrom base value (cs ++ [c]) =
    (digitsFrom base value cs).bind fun n => (digit? base c).map (n * base + ·) := by
  induction cs generalizing value with
  | nil => cases h : digit? base c <;> simp [digitsFrom, h]
  | cons d cs ih => cases h : digit? base d <;> simp [digitsFrom, h, ih]

/-- The digits of a number in a base give the number. -/
theorem digitsFrom_toDigits {base : Nat} (several : 1 < base) (known : base ≤ 16) (n : Nat) :
    digitsFrom base 0 (Nat.toDigits base n) = some n := by
  have value : ∀ d < base, digit? base (Nat.digitChar d) = some d := by
    intro d small
    have each : ∀ d : Fin 16, hexDigit? (Nat.digitChar d) = some d.val := by decide
    have known_digit : d < 16 := by omega
    simp [digit?, each ⟨d, known_digit⟩, small]
  induction n using Nat.strongRecOn with
  | ind n ih =>
    by_cases small : n < base
    · rw [Nat.toDigits_of_lt_base small]
      simp [digitsFrom, value n small]
    · have shorter : n / base < n := Nat.div_lt_self (by omega) several
      have last : n % base < base := Nat.mod_lt n (by omega)
      rw [Nat.toDigits_of_base_le several (by omega), digitsFrom_append, ih (n / base) shorter]
      simp [value (n % base) last, Nat.div_add_mod']

/-- The digits of a number are its magnitude: no base is marked and no zero leads. -/
theorem magnitude?_toDigits (n : Nat) : magnitude? (Nat.toDigits 10 n) = some n := by
  by_cases zero : n = 0
  · subst zero
    decide
  obtain ⟨c, r, parts, leading⟩ := toDigits_cons n
  have no_zero : c ≠ '0' := fun same => zero (leading same)
  have unmarked : marked? (c :: r) = none := by
    unfold marked?
    split <;> simp_all
  have no_lead : hasLeadingZero (c :: r) = false := by
    unfold hasLeadingZero
    split <;> simp_all
  have value := digitsFrom_toDigits (by decide : 1 < 10) (by decide) n
  rw [parts] at value ⊢
  simp [magnitude?, unmarked, no_lead, digits?, value]

theorem integer?_toString (n : Int) : integer? (toString n) = some n := by
  unfold integer?
  rcases toList_toString n with ⟨k, rfl, same⟩ | ⟨k, rfl, same⟩
  · have value := magnitude?_toDigits k
    obtain ⟨c, r, parts, _⟩ := toDigits_cons k
    have sign := (isText_of_digit (digit_of_mem (parts ▸ List.mem_cons_self) : c.isDigit = true)).no_sign
    simp at sign
    rw [parts] at value same
    rw [same]
    split
    · next r' head => exact absurd (List.cons.inj head).1 sign.2.2.1
    · next r' head => exact absurd (List.cons.inj head).1 sign.2.2.2.1
    · simp [value]
  · rw [same]
    simp only [magnitude?_toDigits]
    rfl

end Plain

/-- A whole number of up to 128 bits stands for itself. -/
theorem resolvePlain_int (n : Int) (fits : Width.fits128 n = true) : resolvePlain (toString n) = .int n := by
  obtain ⟨c, r, parts, _, first⟩ := plainText_int n
  have no_word : ∀ w : String, (w.toList.head?.all fun c => !(c.isDigit || c == '-')) = true → toString n ≠ w := by
    rintro w apart rfl
    rw [parts] at apart
    rcases first with digit | rfl
    · simp [digit] at apart
    · simp at apart
  have number := Plain.integer?_toString n
  generalize toString n = s at *
  have no_null : Plain.isNull s = false := by
    simp [Plain.isNull, no_word "null" (by decide), no_word "Null" (by decide), no_word "NULL" (by decide),
      no_word "~" (by decide)]
  have no_bool : Plain.bool? s = none := by
    simp [Plain.bool?, no_word "true" (by decide), no_word "True" (by decide), no_word "TRUE" (by decide),
      no_word "false" (by decide), no_word "False" (by decide), no_word "FALSE" (by decide)]
  have some_text : s ≠ "" := no_word "" (by decide)
  have kept : (some n).filter Width.fits128 = some n := by rw [Option.filter, fits, if_pos rfl]
  simp [resolvePlain, some_text, no_null, no_bool, Plain.number?, number, kept]

end MachineOperator.Yaml
