import MachineOperator.Json.Skip
import MachineOperator.Proofs.Json.Lexical

/-!
Passing over a value. Whatever tree is written at the start of a text, what is left of the text is what follows it, and the
steps that are allowed are enough for any depth.
-/
namespace MachineOperator.Json

/-! Numbers. -/

theorem isDigit_digitByte (d : Fin 10) : isDigit (digitByte d) = true := by
  revert d
  decide

/-- A text that starts with no digit. -/
def NoDigit (rest : List UInt8) : Prop := ∀ b ∈ rest.head?, isDigit b = false

/-- A text in which no number goes on. -/
def EndsNumber (rest : List UInt8) : Prop :=
  ∀ b ∈ rest.head?, isDigit b = false ∧ b ≠ ascii '.' ∧ isExponentMark b = false

section Digits
variable {rest : List UInt8}

theorem EndsNumber.noDigit (ends : EndsNumber rest) : NoDigit rest := fun b member => (ends b member).1

theorem skipDigits_digits (ds : List (Fin 10)) (noDigit : NoDigit rest) : skipDigits (ds.map digitByte ++ rest) = rest := by
  induction ds with
  | nil =>
    cases rest with
    | nil => rfl
    | cons b r => exact List.dropWhile_cons_of_neg (by simp [noDigit b rfl])
  | cons d ds ih => exact (List.dropWhile_cons_of_pos (isDigit_digitByte d)).trans ih

theorem head_isDigit_eq_false (noDigit : NoDigit rest) : (rest.head?.map isDigit).getD false = false := by
  cases rest with
  | nil => rfl
  | cons b r => exact noDigit b rfl

end Digits

namespace Exponent
variable (e : Exponent) {rest : List UInt8}

/-- The byte that an exponent starts with. -/
def mark : UInt8 := if e.capital then ascii 'E' else ascii 'e'

theorem mark_apart : isExponentMark e.mark = true ∧ e.mark ≠ ascii '.' ∧ isDigit e.mark = false := by
  unfold mark
  cases e.capital <;> decide

theorem skipExponent_bytes (ends : EndsNumber rest) : skipExponent (e.bytes ++ rest) = .ok rest := by
  obtain ⟨capital, sign, first, others⟩ := e
  have digits : isDigit (digitByte first) = true := isDigit_digitByte first
  have noSign : isSign (digitByte first) = false := by
    revert first
    decide
  have skipped : skipDigits (others.map digitByte ++ rest) = rest := skipDigits_digits others ends.noDigit
  cases sign with
  | none => simp [skipExponent, bytes, Digits.bytes, noSign, digits, skipped]
  | some sign =>
    have isSign : isSign sign.byte = true := by cases sign <;> decide
    simp [skipExponent, bytes, Digits.bytes, isSign, digits, skipped]

end Exponent

namespace Numeral
variable (n : Numeral) {rest : List UInt8}

/-- What follows the digits after a point. -/
theorem skipExponent_tail (ends : EndsNumber rest) :
    (if ((n.exponentBytes ++ rest).head?.map isExponentMark).getD false then skipExponent (n.exponentBytes ++ rest)
      else .ok (n.exponentBytes ++ rest)) = .ok rest := by
  unfold exponentBytes
  cases n.exponent with
  | some e =>
    have marked : (((e.bytes ++ rest).head?.map isExponentMark).getD false) = true := e.mark_apart.1
    exact (if_pos marked).trans (e.skipExponent_bytes ends)
  | none =>
    cases rest with
    | nil => rfl
    | cons b r => exact if_neg (by simp [(ends b rfl).2.2])

theorem noDigit_exponent (ends : EndsNumber rest) : NoDigit (n.exponentBytes ++ rest) := by
  unfold exponentBytes
  cases n.exponent with
  | none => exact ends.noDigit
  | some e =>
    rintro b member
    obtain rfl := Option.mem_some.1 member
    exact e.mark_apart.2.2

theorem noDigit_fraction (ends : EndsNumber rest) : NoDigit (n.fractionBytes ++ (n.exponentBytes ++ rest)) := by
  unfold fractionBytes
  cases n.fraction with
  | none => exact n.noDigit_exponent ends
  | some ds =>
    rintro b member
    obtain rfl := Option.mem_some.1 member
    decide

theorem exponent_ne_point (ends : EndsNumber rest) : ∀ b ∈ (n.exponentBytes ++ rest).head?, b ≠ ascii '.' := by
  unfold exponentBytes
  cases n.exponent with
  | none => exact fun b member => (ends b member).2.1
  | some e =>
    rintro b member
    obtain rfl := Option.mem_some.1 member
    exact e.mark_apart.2.1

theorem skipFraction_of_ne {text : List UInt8} (noPoint : ∀ b ∈ text.head?, b ≠ ascii '.') :
    skipFraction text = if (text.head?.map isExponentMark).getD false then skipExponent text else .ok text := by
  cases text with
  | nil => rfl
  | cons b r => exact if_neg (noPoint b rfl)

theorem skipFraction_tail (ends : EndsNumber rest) :
    skipFraction (n.fractionBytes ++ (n.exponentBytes ++ rest)) = .ok rest := by
  have tail := n.skipExponent_tail ends
  unfold fractionBytes
  cases n.fraction with
  | some ds =>
    have skipped : skipDigits (ds.bytes ++ (n.exponentBytes ++ rest)) = n.exponentBytes ++ rest :=
      skipDigits_digits (ds.first :: ds.others) (n.noDigit_exponent ends)
    have shorter : (n.exponentBytes ++ rest).length ≠ (ds.bytes ++ (n.exponentBytes ++ rest)).length := by
      simp only [Digits.bytes, List.length_append, List.length_cons]
      omega
    simp only [Option.map_some, Option.getD_some, List.cons_append, skipFraction, if_pos, skipped, if_neg shorter]
    exact tail
  | none => exact (skipFraction_of_ne (n.exponent_ne_point ends)).trans tail

/-- A number is passed over wherever none goes on. -/
theorem skipNumber_magnitude (ends : EndsNumber rest) : skipNumber (n.magnitudeBytes ++ rest) = .ok rest := by
  have tail := n.skipFraction_tail ends
  have noDigit := n.noDigit_fraction ends
  rw [magnitudeBytes, List.append_assoc, List.append_assoc]
  generalize n.fractionBytes ++ (n.exponentBytes ++ rest) = text at tail noDigit ⊢
  cases n.whole with
  | zero =>
    rw [Whole.bytes, List.singleton_append, skipNumber, if_pos (by decide), if_neg (by simp [head_isDigit_eq_false noDigit])]
    exact tail
  | positive first others =>
    have notZero : digitByte first.succ ≠ ascii '0' := by
      revert first
      decide
    rw [Whole.bytes, List.cons_append, skipNumber, if_neg notZero, if_pos (isDigit_digitByte first.succ),
      skipDigits_digits others noDigit]
    exact tail

end Numeral

/-! What stands between the parts of a collection. -/

theorem endsNumber_cons {b : UInt8} (rest : List UInt8)
    (ends : isDigit b = false ∧ b ≠ ascii '.' ∧ isExponentMark b = false) : EndsNumber (b :: rest) := by
  rintro c member
  obtain rfl := Option.mem_some.1 member
  exact ends

namespace Blanks
variable {text rest : List UInt8}

theorem endsNumber {b : UInt8} (blanks : Blanks text (b :: rest))
    (ends : isDigit b = false ∧ b ≠ ascii '.' ∧ isExponentMark b = false) : EndsNumber text := by
  cases blanks with
  | none => exact endsNumber_cons rest ends
  | more blank others =>
    refine endsNumber_cons _ ?_
    simp only [List.mem_cons, List.not_mem_nil, or_false] at blank
    rcases blank with rfl | rfl | rfl | rfl <;> decide

end Blanks

theorem Literal.length_word (l : Literal) : 0 < l.word.length := by
  rcases l with _ | _ | _ <;> decide

theorem Numeral.length_bytes (n : Numeral) : 0 < n.bytes.length := by
  have whole : 0 < n.whole.bytes.length := by cases n.whole <;> exact Nat.succ_pos _
  unfold Numeral.bytes Numeral.magnitudeBytes
  split
  · exact Nat.succ_pos _
  · rw [List.length_append]
    omega

namespace Tree
variable {t : Tree} {text rest : List UInt8}

theorem endsNumber_of_itemsSpan {items : List Tree} (others : ItemsSpan false items text rest) : EndsNumber text := by
  cases items with
  | nil => exact others.endsNumber (by decide)
  | cons t items =>
    obtain ⟨part, _, _, blanks, _⟩ := others
    exact Blanks.endsNumber blanks (by decide)

theorem endsNumber_of_membersSpan {members : List (Spelling × Tree)} (others : MembersSpan false members text rest) :
    EndsNumber text := by
  match members with
  | [] => exact others.endsNumber (by decide)
  | (key, t) :: members =>
    obtain ⟨part, _, _, _, _, blanks, _⟩ := others
    exact Blanks.endsNumber blanks (by decide)

/-! Every part of a text takes some of it. -/

theorem length_separated (first : Bool) (part : List UInt8) : part.length ≤ (separated first part).length := by
  cases first with
  | true => exact Nat.le_refl _
  | false => exact Nat.le_succ _

mutual

theorem length_lt_of_spans (t : Tree) {text rest : List UInt8} (written : t.Spans text rest) :
    rest.length < text.length := by
  match t with
  | literal l =>
    cases written
    have := l.length_word
    rw [List.length_append, List.length_map]
    omega
  | number n =>
    cases written
    have := n.length_bytes
    rw [List.length_append]
    omega
  | string ps =>
    cases written
    simp only [Spelling.quoted, List.length_cons, List.length_append]
    omega
  | list items =>
    obtain ⟨inside, rfl, others⟩ := written
    have := length_of_itemsSpan true items others
    rw [List.length_cons]
    omega
  | object members =>
    obtain ⟨inside, rfl, others⟩ := written
    have := length_of_membersSpan true members others
    rw [List.length_cons]
    omega

theorem length_of_itemsSpan (first : Bool) (items : List Tree) {text rest : List UInt8}
    (written : ItemsSpan first items text rest) : items.length + rest.length < text.length := by
  match items with
  | [] =>
    have := Blanks.length_le written
    simp only [List.length_cons, List.length_nil] at this ⊢
    omega
  | t :: items =>
    obtain ⟨part, item, after, before, blanks, here, others⟩ := written
    have := before.length_le
    have := length_separated first part
    have := blanks.length_le
    have := length_lt_of_spans t here
    have := length_of_itemsSpan false items others
    rw [List.length_cons]
    omega

theorem length_of_membersSpan (first : Bool) (members : List (Spelling × Tree)) {text rest : List UInt8}
    (written : MembersSpan first members text rest) : members.length + rest.length < text.length := by
  match members with
  | [] =>
    have := Blanks.length_le written
    simp only [List.length_cons, List.length_nil] at this ⊢
    omega
  | (key, t) :: members =>
    obtain ⟨part, colon, value, item, after, before, named, marked, blanks, here, others⟩ := written
    have := before.length_le
    have := length_separated first part
    have := named.length_le
    have := marked.length_le
    have := blanks.length_le
    have := length_lt_of_spans t here
    have := length_of_membersSpan false members others
    simp only [Spelling.quoted, List.length_append, List.length_cons] at *
    omega

end

end Tree

/-! Values. -/

theorem expectWord_word (word : List Char) (rest : List UInt8) : expectWord word (word.map ascii ++ rest) = .ok rest := by
  induction word with
  | nil => rfl
  | cons c word ih => exact (if_pos rfl).trans ih

/-- A digit is no blank and no other byte that a reader looks for. -/
theorem digitByte_apart (d : Fin 10) : isBlank (digitByte d) = false ∧
    ['n', 't', 'f', '-', '"', '[', ']', '\x7b'].all fun c => digitByte d != ascii c := by
  revert d
  decide

theorem digitByte_ne (d : Fin 10) {c : Char} (mark : c ∈ ['n', 't', 'f', '-', '"', '[', ']', '\x7b']) :
    digitByte d ≠ ascii c :=
  bne_iff_ne.1 (List.all_eq_true.1 (digitByte_apart d).2 c mark)

theorem Tree.opening_apart (t : Tree) : isBlank t.opening = false ∧ t.opening ≠ ascii ']' := by
  have digit (d : Fin 10) : isBlank (digitByte d) = false ∧ digitByte d ≠ ascii ']' :=
    ⟨(digitByte_apart d).1, digitByte_ne d (by decide)⟩
  unfold Tree.opening
  split <;> first | decide | exact digit _

theorem Numeral.exists_magnitude (n : Numeral) : ∃ d others, n.magnitudeBytes = digitByte d :: others := by
  unfold Numeral.magnitudeBytes
  cases n.whole with
  | zero => exact ⟨0, _, rfl⟩
  | positive first others => exact ⟨first.succ, _, rfl⟩

theorem skipValue_number (n : Numeral) {fuel : Nat} {text rest : List UInt8} (blanks : Blanks text (n.bytes ++ rest))
    (ends : EndsNumber rest) : skipValue (fuel + 1) text = .ok rest := by
  have skipped := n.skipNumber_magnitude ends
  unfold Numeral.bytes at blanks
  split at blanks
  · rw [skipValue, blanks.skipBlanks (by decide)]
    exact skipped
  · obtain ⟨d, others, digits⟩ := n.exists_magnitude
    have noNull : digitByte d ≠ ascii 'n' := digitByte_ne d (by decide)
    have noTrue : digitByte d ≠ ascii 't' := digitByte_ne d (by decide)
    have noFalse : digitByte d ≠ ascii 'f' := digitByte_ne d (by decide)
    have noMinus : digitByte d ≠ ascii '-' := digitByte_ne d (by decide)
    rw [digits, List.cons_append] at blanks skipped
    rw [skipValue, blanks.skipBlanks (digitByte_apart d).1]
    simp only [if_neg noNull, if_neg noTrue, if_neg noFalse, if_neg noMinus, if_pos (isDigit_digitByte d)]
    exact skipped

/-- A key and the colon after it. -/
theorem skipKey_of_blanks {key : Spelling} {text colon value : List UInt8} (named : Blanks text (key.quoted colon))
    (marked : Blanks colon (ascii ':' :: value)) : skipKey text = .ok value := by
  rw [skipKey, named.skipBlanks (by decide)]
  simp only [ne_eq, not_true_eq_false, if_false, skipString_spelling, bind_ok, marked.skipBlanks (by decide), if_true]
  rfl

namespace Tree

mutual

/-- Two steps for each byte are enough, one for a value and one for its place in a collection. -/
theorem skipValue_of_spans (t : Tree) {fuel : Nat} {text item rest : List UInt8} (blanks : Blanks text item)
    (written : t.Spans item rest) (ends : EndsNumber rest) (enough : 2 * text.length ≤ fuel) :
    skipValue fuel text = .ok rest := by
  have := blanks.length_le
  have := length_lt_of_spans t written
  obtain ⟨fuel, rfl⟩ := Nat.exists_eq_add_one_of_ne_zero (n := fuel) (by omega)
  match t with
  | literal l =>
    cases written
    rcases l with _ | _ | _ <;> rw [skipValue, blanks.skipBlanks (by decide)] <;> exact expectWord_word _ rest
  | number n =>
    cases written
    exact skipValue_number n blanks ends
  | string ps =>
    cases written
    rw [skipValue, blanks.skipBlanks (by decide)]
    exact skipString_spelling ps rest
  | list [] =>
    obtain ⟨inside, rfl, closing⟩ := written
    have closed := Blanks.skipBlanks closing (by decide)
    rw [skipValue, blanks.skipBlanks (by decide)]
    simp only [closed]
    rfl
  | list (u :: items) =>
    obtain ⟨inside, rfl, part, item, after, before, others⟩ := written
    obtain ⟨blanks', here, others⟩ := others
    have toItem := before.trans blanks'
    obtain ⟨more, rfl⟩ := opening_of_spans here
    have opened := toItem.skipBlanks u.opening_apart.1
    have shorter := toItem.length_le
    have skipped := skipItems_of_span (u :: items) (List.cons_ne_nil _ _) ⟨_, _, after, .none, .none, here, others⟩
      (show 2 * (u.opening :: more).length + 1 ≤ fuel by simp only [List.length_cons] at *; omega)
    rw [skipValue, blanks.skipBlanks (by decide)]
    simp only [opened, if_neg u.opening_apart.2]
    exact skipped
  | object [] =>
    obtain ⟨inside, rfl, closing⟩ := written
    have closed := Blanks.skipBlanks closing (by decide)
    rw [skipValue, blanks.skipBlanks (by decide)]
    simp only [closed]
    rfl
  | object ((key, u) :: members) =>
    obtain ⟨inside, rfl, part, colon, value, item, after, before, named, others⟩ := written
    have toKey := before.trans named
    have opened := toKey.skipBlanks (by decide)
    have shorter := toKey.length_le
    have skipped := skipMembers_of_span ((key, u) :: members) (List.cons_ne_nil _ _)
      ⟨_, colon, value, item, after, .none, .none, others⟩
      (show 2 * (key.quoted colon).length + 1 ≤ fuel by simp only [List.length_cons] at *; omega)
    rw [skipValue, blanks.skipBlanks (by decide)]
    simp only [opened]
    exact skipped

theorem skipItems_of_span (items : List Tree) {fuel : Nat} {text rest : List UInt8} (some : items ≠ [])
    (written : ItemsSpan true items text rest) (enough : 2 * text.length + 1 ≤ fuel) : skipItems fuel text = .ok rest := by
  match items with
  | [] => exact absurd rfl some
  | t :: items =>
    obtain ⟨fuel, rfl⟩ := Nat.exists_eq_add_one_of_ne_zero (n := fuel) (by omega)
    obtain ⟨part, item, after, before, blanks, here, others⟩ := written
    have toItem := before.trans blanks
    rw [skipItems, skipValue_of_spans t toItem here (endsNumber_of_itemsSpan others) (by omega)]
    match items with
    | [] =>
      have closed := Blanks.skipBlanks others (by decide)
      simp only [closed]
      rfl
    | u :: items =>
      obtain ⟨next, item', after', separator, others⟩ := others
      have comma : skipBlanks after = ascii ',' :: next := Blanks.skipBlanks separator (by decide)
      have toComma : (ascii ',' :: next).length ≤ after.length := separator.length_le
      have := toItem.length_le
      have := length_lt_of_spans t here
      simp only [comma]
      exact skipItems_of_span (u :: items) (List.cons_ne_nil _ _) ⟨next, item', after', .none, others⟩
        (by rw [List.length_cons] at toComma; omega)

theorem skipMembers_of_span (members : List (Spelling × Tree)) {fuel : Nat} {text rest : List UInt8} (some : members ≠ [])
    (written : MembersSpan true members text rest) (enough : 2 * text.length + 1 ≤ fuel) :
    skipMembers fuel text = .ok rest := by
  match members with
  | [] => exact absurd rfl some
  | (key, t) :: members =>
    obtain ⟨fuel, rfl⟩ := Nat.exists_eq_add_one_of_ne_zero (n := fuel) (by omega)
    obtain ⟨part, colon, value, item, after, before, named, marked, blanks, here, others⟩ := written
    have toKey := before.trans named
    have := toKey.length_le
    have toColon : (ascii ':' :: value).length ≤ colon.length := marked.length_le
    have := blanks.length_le
    simp only [Spelling.quoted, List.length_append, List.length_cons] at *
    rw [skipMembers, skipKey_of_blanks toKey marked]
    simp only [skipValue_of_spans t blanks here (endsNumber_of_membersSpan others)
      (show 2 * value.length ≤ fuel by omega)]
    match members with
    | [] =>
      have closed := Blanks.skipBlanks others (by decide)
      simp only [closed]
      rfl
    | (key', u) :: members =>
      obtain ⟨next, colon', value', item', after', separator, others⟩ := others
      have comma : skipBlanks after = ascii ',' :: next := Blanks.skipBlanks separator (by decide)
      have toComma : (ascii ',' :: next).length ≤ after.length := separator.length_le
      have := length_lt_of_spans t here
      simp only [comma]
      exact skipMembers_of_span ((key', u) :: members) (List.cons_ne_nil _ _)
        ⟨next, colon', value', item', after', .none, others⟩ (by rw [List.length_cons] at toComma; omega)

end

/-- A value is passed over whatever it is. -/
theorem skip_of_spans {t : Tree} {text item rest : List UInt8} (blanks : Blanks text item) (written : t.Spans item rest)
    (ends : EndsNumber rest) : skip text = .ok rest :=
  skipValue_of_spans t blanks written ends (by omega)

end Tree
end MachineOperator.Json
