import MachineOperator.Proofs.Text.Utf8
import MachineOperator.Proofs.Timestamp
import MachineOperator.Proofs.Yaml.Numeral

/-!
Numbers in base ten, as texts. Such a text is a number of that value, and no null, no boolean, no instant and no word that
has a letter.
-/
namespace MachineOperator.Yaml

/-- A number as it is written in base ten, without leading zeros. Zero may have a sign too. -/
def Plain.Writes (text : String) (n : Int) : Prop := text = toString n ∨ text = "-0" ∧ n = 0

namespace Plain.Writes
variable {text : String} {n : Int}

theorem chars (writes : Writes text n) : ∀ c ∈ text.toList, c.isDigit = true ∨ c = '-' := by
  rcases writes with rfl | ⟨rfl, rfl⟩
  · intro c member
    rcases toList_toString n with ⟨k, _, same⟩ | ⟨k, _, same⟩ <;> rw [same] at member
    · exact .inl (digit_of_mem member)
    · rcases List.mem_cons.1 member with rfl | digit
      · exact .inr rfl
      · exact .inl (digit_of_mem digit)
  · intro c member
    have parts : "-0".toList = ['-', '0'] := rfl
    rw [parts] at member
    rcases List.mem_cons.1 member with rfl | zero
    · exact .inr rfl
    · rw [List.mem_singleton.1 zero]
      exact .inl rfl

theorem toList_ne_nil (writes : Writes text n) : text.toList ≠ [] := by
  rcases writes with rfl | ⟨rfl, rfl⟩
  · obtain ⟨c, r, parts, _⟩ := plainText_int n
    rw [parts]
    exact List.cons_ne_nil c r
  · decide

theorem integer? (writes : Writes text n) : Plain.integer? text = some n := by
  rcases writes with rfl | ⟨rfl, rfl⟩
  · exact integer?_toString n
  · decide

/-- Words have a letter or another sign, or nothing. -/
def isOther (word : String) : Bool := word.toList.isEmpty || word.toList.any fun c => !(c.isDigit || c == '-')

theorem ne_word (writes : Writes text n) {word : String} (other : isOther word = true) : text ≠ word := by
  rintro rfl
  rcases Bool.or_eq_true_iff.1 other with empty | letter
  · exact writes.toList_ne_nil (List.isEmpty_iff.1 empty)
  · obtain ⟨c, member, apart⟩ := List.any_eq_true.1 letter
    rcases writes.chars c member with digit | rfl
    · simp [digit] at apart
    · simp at apart

theorem isEmpty (writes : Writes text n) : text.isEmpty = false := by
  have some_text : text ≠ "" := writes.ne_word (by decide)
  simp [some_text]

theorem isNull (writes : Writes text n) : Plain.isNull text = false := by
  have others : ∀ word ∈ ["null", "Null", "NULL", "~"], isOther word = true := by decide
  have apart : ∀ word ∈ ["null", "Null", "NULL", "~"], text ≠ word := fun word member => writes.ne_word (others word member)
  simp only [List.forall_mem_cons] at apart
  simp [Plain.isNull, apart]

theorem bool? (writes : Writes text n) : Plain.bool? text = none := by
  have others : ∀ word ∈ ["true", "True", "TRUE", "false", "False", "FALSE"], isOther word = true := by decide
  have apart : ∀ word ∈ ["true", "True", "TRUE", "false", "False", "FALSE"], text ≠ word :=
    fun word member => writes.ne_word (others word member)
  simp only [List.forall_mem_cons] at apart
  simp [Plain.bool?, apart]

theorem resolvePlain (writes : Writes text n) (fits : Width.fits128 n = true) : Yaml.resolvePlain text = .int n := by
  have kept : (some n).filter Width.fits128 = some n := by rw [Option.filter, fits, if_pos rfl]
  rw [Yaml.resolvePlain, writes.isEmpty, writes.isNull, if_neg (by decide), writes.bool?, Plain.number?, writes.integer?,
    kept]
  rfl

/-- No mark stands before a time. -/
theorem parse_ne_ok (writes : Writes text n) (t : Timestamp) : Timestamp.parse text ≠ .ok t := by
  intro read
  obtain ⟨b, member, mark⟩ := Timestamp.exists_isTimeMark read
  rw [toUTF8_toList, List.mem_flatMap] at member
  obtain ⟨c, member, encoded⟩ := member
  have marks : ∀ c : Char, (c.isDigit = true ∨ c = '-') → ∀ b ∈ String.utf8EncodeChar c, Timestamp.isTimeMark b = false := by
    rintro c (digit | rfl)
    · obtain ⟨d, rfl⟩ := digit_eq digit
      revert d
      decide +kernel
    · decide +kernel
  cases mark.symm.trans (marks c (writes.chars c member) b encoded)

end Plain.Writes

end MachineOperator.Yaml
