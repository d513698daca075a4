import MachineOperator.Proofs.Json.Tree
import MachineOperator.Proofs.Result
import MachineOperator.Proofs.Text.Utf8

/-!
Blanks and strings, as readers come to them. A string is read as what its spelling stands for, and passed over whatever it
is spelled with.
-/
namespace MachineOperator.Json

/-! Blanks. -/

theorem isBlank_of_mem {b : UInt8} (blank : b ∈ [0x20, 0x09, 0x0a, 0x0d]) : isBlank b = true := by
  simp only [List.mem_cons, List.not_mem_nil, or_false] at blank
  rcases blank with rfl | rfl | rfl | rfl <;> rfl

theorem skipBlanks_cons {b : UInt8} (text : List UInt8) (other : isBlank b = false) : skipBlanks (b :: text) = b :: text :=
  List.dropWhile_cons_of_neg (by simp [other])

namespace Blanks
variable {text part rest : List UInt8}

theorem trans (before : Blanks text part) (after : Blanks part rest) : Blanks text rest := by
  induction before with
  | none => exact after
  | more blank _ ih => exact .more blank (ih after)

theorem length_le (blanks : Blanks text rest) : rest.length ≤ text.length := by
  induction blanks with
  | none => exact Nat.le_refl _
  | more _ _ ih => exact Nat.le_succ_of_le ih

theorem skipBlanks_eq (blanks : Blanks text rest) : skipBlanks text = skipBlanks rest := by
  induction blanks with
  | none => rfl
  | more blank _ ih => exact (List.dropWhile_cons_of_pos (isBlank_of_mem blank)).trans ih

theorem skipBlanks {b : UInt8} (blanks : Blanks text (b :: rest)) (other : isBlank b = false) :
    skipBlanks text = b :: rest := blanks.skipBlanks_eq.trans (skipBlanks_cons rest other)

end Blanks

/-! Bytes of pieces. -/

/-- A byte that a string holds as it is. -/
def IsOrdinary (b : UInt8) : Prop := b ≠ ascii '"' ∧ b ≠ ascii '\\' ∧ ¬b < 32

theorem isOrdinary_of_le {b : UInt8} (great : 128 ≤ b.toNat) : IsOrdinary b := by
  refine ⟨?_, ?_, ?_⟩
  · rintro rfl
    exact absurd great (by decide)
  · rintro rfl
    exact absurd great (by decide)
  · intro small
    have small : b.toNat < 32 := small
    omega

theorem isOrdinary_of_plain {c : Char} (allowed : 0x20 ≤ c.toNat ∧ c ≠ '"' ∧ c ≠ '\\') :
    ∀ b ∈ String.utf8EncodeChar c, IsOrdinary b := by
  obtain ⟨noControl, noQuote, noBackslash⟩ := allowed
  by_cases small : c.val.toNat ≤ 127
  · have value : (ascii c).toNat = c.toNat := Nat.mod_eq_of_lt (Nat.lt_of_le_of_lt small (by decide))
    have same {d : Char} (inside : d.toNat < 256) (spelled : ascii c = ascii d) : c = d := by
      have values := congrArg UInt8.toNat spelled
      rw [value] at values
      exact Char.toNat_inj.1 (values.trans (Nat.mod_eq_of_lt inside))
    have spelled : String.utf8EncodeChar c = [ascii c] := Utf8.utf8EncodeChar_small small
    rw [spelled]
    intro b member
    obtain rfl := List.mem_singleton.1 member
    refine ⟨fun quote => noQuote (same (by decide) quote), fun backslash => noBackslash (same (by decide) backslash), ?_⟩
    rw [UInt8.lt_iff_toNat_lt, value]
    exact Nat.not_lt.2 noControl
  · exact fun b member => isOrdinary_of_le (Utf8.utf8EncodeChar_great small b member)

theorem escapeLetter?_byte (l : EscapeLetter) : escapeLetter? l.byte = some l.char := by
  cases l <;> rfl

theorem hexValue?_byte (d : HexDigit) : hexValue? d.byte = some d.value.val := by
  obtain ⟨value, capital⟩ := d
  revert value capital
  decide +kernel

namespace CodeUnit

theorem readHex_bytes (u : CodeUnit) (rest : List UInt8) : readHex (u.bytes ++ rest) = .ok (u.value, rest) := by
  simp only [bytes, List.cons_append, List.nil_append, readHex, hexValue?_byte]
  rfl

theorem isHighSurrogate_value (u : CodeUnit) : isHighSurrogate u.value = u.isHigh := by
  rw [Bool.eq_iff_iff]
  simp only [isHighSurrogate, isHigh, Bool.and_eq_true, decide_eq_true_eq, beq_iff_eq]
  omega

theorem isLowSurrogate_value (u : CodeUnit) : isLowSurrogate u.value = u.isLow := by
  rw [Bool.eq_iff_iff]
  simp only [isLowSurrogate, isLow, Bool.and_eq_true, decide_eq_true_eq, beq_iff_eq]
  omega

theorem pair_eq {u v : CodeUnit} (high : u.isHigh = true) (low : v.isLow = true) :
    u.pair v = Char.ofNat (0x10000 + (u.value - 0xd800) * 0x400 + (v.value - 0xdc00)) := by
  rw [← isHighSurrogate_value] at high
  rw [← isLowSurrogate_value] at low
  simp only [isHighSurrogate, isLowSurrogate, Bool.and_eq_true, decide_eq_true_eq] at high low
  refine congrArg Char.ofNat ?_
  omega

/-! What is read after the mark of a unit. -/

variable {u v : CodeUnit} {rest : List UInt8}

theorem readUnicode_low (low : u.isLow = true) : (readUnicode (u.bytes ++ rest)).toOption = none := by
  rw [readUnicode, readHex_bytes, bind_ok]
  simp only [isLowSurrogate_value, low]
  rfl

theorem readUnicode_single (notLow : ¬u.isLow = true) (notHigh : ¬u.isHigh = true) :
    readUnicode (u.bytes ++ rest) = .ok (Char.ofNat u.value, 4) := by
  rw [readUnicode, readHex_bytes, bind_ok]
  simp only [isLowSurrogate_value, if_neg notLow, isHighSurrogate_value, eq_false_of_ne_true notHigh]
  rfl

theorem readUnicode_high (high : u.isHigh = true) :
    readUnicode (u.bytes ++ rest) = (do
      let r ← expectInPair (ascii '\\') rest
      let r ← expectInPair (ascii 'u') r
      let (m, r) ← readHex r
      if isLowSurrogate m then return (Char.ofNat (0x10000 + (u.value - 0xd800) * 0x400 + (m - 0xdc00)), 10)
      else fail .loneSurrogate r) := by
  rw [readUnicode, readHex_bytes, bind_ok]
  simp only [isLowSurrogate_value, if_neg (not_isLow_of_isHigh high), isHighSurrogate_value, high]
  rfl

theorem readUnicode_pair (high : u.isHigh = true) :
    readUnicode (u.bytes ++ ((Piece.unit v).bytes ++ rest)) =
      if v.isLow then .ok (u.pair v, 10) else fail .loneSurrogate rest := by
  have past : ∀ b r, expectInPair b (b :: r) = .ok r := fun b r => if_pos rfl
  rw [readUnicode_high high, Piece.bytes, List.cons_append, past, bind_ok, List.cons_append, past, bind_ok,
    readHex_bytes, bind_ok]
  simp only [isLowSurrogate_value]
  cases low : v.isLow with
  | false => rw [if_neg Bool.false_ne_true, if_neg Bool.false_ne_true]
  | true => rw [if_pos rfl, if_pos rfl, pair_eq high low]; rfl

/-- Another piece after the first half of a pair is none of its second half. -/
theorem readUnicode_alone {ps : Spelling} (high : u.isHigh = true) (alone : ∀ v qs, ps ≠ .unit v :: qs) :
    (readUnicode (u.bytes ++ (ps.bytes ++ ascii '"' :: rest))).toOption = none := by
  rw [readUnicode_high high]
  match ps with
  | [] => rfl
  | .unit v :: qs => exact absurd rfl (alone v qs)
  | .letter l :: qs => cases l <;> rfl
  | .plain c allowed :: qs =>
    obtain ⟨b, bs, spelled⟩ := List.exists_cons_of_ne_nil (String.utf8EncodeChar_ne_nil (c := c))
    have ordinary := isOrdinary_of_plain allowed b (spelled ▸ List.mem_cons_self)
    have other : b ≠ ascii '\\' := ordinary.2.1
    rw [Spelling.bytes, List.flatMap_cons, Piece.bytes, spelled, List.cons_append, List.cons_append]
    simp only [expectInPair, if_neg other]
    rfl

end CodeUnit

/-! What is read after a backslash. -/

theorem readEscape_letter (l : EscapeLetter) (rest : List UInt8) : readEscape (l.byte :: rest) = .ok (l.char, 1) := by
  rw [readEscape, escapeLetter?_byte]

theorem readEscape_unit (rest : List UInt8) :
    readEscape (ascii 'u' :: rest) = (readUnicode rest).map fun (c, size) => (c, size + 1) := rfl

section Read
variable {read bs rest : List UInt8}

/-! Texts. -/

theorem readStringFrom_passed : readStringFrom bs.length read (bs ++ rest) = readStringFrom 0 read rest := by
  induction bs with
  | nil => rfl
  | cons b bs ih => exact ih

theorem readStringFrom_ordinary (ordinary : ∀ b ∈ bs, IsOrdinary b) :
    readStringFrom 0 read (bs ++ rest) = readStringFrom 0 (bs.reverse ++ read) rest := by
  induction bs generalizing read with
  | nil => rfl
  | cons b bs ih =>
    obtain ⟨noQuote, noBackslash, noControl⟩ := ordinary b List.mem_cons_self
    rw [List.cons_append, readStringFrom, if_neg noQuote, if_neg noBackslash, if_neg noControl,
      ih fun b member => ordinary b (List.mem_cons_of_mem _ member), List.reverse_cons, List.append_assoc]
    rfl

theorem readStringFrom_escape {c : Char} (escaped : readEscape (bs ++ rest) = .ok (c, bs.length)) :
    readStringFrom 0 read (ascii '\\' :: (bs ++ rest)) =
      readStringFrom 0 ((String.utf8EncodeChar c).reverse ++ read) rest := by
  rw [readStringFrom, if_neg (by decide), if_pos rfl]
  simp only [escaped]
  exact readStringFrom_passed

theorem readStringFrom_broken (broken : (readEscape rest).toOption = none) :
    (readStringFrom 0 read (ascii '\\' :: rest)).toOption = none := by
  rw [readStringFrom, if_neg (by decide), if_pos rfl]
  cases escaped : readEscape rest with
  | error f => rfl
  | ok found =>
    rw [escaped] at broken
    cases broken

theorem readStringFrom_unicode {c : Char} (escaped : readUnicode (bs ++ rest) = .ok (c, bs.length)) :
    readStringFrom 0 read (ascii '\\' :: ascii 'u' :: (bs ++ rest)) =
      readStringFrom 0 ((String.utf8EncodeChar c).reverse ++ read) rest := by
  have marked : readEscape ((ascii 'u' :: bs) ++ rest) = .ok (c, (ascii 'u' :: bs).length) := by
    rw [List.cons_append, readEscape_unit, escaped]
    rfl
  exact readStringFrom_escape marked

theorem readStringFrom_noUnicode {u : CodeUnit} (broken : (readUnicode (u.bytes ++ rest)).toOption = none) :
    (readStringFrom 0 read ((Piece.unit u).bytes ++ rest)).toOption = none := by
  have marked : (readEscape (ascii 'u' :: (u.bytes ++ rest))).toOption = none := by
    rw [readEscape_unit]
    cases found : readUnicode (u.bytes ++ rest) with
    | error f => rfl
    | ok found' =>
      rw [found] at broken
      cases broken
  exact readStringFrom_broken marked

/-- The bytes of characters are their text. -/
theorem readStringFrom_quote (cs : List Char) :
    readStringFrom 0 (cs.flatMap String.utf8EncodeChar).reverse (ascii '"' :: rest) = .ok (String.ofList cs, rest) := by
  have text : String.fromUTF8? ⟨(cs.flatMap String.utf8EncodeChar).reverse.reverse.toArray⟩ = some (String.ofList cs) := by
    rw [fromUTF8?_eq_some_iff, List.reverse_reverse]
    refine Eq.trans ?_ String.toByteArray_ofList.symm
    exact ByteArray.ext (List.data_toByteArray).symm
  rw [readStringFrom, if_pos rfl]
  simp only [text]

/-- One character is read, and then the others. -/
theorem readStringFrom_char {cs : List Char} {c : Char} {text later : List UInt8} {others : Option (List Char)}
    (here : readStringFrom 0 (cs.flatMap String.utf8EncodeChar).reverse text =
      readStringFrom 0 ((String.utf8EncodeChar c).reverse ++ (cs.flatMap String.utf8EncodeChar).reverse) later)
    (there : (readStringFrom 0 ((cs ++ [c]).flatMap String.utf8EncodeChar).reverse later).toOption =
      others.map fun ds => (String.ofList (cs ++ [c] ++ ds), rest)) :
    (readStringFrom 0 (cs.flatMap String.utf8EncodeChar).reverse text).toOption =
      (others.map (c :: ·)).map fun ds => (String.ofList (cs ++ ds), rest) := by
  have grown : (String.utf8EncodeChar c).reverse ++ (cs.flatMap String.utf8EncodeChar).reverse =
      ((cs ++ [c]).flatMap String.utf8EncodeChar).reverse := by
    rw [← List.reverse_append, List.flatMap_append, List.flatMap_singleton]
  rw [here, grown, there, Option.map_map]
  simp only [Function.comp_def, List.append_assoc, List.singleton_append]

end Read

theorem Spelling.bytes_cons_append (p : Piece) (ps : Spelling) (rest : List UInt8) :
    Spelling.bytes (p :: ps) ++ rest = p.bytes ++ (ps.bytes ++ rest) := List.append_assoc ..

/-- A text is read as the characters that its pieces spell, behind those that were read before. -/
theorem readStringFrom_spelling (cs : List Char) (ps : Spelling) (rest : List UInt8) :
    (readStringFrom 0 (cs.flatMap String.utf8EncodeChar).reverse (ps.bytes ++ ascii '"' :: rest)).toOption =
      ps.chars?.map fun ds => (String.ofList (cs ++ ds), rest) := by
  induction ps using Spelling.chars?.induct generalizing cs with
  | case1 =>
    refine (congrArg Except.toOption (readStringFrom_quote cs)).trans ?_
    simp [Spelling.chars?, Except.toOption]
  | case2 c allowed ps ih =>
    rw [Spelling.bytes_cons_append, Spelling.chars?]
    exact readStringFrom_char (readStringFrom_ordinary (isOrdinary_of_plain allowed)) (ih (cs ++ [c]))
  | case3 l ps ih =>
    rw [Spelling.bytes_cons_append, Spelling.chars?]
    exact readStringFrom_char (readStringFrom_escape (readEscape_letter l _)) (ih (cs ++ [l.char]))
  | case4 u ps low =>
    rw [Spelling.bytes_cons_append, Spelling.chars?_low low]
    exact readStringFrom_noUnicode (CodeUnit.readUnicode_low low)
  | case5 u _ high v ps low ih =>
    have both : readUnicode (u.bytes ++ (Piece.unit v).bytes ++ (Spelling.bytes ps ++ ascii '"' :: rest)) =
        .ok (u.pair v, 10) := by
      rw [List.append_assoc, CodeUnit.readUnicode_pair high, if_pos low]
    rw [Spelling.bytes_cons_append, Spelling.bytes_cons_append, Spelling.chars?_pair high, if_pos low]
    exact readStringFrom_char (readStringFrom_unicode both :) (ih (cs ++ [u.pair v]))
  | case6 u _ high v ps notLow =>
    rw [Spelling.bytes_cons_append, Spelling.bytes_cons_append, Spelling.chars?_pair high, if_neg notLow]
    refine readStringFrom_noUnicode ?_
    rw [CodeUnit.readUnicode_pair high, if_neg notLow]
    rfl
  | case7 u ps _ high alone =>
    rw [Spelling.bytes_cons_append, Spelling.chars?_alone high alone]
    exact readStringFrom_noUnicode (CodeUnit.readUnicode_alone high alone)
  | case8 u ps notLow notHigh ih =>
    rw [Spelling.bytes_cons_append, Spelling.chars?_single notLow notHigh]
    exact readStringFrom_char (readStringFrom_unicode (CodeUnit.readUnicode_single notLow notHigh))
      (ih (cs ++ [Char.ofNat u.value]))

theorem readString_spelling (ps : Spelling) (rest : List UInt8) :
    (readString (ps.bytes ++ ascii '"' :: rest)).toOption = ps.text?.map (·, rest) := by
  refine (readStringFrom_spelling [] ps rest).trans ?_
  rw [Spelling.text?, Option.map_map]
  rfl

/-! Passing over a text. -/

theorem skipEscape_letter (l : EscapeLetter) (rest : List UInt8) : skipEscape (l.byte :: rest) = .ok 1 := by
  rw [skipEscape, escapeLetter?_byte]
  rfl

theorem skipEscape_unit (u : CodeUnit) (rest : List UInt8) : skipEscape (ascii 'u' :: (u.bytes ++ rest)) = .ok 5 := by
  have mark : escapeLetter? (ascii 'u') = none := by decide
  rw [skipEscape, mark, CodeUnit.readHex_bytes]
  rfl

section Skip
variable {bs rest : List UInt8}

theorem skipStringFrom_passed : skipStringFrom bs.length (bs ++ rest) = skipStringFrom 0 rest := by
  induction bs with
  | nil => rfl
  | cons b bs ih => exact ih

theorem skipStringFrom_ordinary (ordinary : ∀ b ∈ bs, IsOrdinary b) :
    skipStringFrom 0 (bs ++ rest) = skipStringFrom 0 rest := by
  induction bs with
  | nil => rfl
  | cons b bs ih =>
    obtain ⟨noQuote, noBackslash, noControl⟩ := ordinary b List.mem_cons_self
    rw [List.cons_append, skipStringFrom, if_neg noQuote, if_neg noBackslash, if_neg noControl]
    exact ih fun b member => ordinary b (List.mem_cons_of_mem _ member)

theorem skipStringFrom_escape (escaped : skipEscape (bs ++ rest) = .ok bs.length) :
    skipStringFrom 0 (ascii '\\' :: (bs ++ rest)) = skipStringFrom 0 rest := by
  rw [skipStringFrom, if_neg (by decide), if_pos rfl]
  simp only [escaped]
  exact skipStringFrom_passed

theorem skipStringFrom_piece (p : Piece) : skipStringFrom 0 (p.bytes ++ rest) = skipStringFrom 0 rest := by
  cases p with
  | plain c allowed => exact skipStringFrom_ordinary (isOrdinary_of_plain allowed)
  | letter l => exact skipStringFrom_escape (skipEscape_letter l rest)
  | unit u => exact skipStringFrom_escape (skipEscape_unit u rest)

end Skip

/-- A text is passed over whatever its pieces spell. -/
theorem skipString_spelling (ps : Spelling) (rest : List UInt8) : skipString (ps.bytes ++ ascii '"' :: rest) = .ok rest := by
  induction ps with
  | nil => rfl
  | cons p ps ih =>
    rw [Spelling.bytes_cons_append]
    exact (skipStringFrom_piece p).trans ih

end MachineOperator.Json
