import MachineOperator.Bytes

/-!
Text as bytes. A grammar says which bytes are a text, without reference to one: characters of one to four bytes, each in
as few as it takes. Among the bytes of a text another one that starts within ASCII is found exactly when it is found in the
text.
-/
namespace MachineOperator

/-! The bytes of a text. -/

theorem toList_loop (bs : ByteArray) (i : Nat) (r : List UInt8) :
    ByteArray.toList.loop bs i r = r.reverse ++ bs.data.toList.drop i := by
  fun_induction ByteArray.toList.loop bs i r with
  | case1 i r more ih =>
    have inside : i < bs.data.toList.length := by simpa using more
    have here : bs.get! i = bs.data.toList[i] := by
      cases bs
      exact (getElem!_pos _ i more).trans (Array.getElem_toList more).symm
    rw [ih, List.drop_eq_getElem_cons inside, here, List.reverse_cons, List.append_assoc]
    rfl
  | case2 i r done =>
    rw [List.drop_eq_nil_of_le (by simpa using Nat.le_of_not_lt done), List.append_nil]

theorem toList_bytes (bs : ByteArray) : bs.toList = bs.data.toList := by
  rw [ByteArray.toList, toList_loop]
  rfl

theorem toUTF8_ofList (cs : List Char) : (String.ofList cs).toUTF8 = (cs.flatMap String.utf8EncodeChar).toByteArray :=
  String.toByteArray_ofList

theorem toUTF8_toList (text : String) : text.toUTF8.toList = text.toList.flatMap String.utf8EncodeChar := by
  have encoded := toUTF8_ofList text.toList
  rw [String.ofList_toList] at encoded
  rw [toList_bytes, encoded, List.toList_data_toByteArray]

namespace Utf8

/-- A character within ASCII is spelled with its number. -/
theorem utf8EncodeChar_small {c : Char} (small : c.val.toNat ≤ 127) : String.utf8EncodeChar c = [c.toUInt8] := by
  unfold String.utf8EncodeChar
  simp only [if_pos small]
  rfl

/-- A character outside ASCII is spelled with bytes outside ASCII. -/
theorem utf8EncodeChar_great {c : Char} (great : ¬c.val.toNat ≤ 127) : ∀ b ∈ String.utf8EncodeChar c, 128 ≤ b.toNat := by
  unfold String.utf8EncodeChar
  simp only [if_neg great]
  split
  · simp only [List.forall_mem_cons, UInt8.toNat_ofNat', List.not_mem_nil, false_implies, implies_true, and_true]
    omega
  split
  · simp only [List.forall_mem_cons, UInt8.toNat_ofNat', List.not_mem_nil, false_implies, implies_true, and_true]
    omega
  · simp only [List.forall_mem_cons, UInt8.toNat_ofNat', List.not_mem_nil, false_implies, implies_true, and_true]
    omega

/-- A byte that goes on with a character. -/
def Trails (b : UInt8) : Prop := 0x80 ≤ b.toNat ∧ b.toNat ≤ 0xbf

/-- The bytes of one character: no more of them than it takes, for no half of a surrogate pair, and for none beyond the last
character. -/
inductive Character : List UInt8 → Prop where
  | one {a : UInt8} (lead : a.toNat ≤ 0x7f) : Character [a]
  | two {a b : UInt8} (lead : 0xc2 ≤ a.toNat ∧ a.toNat ≤ 0xdf) (next : Trails b) : Character [a, b]
  | three {a b c : UInt8} (lead : 0xe0 ≤ a.toNat ∧ a.toNat ≤ 0xef) (next : Trails b) (last : Trails c)
      (needed : a.toNat = 0xe0 → 0xa0 ≤ b.toNat) (whole : a.toNat = 0xed → b.toNat ≤ 0x9f) : Character [a, b, c]
  | four {a b c d : UInt8} (lead : 0xf0 ≤ a.toNat ∧ a.toNat ≤ 0xf4) (next : Trails b) (later : Trails c) (last : Trails d)
      (needed : a.toNat = 0xf0 → 0x90 ≤ b.toNat) (known : a.toNat = 0xf4 → b.toNat ≤ 0x8f) : Character [a, b, c, d]

/-- The bytes of a text: those of its characters, one after another. -/
inductive Characters : List UInt8 → Prop where
  | none : Characters []
  | more {bs rest : List UInt8} (first : Character bs) (others : Characters rest) : Characters (bs ++ rest)

/-- The numbers of characters are all but the surrogates, up to the last. -/
theorem exists_char {v : Nat} (valid : v < 0xd800 ∨ 0xdfff < v ∧ v < 0x110000) : ∃ c : Char, c.val.toNat = v :=
  ⟨Char.ofNatAux v valid, rfl⟩

theorem character_utf8EncodeChar (c : Char) : Character (String.utf8EncodeChar c) := by
  have valid : c.val.toNat < 0xd800 ∨ 0xdfff < c.val.toNat ∧ c.val.toNat < 0x110000 := c.valid
  unfold String.utf8EncodeChar
  generalize c.val.toNat = v at valid
  dsimp only
  split
  · apply Character.one
    simp only [UInt8.toNat_ofNat']
    omega
  split
  · apply Character.two <;> simp only [Trails, UInt8.toNat_ofNat'] <;> omega
  split
  · apply Character.three <;> simp only [Trails, UInt8.toNat_ofNat'] <;> omega
  · apply Character.four <;> simp only [Trails, UInt8.toNat_ofNat'] <;> omega

/-- The character that bytes spell has the number that their digits in base 64 give. -/
theorem Character.exists_char {bs : List UInt8} (spelled : Character bs) : ∃ c, bs = String.utf8EncodeChar c := by
  cases spelled with
  | @one a lead =>
    obtain ⟨c, value⟩ := Utf8.exists_char (v := a.toNat) (by omega)
    refine ⟨c, ?_⟩
    rw [String.utf8EncodeChar, value]
    simp [lead]
  | @two a b lead next =>
    simp only [Trails] at next
    obtain ⟨c, value⟩ := Utf8.exists_char (v := (a.toNat - 0xc0) * 64 + (b.toNat - 0x80)) (by omega)
    refine ⟨c, ?_⟩
    rw [String.utf8EncodeChar, value, if_neg (by omega), if_pos (by omega)]
    simp only [List.cons.injEq, ← UInt8.toNat_inj, UInt8.toNat_ofNat', and_true]
    omega
  | @three a b c lead next last needed whole =>
    simp only [Trails] at next last
    obtain ⟨c, value⟩ := Utf8.exists_char
      (v := (a.toNat - 0xe0) * 4096 + (b.toNat - 0x80) * 64 + (c.toNat - 0x80)) (by omega)
    refine ⟨c, ?_⟩
    rw [String.utf8EncodeChar, value, if_neg (by omega), if_neg (by omega), if_pos (by omega)]
    simp only [List.cons.injEq, ← UInt8.toNat_inj, UInt8.toNat_ofNat', and_true]
    omega
  | @four a b c d lead next later last needed known =>
    simp only [Trails] at next later last
    obtain ⟨c, value⟩ := Utf8.exists_char
      (v := (a.toNat - 0xf0) * 262144 + (b.toNat - 0x80) * 4096 + (c.toNat - 0x80) * 64 + (d.toNat - 0x80)) (by omega)
    refine ⟨c, ?_⟩
    rw [String.utf8EncodeChar, value, if_neg (by omega), if_neg (by omega), if_neg (by omega)]
    simp only [List.cons.injEq, ← UInt8.toNat_inj, UInt8.toNat_ofNat', and_true]
    omega

theorem characters_iff {bs : List UInt8} : Characters bs ↔ ∃ cs : List Char, bs = cs.flatMap String.utf8EncodeChar := by
  constructor
  · intro spelled
    induction spelled with
    | none => exact ⟨[], rfl⟩
    | more first _ ih =>
      obtain ⟨c, rfl⟩ := first.exists_char
      obtain ⟨cs, rfl⟩ := ih
      exact ⟨c :: cs, rfl⟩
  · rintro ⟨cs, rfl⟩
    induction cs with
    | nil => exact .none
    | cons c cs ih => exact .more (character_utf8EncodeChar c) ih

/-- Bytes are a text exactly when they are characters one after another. -/
theorem characters_toList {data : ByteArray} : Characters data.toList ↔ ∃ text : String, data = text.toUTF8 := by
  constructor
  · intro spelled
    obtain ⟨cs, same⟩ := characters_iff.1 spelled
    refine ⟨String.ofList cs, ?_⟩
    rw [toUTF8_ofList]
    apply ByteArray.ext
    apply Array.toList_inj.1
    rw [List.toList_data_toByteArray, ← toList_bytes]
    exact same
  · rintro ⟨text, rfl⟩
    exact characters_iff.2 ⟨text.toList, toUTF8_toList text⟩

/-! Text that starts within ASCII, among the bytes of a text. -/

theorem isPrefix_of_flatMap {part cs : List Char}
    (starts : part.flatMap String.utf8EncodeChar <+: cs.flatMap String.utf8EncodeChar) : part <+: cs := by
  obtain ⟨rest, same⟩ := starts
  apply List.isPrefix_of_utf8Encode_append_eq_utf8Encode rest.toByteArray
  rw [List.utf8Encode, List.utf8Encode, ← same, List.toByteArray_append]

/-- What starts with another element is found behind these. -/
theorem infix_of_not_mem {α : Type} {a : α} {part before rest : List α} (apart : a ∉ before)
    (found : a :: part <:+: before ++ rest) : a :: part <:+: rest := by
  induction before with
  | nil => exact found
  | cons b before ih =>
    rw [List.mem_cons, not_or] at apart
    rcases List.infix_cons_iff.1 found with here | later
    · exact absurd (List.cons_prefix_cons.1 here).1 apart.1
    · exact ih apart.2 later

/-- The byte of a character within ASCII is in the spelling of no other character, so a text that starts with one is found
among the bytes of another text only where it is found in that text. -/
theorem isInfix_flatMap {c : Char} {part cs : List Char} (small : c.val.toNat ≤ 127) :
    (c :: part).flatMap String.utf8EncodeChar <:+: cs.flatMap String.utf8EncodeChar ↔ c :: part <:+: cs := by
  have spelled : (c :: part).flatMap String.utf8EncodeChar = c.toUInt8 :: part.flatMap String.utf8EncodeChar := by
    rw [List.flatMap_cons, utf8EncodeChar_small small, List.singleton_append]
  constructor
  · intro found
    induction cs with
    | nil =>
      rw [spelled, List.flatMap_nil, List.infix_nil] at found
      cases found
    | cons d cs ih =>
      -- Within ASCII the first byte is the whole of d; otherwise none of its bytes is where the text is found.
      by_cases other : d.val.toNat ≤ 127
      · have next : (d :: cs).flatMap String.utf8EncodeChar = d.toUInt8 :: cs.flatMap String.utf8EncodeChar := by
          rw [List.flatMap_cons, utf8EncodeChar_small other, List.singleton_append]
        rw [next, List.infix_cons_iff, ← next] at found
        rcases found with here | later
        · exact (isPrefix_of_flatMap here).isInfix
        · exact List.infix_cons (ih later)
      · have apart : c.toUInt8 ∉ String.utf8EncodeChar d := by
          intro member
          have great := utf8EncodeChar_great other _ member
          have value : c.toUInt8.toNat = c.val.toNat := Nat.mod_eq_of_lt (Nat.lt_of_le_of_lt small (by decide))
          omega
        rw [List.flatMap_cons (x := d), spelled] at found
        rw [spelled] at ih
        exact List.infix_cons (ih (infix_of_not_mem apart found))
  · rintro ⟨before, after, rfl⟩
    rw [List.flatMap_append, List.flatMap_append]
    exact List.infix_append ..

end Utf8
end MachineOperator
