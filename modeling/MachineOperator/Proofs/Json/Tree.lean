import MachineOperator.Json.Lexical

/-!
JSON texts as trees. A tree says how its strings and numbers are spelled, and leaves open which blanks stand between its
parts. Every tree has a text, and a part of a text is told from others by its first byte.
-/
namespace MachineOperator.Json

/-! What a string is spelled with. -/

/-- A hexadecimal digit. One above nine is a small letter or a capital one. -/
structure HexDigit where
  value : Fin 16
  capital : Bool

def HexDigit.byte (d : HexDigit) : UInt8 :=
  if d.value.val < 10 then ascii '0' + .ofNat d.value.val
  else if d.capital then ascii 'A' + .ofNat (d.value.val - 10)
  else ascii 'a' + .ofNat (d.value.val - 10)

/-- Four hexadecimal digits, which stand for a character or for a half of one. -/
structure CodeUnit where
  first : HexDigit
  second : HexDigit
  third : HexDigit
  fourth : HexDigit

namespace CodeUnit

def bytes (u : CodeUnit) : List UInt8 := [u.first.byte, u.second.byte, u.third.byte, u.fourth.byte]

def value (u : CodeUnit) : Nat :=
  ((u.first.value.val * 16 + u.second.value.val) * 16 + u.third.value.val) * 16 + u.fourth.value.val

/-- The halves of a character outside the first plane have six bits that tell them apart, and ten bits each. -/
def isHigh (u : CodeUnit) : Bool := u.value / 0x400 == 0b110110

def isLow (u : CodeUnit) : Bool := u.value / 0x400 == 0b110111

theorem not_isLow_of_isHigh {u : CodeUnit} (high : u.isHigh = true) : ¬u.isLow = true := by
  simp only [isHigh, isLow, beq_iff_eq] at high ⊢
  omega

def pair (high low : CodeUnit) : Char := Char.ofNat (0x10000 + high.value % 0x400 * 0x400 + low.value % 0x400)

end CodeUnit

/-- A character that has a letter to stand for it after a backslash. -/
inductive EscapeLetter where
  | quote | backslash | slash | backspace | formFeed | lineFeed | carriageReturn | tab

namespace EscapeLetter

def byte : EscapeLetter → UInt8
  | quote => ascii '"'
  | backslash => ascii '\\'
  | slash => ascii '/'
  | backspace => ascii 'b'
  | formFeed => ascii 'f'
  | lineFeed => ascii 'n'
  | carriageReturn => ascii 'r'
  | tab => ascii 't'

def char : EscapeLetter → Char
  | quote => '"'
  | backslash => '\\'
  | slash => '/'
  | backspace => '\x08'
  | formFeed => '\x0c'
  | lineFeed => '\n'
  | carriageReturn => '\r'
  | tab => '\t'

end EscapeLetter

inductive Piece where
  | plain (c : Char) (allowed : 0x20 ≤ c.toNat ∧ c ≠ '"' ∧ c ≠ '\\')
  | letter (l : EscapeLetter)
  | unit (u : CodeUnit)

def Piece.bytes : Piece → List UInt8
  | .plain c _ => String.utf8EncodeChar c
  | .letter l => [ascii '\\', l.byte]
  | .unit u => ascii '\\' :: ascii 'u' :: u.bytes

/-- The spelling of a string, without its quotes. -/
abbrev Spelling := List Piece

namespace Spelling

def bytes (ps : Spelling) : List UInt8 := ps.flatMap Piece.bytes

/-- A spelling between quotes, and what follows. -/
def quoted (ps : Spelling) (rest : List UInt8) : List UInt8 := ascii '"' :: (ps.bytes ++ ascii '"' :: rest)

/-- The characters that are spelled, unless a half stands alone. -/
def chars? : Spelling → Option (List Char)
  | [] => some []
  | .plain c _ :: ps => (chars? ps).map (c :: ·)
  | .letter l :: ps => (chars? ps).map (l.char :: ·)
  | .unit u :: ps =>
    if u.isLow then none
    else if u.isHigh then
      match ps with
      | .unit v :: ps => if v.isLow then (chars? ps).map (u.pair v :: ·) else none
      | _ => none
    else (chars? ps).map (Char.ofNat u.value :: ·)

def text? (ps : Spelling) : Option String := ps.chars?.map String.ofList

section Units
variable {u v : CodeUnit} {ps : Spelling}

theorem chars?_low (low : u.isLow = true) : chars? (.unit u :: ps) = none := by
  rw [chars?.eq_def]
  exact if_pos low

theorem chars?_single (notLow : ¬u.isLow = true) (notHigh : ¬u.isHigh = true) :
    chars? (.unit u :: ps) = (chars? ps).map (Char.ofNat u.value :: ·) := by
  rw [chars?.eq_def]
  simp only [if_neg notLow, if_neg notHigh]

theorem chars?_pair (high : u.isHigh = true) :
    chars? (.unit u :: .unit v :: ps) = if v.isLow then (chars? ps).map (u.pair v :: ·) else none := by
  rw [chars?.eq_def]
  simp only [if_neg (CodeUnit.not_isLow_of_isHigh high), if_pos high]

theorem chars?_alone (high : u.isHigh = true) (alone : ∀ v qs, ps ≠ .unit v :: qs) : chars? (.unit u :: ps) = none := by
  rw [chars?.eq_def]
  simp only [if_neg (CodeUnit.not_isLow_of_isHigh high), if_pos high]

end Units

end Spelling

/-! Numbers. -/

def digitByte (d : Fin 10) : UInt8 := ascii '0' + .ofNat d.val

/-- Digits, of which there is at least one. -/
structure Digits where
  first : Fin 10
  others : List (Fin 10)

def Digits.bytes (ds : Digits) : List UInt8 := digitByte ds.first :: ds.others.map digitByte

/-- A whole number without leading zeros. -/
inductive Whole where
  | zero
  | positive (first : Fin 9) (others : List (Fin 10))

def Whole.bytes : Whole → List UInt8
  | zero => [digitByte 0]
  | positive first others => digitByte first.succ :: others.map digitByte

inductive Sign where
  | plus | minus

def Sign.byte : Sign → UInt8
  | plus => ascii '+'
  | minus => ascii '-'

structure Exponent where
  capital : Bool
  sign : Option Sign
  digits : Digits

def Exponent.bytes (e : Exponent) : List UInt8 :=
  (if e.capital then ascii 'E' else ascii 'e') :: (e.sign.toList.map Sign.byte ++ e.digits.bytes)

structure Numeral where
  negative : Bool
  whole : Whole
  fraction : Option Digits
  exponent : Option Exponent

namespace Numeral

def fractionBytes (n : Numeral) : List UInt8 := (n.fraction.map fun ds => ascii '.' :: ds.bytes).getD []

def exponentBytes (n : Numeral) : List UInt8 := (n.exponent.map Exponent.bytes).getD []

/-- A number apart from its sign. -/
def magnitudeBytes (n : Numeral) : List UInt8 := n.whole.bytes ++ (n.fractionBytes ++ n.exponentBytes)

def bytes (n : Numeral) : List UInt8 := if n.negative then ascii '-' :: n.magnitudeBytes else n.magnitudeBytes

end Numeral

/-! Trees. -/

inductive Literal where
  | null
  | boolean (b : Bool)

def Literal.word : Literal → List Char
  | null => ['n', 'u', 'l', 'l']
  | boolean true => ['t', 'r', 'u', 'e']
  | boolean false => ['f', 'a', 'l', 's', 'e']

inductive Tree where
  | literal (l : Literal)
  | number (n : Numeral)
  | string (ps : Spelling)
  | list (items : List Tree)
  | object (members : List (Spelling × Tree))

/-- Blanks, and what is left of a text after them. -/
inductive Blanks : List UInt8 → List UInt8 → Prop
  | none {text} : Blanks text text
  | more {b text rest} (blank : b ∈ [0x20, 0x09, 0x0a, 0x0d]) (others : Blanks text rest) : Blanks (b :: text) rest

/-- A part of a collection, behind a comma if it is not the first. -/
def separated (first : Bool) (part : List UInt8) : List UInt8 := if first then part else ascii ',' :: part

namespace Tree

mutual

/-- A tree is written at the start of a text, in front of what is left of it. -/
def Spans : Tree → List UInt8 → List UInt8 → Prop
  | literal l, text, rest => text = l.word.map ascii ++ rest
  | number n, text, rest => text = n.bytes ++ rest
  | string ps, text, rest => text = ps.quoted rest
  | list items, text, rest => ∃ inside, text = ascii '[' :: inside ∧ ItemsSpan true items inside rest
  | object members, text, rest => ∃ inside, text = ascii '\x7b' :: inside ∧ MembersSpan true members inside rest

/-- Items and the end of their list. -/
def ItemsSpan : Bool → List Tree → List UInt8 → List UInt8 → Prop
  | _, [], text, rest => Blanks text (ascii ']' :: rest)
  | first, t :: items, text, rest =>
    ∃ part item after, Blanks text (separated first part) ∧ Blanks part item ∧ Spans t item after ∧
      ItemsSpan false items after rest

/-- Members and the end of their object. -/
def MembersSpan : Bool → List (Spelling × Tree) → List UInt8 → List UInt8 → Prop
  | _, [], text, rest => Blanks text (ascii '\x7d' :: rest)
  | first, (key, t) :: members, text, rest =>
    ∃ part colon value item after, Blanks text (separated first part) ∧ Blanks part (key.quoted colon) ∧
      Blanks colon (ascii ':' :: value) ∧ Blanks value item ∧ Spans t item after ∧ MembersSpan false members after rest

end

/-- A tree and blanks around it are all of a text. -/
def IsText (t : Tree) (text : List UInt8) : Prop := ∃ item rest, Blanks text item ∧ t.Spans item rest ∧ Blanks rest []

/-! The text of a tree without blanks, in front of others. -/

mutual

def print : Tree → List UInt8 → List UInt8
  | literal l, rest => l.word.map ascii ++ rest
  | number n, rest => n.bytes ++ rest
  | string ps, rest => ps.quoted rest
  | list items, rest => ascii '[' :: printItems true items rest
  | object members, rest => ascii '\x7b' :: printMembers true members rest

def printItems : Bool → List Tree → List UInt8 → List UInt8
  | _, [], rest => ascii ']' :: rest
  | first, t :: items, rest => separated first (print t (printItems false items rest))

def printMembers : Bool → List (Spelling × Tree) → List UInt8 → List UInt8
  | _, [], rest => ascii '\x7d' :: rest
  | first, (key, t) :: members, rest =>
    separated first (key.quoted (ascii ':' :: print t (printMembers false members rest)))

end

mutual

theorem spans_print (t : Tree) (rest : List UInt8) : t.Spans (t.print rest) rest := by
  match t with
  | literal l => rw [print, Spans]
  | number n => rw [print, Spans]
  | string ps => rw [print, Spans]
  | list items =>
    rw [print, Spans]
    exact ⟨_, rfl, itemsSpan_print true items rest⟩
  | object members =>
    rw [print, Spans]
    exact ⟨_, rfl, membersSpan_print true members rest⟩

theorem itemsSpan_print (first : Bool) (items : List Tree) (rest : List UInt8) :
    ItemsSpan first items (printItems first items rest) rest := by
  match items with
  | [] => exact .none
  | t :: items => exact ⟨_, _, _, .none, .none, spans_print t _, itemsSpan_print false items rest⟩

theorem membersSpan_print (first : Bool) (members : List (Spelling × Tree)) (rest : List UInt8) :
    MembersSpan first members (printMembers first members rest) rest := by
  match members with
  | [] => exact .none
  | (key, t) :: members =>
    exact ⟨_, _, _, _, _, .none, .none, .none, .none, spans_print t _, membersSpan_print false members rest⟩

end

theorem isText_print (t : Tree) : t.IsText (t.print []) := ⟨_, [], .none, t.spans_print [], .none⟩

/-- The first byte of a tree, which tells what it is. -/
def opening : Tree → UInt8
  | literal .null => ascii 'n'
  | literal (.boolean true) => ascii 't'
  | literal (.boolean false) => ascii 'f'
  | number ⟨true, _, _, _⟩ => ascii '-'
  | number ⟨false, .zero, _, _⟩ => digitByte 0
  | number ⟨false, .positive first _, _, _⟩ => digitByte first.succ
  | string _ => ascii '"'
  | list _ => ascii '['
  | object _ => ascii '\x7b'

/-- The byte that tells a text, a list or an object from all other values. -/
def mark? : Tree → Option Char
  | string _ => some '"'
  | list _ => some '['
  | object _ => some '\x7b'
  | _ => none

theorem opening_of_spans {t : Tree} {text rest : List UInt8} (written : t.Spans text rest) :
    ∃ others, text = t.opening :: others := by
  match t with
  | literal .null => exact ⟨_, written⟩
  | literal (.boolean true) => exact ⟨_, written⟩
  | literal (.boolean false) => exact ⟨_, written⟩
  | number ⟨true, _, _, _⟩ => exact ⟨_, written⟩
  | number ⟨false, .zero, _, _⟩ => exact ⟨_, written⟩
  | number ⟨false, .positive _ _, _, _⟩ => exact ⟨_, written⟩
  | string ps => exact ⟨_, written⟩
  | list items =>
    obtain ⟨inside, same, _⟩ := written
    exact ⟨inside, same⟩
  | object members =>
    obtain ⟨inside, same, _⟩ := written
    exact ⟨inside, same⟩

end Tree
end MachineOperator.Json
