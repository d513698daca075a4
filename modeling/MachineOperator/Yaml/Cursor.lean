import MachineOperator.Yaml.Mark

/-!
A place in a text: the characters that are left and the mark of the first of them. Reading is taking
characters off the front, so what was read and what is left always make up the text.
-/
namespace MachineOperator.Yaml

def isBreak (c : Char) : Bool := c == '\n' || c == '\u2028' || c == '\u2029'
def isBlank (c : Char) : Bool := c == ' ' || c == '\t'

/-- Blanks, line breaks and the end of the text divide tokens. -/
def isDivider : List Char → Bool
  | [] => true
  | c :: _ => isBlank c || isBreak c

/-- The characters of names of anchors, directives and tag handles. -/
def isNameChar (c : Char) : Bool :=
  ('0' ≤ c && c ≤ '9') || ('A' ≤ c && c ≤ 'Z') || ('a' ≤ c && c ≤ 'z') || c == '_' || c == '-'

def isDecDigit (c : Char) : Bool := '0' ≤ c && c ≤ '9'

def hexDigit? (c : Char) : Option Nat :=
  if '0' ≤ c ∧ c ≤ '9' then some (c.toNat - '0'.toNat)
  else if 'A' ≤ c ∧ c ≤ 'F' then some (c.toNat - 'A'.toNat + 10)
  else if 'a' ≤ c ∧ c ≤ 'f' then some (c.toNat - 'a'.toNat + 10)
  else none

structure Cursor where
  rest : List Char
  mark : Mark

namespace Cursor

/-- Past a character that is no line break. -/
def skip (c : Cursor) : Cursor := ⟨c.rest.tail, c.mark.next⟩

def skips (c : Cursor) : Nat → Cursor
  | 0 => c
  | n + 1 => c.skip.skips n

def skipWhileFrom (p : Char → Bool) : List Char → Mark → Cursor
  | [], m => ⟨[], m⟩
  | c :: r, m => if p c then skipWhileFrom p r m.next else ⟨c :: r, m⟩

/-- Past the characters of a class without line breaks. -/
def skipWhile (c : Cursor) (p : Char → Bool) : Cursor := skipWhileFrom p c.rest c.mark

/-- The characters of a class at the cursor, and the cursor past them. -/
def span (c : Cursor) (p : Char → Bool) : List Char × Cursor :=
  (c.rest.takeWhile p, c.skipWhile p)

def peekIs (c : Cursor) (x : Char) : Bool := c.rest.head? == some x

def atBreak (c : Cursor) : Bool := (c.rest.head?.map isBreak).getD false

/-- Past a comment, if one starts here: all up to the line break. -/
def skipComment (c : Cursor) : Cursor :=
  if c.peekIs '#' then c.skipWhile (!isBreak ·) else c

def skipBreak (c : Cursor) : Cursor :=
  if c.atBreak then ⟨c.rest.tail, c.mark.newline⟩ else c

/-- At the end of a line or of the text. -/
def atLineEnd (c : Cursor) : Bool := c.rest.isEmpty || c.atBreak

end Cursor

/-- `---` or `...` at the start of a line, set off from what follows, is a document indicator. -/
def startsIndicator (x : Char) : List Char → Bool
  | a :: b :: c :: r => a == x && b == x && c == x && isDivider r
  | _ => false

def startsDocument (rest : List Char) : Bool := startsIndicator '-' rest || startsIndicator '.' rest

end MachineOperator.Yaml
