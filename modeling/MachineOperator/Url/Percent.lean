/-!
Percent-encoding: a character that may not stand in a part of an address is written as its bytes, each a percent
sign and two hexadecimal digits. The parts differ in what may stand in them.
-/
namespace MachineOperator.Url

def hexDigit (n : Nat) : Char := Char.ofNat (if n < 10 then 48 + n else 55 + n)

def percentByte (b : UInt8) : List Char := ['%', hexDigit (b.toNat / 16), hexDigit (b.toNat % 16)]

def percentChar (c : Char) : List Char := (String.utf8EncodeChar c).flatMap percentByte

/-- The text with every character for which `escapes` holds encoded. -/
def percentEncode (escapes : Char → Bool) (cs : List Char) : List Char :=
  cs.flatMap fun c => if escapes c then percentChar c else [c]

/-- Controls and everything beyond ASCII, which may stand nowhere. -/
def escapedEverywhere (c : Char) : Bool := c.toNat < 0x20 || 0x7e < c.toNat

def escapedInFragment (c : Char) : Bool := escapedEverywhere c || [' ', '"', '<', '>', '`'].contains c

def escapedInPath (c : Char) : Bool := escapedInFragment c || ['#', '?', '{', '}'].contains c

/-- In a query of a special scheme an apostrophe is encoded too. -/
def escapedInQuery (special : Bool) (c : Char) : Bool :=
  escapedEverywhere c || [' ', '"', '#', '<', '>'].contains c || (special && c == '\x27')

def digitValue? (radix : Nat) (c : Char) : Option Nat :=
  let n :=
    if c.isDigit then c.toNat - 48
    else if 'a' ≤ c ∧ c ≤ 'f' then c.toNat - 87
    else if 'A' ≤ c ∧ c ≤ 'F' then c.toNat - 55
    else radix
  if n < radix then some n else none

/-- The bytes that a text stands for. A percent sign without two digits is itself. -/
def percentDecode : List Char → List UInt8
  | [] => []
  | '%' :: a :: b :: r =>
    match digitValue? 16 a, digitValue? 16 b with
    | some x, some y => UInt8.ofNat (16 * x + y) :: percentDecode r
    | _, _ => ('%' : Char).toUInt8 :: percentDecode (a :: b :: r)
  | c :: r => String.utf8EncodeChar c ++ percentDecode r

end MachineOperator.Url
