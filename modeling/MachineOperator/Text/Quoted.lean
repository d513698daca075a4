import MachineOperator.Text.Concealed

/-!
Text between double quotes, as logs and error messages show it. A quote, a backslash and every character that
would not show as itself is escaped, so the quoted form is one line and says exactly what the text is.
-/
namespace MachineOperator.Text

def lowerHex (n : Nat) : List Char := Nat.toDigits 16 n

/-- A character by its number. -/
def escapeNumber (c : Char) : List Char := ['\\', 'u', '{'] ++ lowerHex c.toNat ++ ['}']

def escapeChar (c : Char) : List Char :=
  if c = '\x00' then ['\\', '0']
  else if c = '\t' then ['\\', 't']
  else if c = '\n' then ['\\', 'n']
  else if c = '\r' then ['\\', 'r']
  else if c = '"' then ['\\', '"']
  else if c = '\\' then ['\\', '\\']
  else if isConcealed c then escapeNumber c
  else [c]

def escape (cs : List Char) : List Char := cs.flatMap escapeChar

def quoted (s : String) : String := String.ofList ('"' :: escape s.toList ++ ['"'])

/-- A byte that is no part of a character. -/
def escapeByte (b : UInt8) : List Char :=
  let digit := fun (n : Nat) => Char.ofNat (if n < 10 then 48 + n else 55 + n)
  ['\\', 'x', digit (b.toNat / 16), digit (b.toNat % 16)]

/-- The character that bytes start with, and how many of them it takes. -/
def firstChar? (bytes : List UInt8) : Option (Char × Nat) :=
  [1, 2, 3, 4].findSome? fun n =>
    match (String.fromUTF8? ⟨(bytes.take n).toArray⟩).map String.toList with
    | some [c] => some (c, n)
    | _ => none

/-- The bytes with their characters escaped, among them apostrophes; `skipped` of them are shown already. -/
def escapeBytes (skipped : Nat) : List UInt8 → List Char
  | [] => []
  | b :: r =>
    match skipped with
    | n + 1 => escapeBytes n r
    | 0 =>
      match firstChar? (b :: r) with
      | some ('\x27', _) => '\\' :: '\x27' :: escapeBytes 0 r
      | some (c, n) => escapeChar c ++ escapeBytes (n - 1) r
      | none => escapeByte b ++ escapeBytes 0 r

/-- Bytes that are mostly text. -/
def quotedBytes (data : ByteArray) : String := String.ofList ('"' :: escapeBytes 0 data.toList ++ ['"'])

end MachineOperator.Text
