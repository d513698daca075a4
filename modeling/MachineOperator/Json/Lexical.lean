import MachineOperator.Json.Fault

/-!
Blanks, words and strings. A string is read as text, which decodes its escapes and refuses bytes that are no
text, or passed over, which only looks for its end.
-/
namespace MachineOperator.Json

def ascii (c : Char) : UInt8 := c.toUInt8

def isBlank (b : UInt8) : Bool := b == 32 || b == 10 || b == 9 || b == 13

def skipBlanks (rest : List UInt8) : List UInt8 := rest.dropWhile isBlank

def isDigit (b : UInt8) : Bool := ascii '0' ≤ b && b ≤ ascii '9'

/-- Past the letters of a word, one by one. -/
def expectWord : List Char → List UInt8 → Except Fault (List UInt8)
  | [], rest => .ok rest
  | _ :: _, [] => fail .endInValue []
  | c :: cs, b :: r => if b = ascii c then expectWord cs r else fail .noWord r

def hexValue? (b : UInt8) : Option Nat :=
  if isDigit b then some (b.toNat - 48)
  else if ascii 'a' ≤ b && b ≤ ascii 'f' then some (b.toNat - 87)
  else if ascii 'A' ≤ b && b ≤ ascii 'F' then some (b.toNat - 55)
  else none

/-- Four hexadecimal digits. -/
def readHex : List UInt8 → Read Nat
  | a :: b :: c :: d :: r =>
    match hexValue? a, hexValue? b, hexValue? c, hexValue? d with
    | some a, some b, some c, some d => .ok (((a * 16 + b) * 16 + c) * 16 + d, r)
    | _, _, _, _ => fail .escape r
  | _ => fail .endInString []

def isHighSurrogate (n : Nat) : Bool := 0xd800 ≤ n && n ≤ 0xdbff
def isLowSurrogate (n : Nat) : Bool := 0xdc00 ≤ n && n ≤ 0xdfff

/-- A byte that has to follow the first half of a surrogate pair. -/
def expectInPair (b : UInt8) : List UInt8 → Except Fault (List UInt8)
  | [] => fail .endInString []
  | a :: r => if a = b then .ok r else fail .halfSurrogatePair r

/-- The character after `\u`, and how many bytes spell it. One outside the first plane takes two escapes. -/
def readUnicode (rest : List UInt8) : Except Fault (Char × Nat) := do
  let (n, r) ← readHex rest
  if isLowSurrogate n then fail .loneSurrogate r
  else if !isHighSurrogate n then return (Char.ofNat n, 4)
  else
    let r ← expectInPair (ascii '\\') r
    let r ← expectInPair (ascii 'u') r
    let (m, r) ← readHex r
    if isLowSurrogate m then return (Char.ofNat (0x10000 + (n - 0xd800) * 0x400 + (m - 0xdc00)), 10)
    else fail .loneSurrogate r

/-- The character that a letter after a backslash stands for. -/
def escapeLetter? (b : UInt8) : Option Char :=
  if b = ascii '"' then some '"'
  else if b = ascii '\\' then some '\\'
  else if b = ascii '/' then some '/'
  else if b = ascii 'b' then some '\x08'
  else if b = ascii 'f' then some '\x0c'
  else if b = ascii 'n' then some '\n'
  else if b = ascii 'r' then some '\r'
  else if b = ascii 't' then some '\t'
  else none

/-- The character after a backslash, and how many bytes spell it. -/
def readEscape : List UInt8 → Except Fault (Char × Nat)
  | [] => fail .endInString []
  | b :: r =>
    match escapeLetter? b with
    | some c => .ok (c, 1)
    | none => if b = ascii 'u' then (readUnicode r).map fun (c, size) => (c, size + 1) else fail .escape r

/-- The text up to a quote; `read` holds its bytes so far, newest first, and `skipped` bytes are read already. -/
def readStringFrom (skipped : Nat) (read : List UInt8) : List UInt8 → Read String
  | [] => fail .endInString []
  | b :: r =>
    match skipped with
    | n + 1 => readStringFrom n read r
    | 0 =>
      if b = ascii '"' then
        match String.fromUTF8? ⟨read.reverse.toArray⟩ with
        | some s => .ok (s, r)
        | none => fail .noText (b :: r)
      else if b = ascii '\\' then
        match readEscape r with
        | .ok (c, size) => readStringFrom size ((String.utf8EncodeChar c).reverse ++ read) r
        | .error f => .error f
      else if b < 32 then fail .control r
      else readStringFrom 0 (b :: read) r

/-- The text after an opening quote. -/
def readString (rest : List UInt8) : Read String := readStringFrom 0 [] rest

/-- How many bytes there are to an escape, whatever it stands for. -/
def skipEscape : List UInt8 → Except Fault Nat
  | [] => fail .endInString []
  | b :: r =>
    if (escapeLetter? b).isSome then .ok 1
    else if b = ascii 'u' then (readHex r).map fun _ => 5
    else fail .escape r

def skipStringFrom (skipped : Nat) : List UInt8 → Except Fault (List UInt8)
  | [] => fail .endInString []
  | b :: r =>
    match skipped with
    | n + 1 => skipStringFrom n r
    | 0 =>
      if b = ascii '"' then .ok r
      else if b = ascii '\\' then
        match skipEscape r with
        | .ok size => skipStringFrom size r
        | .error f => .error f
      else if b < 32 then fail .control (b :: r)
      else skipStringFrom 0 r

/-- Past the text after an opening quote. -/
def skipString (rest : List UInt8) : Except Fault (List UInt8) := skipStringFrom 0 rest

end MachineOperator.Json
