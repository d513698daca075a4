import MachineOperator.Url.Name
import MachineOperator.Url.Percent

/-!
Hosts: names, and addresses of either version. One address has many spellings, of which the text of a host is the
shortest.
-/
namespace MachineOperator.Url

inductive Host where
  | name (text : String)
  | ipv4 (address : UInt32)
  | ipv6 (pieces : List UInt16)
deriving DecidableEq

namespace Host

/-! Addresses of four bytes -/

/-- A number in an address: decimal, octal after `0`, hexadecimal after `0x`. -/
def numberPart? (cs : List Char) : Option Nat :=
  let (radix, digits) :=
    match cs with
    | '0' :: 'x' :: r => (16, r)
    | '0' :: 'X' :: r => (16, r)
    | '0' :: c :: r => (8, c :: r)
    | cs => (10, cs)
  if cs.isEmpty then none
  else digits.foldlM (fun n c => (digitValue? radix c).map (radix * n + ·)) 0

/-- The last part fills the bytes that the others leave. -/
def combine? : List Nat → Nat → Option Nat
  | [], _ => none
  | [n], room => if n < room then some n else none
  | n :: r, room => if n ≤ 255 then (combine? r (room / 256)).map (n * (room / 256) + ·) else none

def dotted (cs : List Char) : List (List Char) :=
  match (cs.splitOn '.').reverse with
  | [] :: p :: r => (p :: r).reverse
  | ps => ps.reverse

def ipv4? (cs : List Char) : Option Host := do
  let parts ← (dotted cs).mapM numberPart?
  if 4 < parts.length then none
  return .ipv4 (.ofNat (← combine? parts 0x100000000))

/-- Whether a name has to be read as an address: its last part is a number. -/
def endsInNumber (cs : List Char) : Bool :=
  match (dotted cs).getLast? with
  | none => false
  | some last => (!last.isEmpty && last.all Char.isDigit) || (numberPart? last).isSome

def ipv4Text (address : UInt32) : List Char :=
  let byte := fun (n : Nat) => (toString (address.toNat / n % 256)).toList
  byte 0x1000000 ++ '.' :: byte 0x10000 ++ '.' :: byte 0x100 ++ '.' :: byte 1

/-! Addresses of eight pieces -/

def hexPiece? (cs : List Char) : Option UInt16 := do
  if cs.isEmpty || 4 < cs.length then none
  let n ← cs.foldlM (fun n c => (digitValue? 16 c).map (16 * n + ·)) 0
  return .ofNat n

/-- A decimal byte without leading zeros. -/
def decimalByte? (cs : List Char) : Option Nat := do
  if cs.isEmpty || (cs.head? = some '0' && 1 < cs.length) then none
  let n ← cs.foldlM (fun n c => (digitValue? 10 c).map (10 * n + ·)) 0
  if n ≤ 255 then some n else none

/-- Pieces between colons; the last two may be written as four decimal bytes. -/
def pieces? : List (List Char) → Option (List UInt16)
  | [] => some []
  | [last] =>
    if last.contains '.' then
      match (last.splitOn '.').mapM decimalByte? with
      | some [a, b, c, d] => some [.ofNat (256 * a + b), .ofNat (256 * c + d)]
      | _ => none
    else (hexPiece? last).map ([·])
  | p :: r => do return (← hexPiece? p) :: (← pieces? r)

/-- The texts before and after the first pair of colons. -/
def atPair? : List Char → Option (List Char × List Char)
  | ':' :: ':' :: r => some ([], r)
  | c :: r => (atPair? r).map fun (before, after) => (c :: before, after)
  | [] => none

def run? (cs : List Char) : Option (List UInt16) := if cs.isEmpty then some [] else pieces? (cs.splitOn ':')

/-- A pair of colons stands for as many zeros as are missing, at least one. -/
def ipv6? (cs : List Char) : Option Host :=
  match atPair? cs with
  | none => do
    let pieces ← run? cs
    if pieces.length = 8 then some (.ipv6 pieces) else none
  | some (before, after) => do
    if before.contains '.' then none
    let before ← run? before
    let after ← run? after
    let given := before.length + after.length
    if given < 8 then some (.ipv6 (before ++ List.replicate (8 - given) 0 ++ after)) else none

/-- Where the first of the longest runs of zeros starts, and its length. -/
def longestZeros : Nat → List UInt16 → Nat × Nat
  | _, [] => (0, 0)
  | i, p :: r =>
    let here := ((p :: r).takeWhile (· = 0)).length
    let best := longestZeros (i + 1) r
    if 0 < here && best.2 ≤ here then (i, here) else best

def joinPieces (pieces : List UInt16) : List Char :=
  [':'].intercalate (pieces.map fun p => Nat.toDigits 16 p.toNat)

def ipv6Text (pieces : List UInt16) : List Char :=
  let (start, length) := longestZeros 0 pieces
  if length < 2 then joinPieces pieces
  else joinPieces (pieces.take start) ++ ':' :: ':' :: joinPieces (pieces.drop (start + length))

/-! Names -/

/-- Characters that no name holds. -/
def isForbidden (c : Char) : Bool := ['#', '/', ':', '<', '>', '?', '@', '[', '\\', ']', '^', '|'].contains c || c == ' '

def isForbiddenInDomain (c : Char) : Bool := isForbidden c || c.toNat < 0x20 || c == '%' || c == '\x7f'

/-- The host of a special scheme: an address if it looks like one, and a name otherwise. -/
def domain? [NameRules] (cs : List Char) : Option Host :=
  match cs with
  | '[' :: r => if r.getLast? = some ']' then ipv6? r.dropLast else none
  | _ => do
    let name ← asciiName? (← String.fromUTF8? ⟨(percentDecode cs).toArray⟩)
    if name.isEmpty || name.any isForbiddenInDomain then none
    else if endsInNumber name then ipv4? name
    else some (.name (String.ofList name))

/-- The host of any other scheme is kept as it is. -/
def verbatim? (cs : List Char) : Option Host :=
  match cs with
  | '[' :: r => if r.getLast? = some ']' then ipv6? r.dropLast else none
  | _ =>
    if cs.any fun c => isForbidden c || c == '\x00' then none
    else some (.name (String.ofList (percentEncode escapedEverywhere cs)))

def toText : Host → String
  | .name text => text
  | .ipv4 address => String.ofList (ipv4Text address)
  | .ipv6 pieces => String.ofList ('[' :: ipv6Text pieces ++ [']'])

end Host
end MachineOperator.Url
