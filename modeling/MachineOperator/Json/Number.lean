import MachineOperator.Json.Lexical

/-!
Numbers. One is an integer if it is written as one and has no more than 64 bits, and otherwise a floating point
number made of its first digits and a power of ten, each rounded.
-/
namespace MachineOperator.Json

/-- Past digits. -/
def skipDigits (rest : List UInt8) : List UInt8 := rest.dropWhile isDigit

def isExponentMark (b : UInt8) : Bool := b = ascii 'e' || b = ascii 'E'

def isSign (b : UInt8) : Bool := b = ascii '+' || b = ascii '-'

/-- Past an exponent, at its mark. -/
def skipExponent (rest : List UInt8) : Except Fault (List UInt8) :=
  let r := rest.drop 1
  let r := if (r.head?.map isSign).getD false then r.drop 1 else r
  match r with
  | [] => fail .number []
  | b :: r => if isDigit b then .ok (skipDigits r) else fail .number r

/-- Past what may follow the digits of a whole number. -/
def skipFraction (rest : List UInt8) : Except Fault (List UInt8) :=
  match rest with
  | [] => .ok []
  | b :: r =>
    if b = ascii '.' then
      let after := skipDigits r
      if after.length = r.length then failNext .number r
      else if (after.head?.map isExponentMark).getD false then skipExponent after
      else .ok after
    else if isExponentMark b then skipExponent rest
    else .ok rest

/-- Past a number, at its first digit. -/
def skipNumber : List UInt8 → Except Fault (List UInt8)
  | [] => fail .number []
  | b :: r =>
    if b = ascii '0' then
      if (r.head?.map isDigit).getD false then failNext .number r else skipFraction r
    else if isDigit b then skipFraction (skipDigits r)
    else fail .number r

def greatestWord : Nat := 0xffffffffffffffff

/-- Digits as long as the number they make has 64 bits: the number, how many there were, and the rest. -/
def takeWord : Nat → Nat → List UInt8 → Nat × Nat × List UInt8
  | n, count, [] => (n, count, [])
  | n, count, b :: r =>
    if isDigit b && n * 10 + (b.toNat - 48) ≤ greatestWord then takeWord (n * 10 + (b.toNat - 48)) (count + 1) r
    else (n, count, b :: r)

def power (n : Nat) : Binary64 := .ofDecimal false 1 n

/-- A number times a power of ten, in steps of at most 308 places. -/
def scaled : Nat → Binary64 → Int → Option Binary64
  | 0, x, _ => some x
  | steps + 1, x, exponent =>
    if exponent.natAbs ≤ 308 then
      let y := if 0 ≤ exponent then x.mul (power exponent.toNat) else x.div (power exponent.natAbs)
      if y.isFinite then some y else none
    else if x.ratio.1 = 0 then some x
    else if 0 ≤ exponent then none
    else scaled steps (x.div (power 308)) (exponent + 308)

def negate (negative : Bool) : Binary64 → Binary64
  | .finite n m e => .finite (n != negative) m e
  | x => x

def makeFloat (negative : Bool) (significand : Nat) (exponent : Int) (rest : List UInt8) : Read Found :=
  match scaled 5 (.ofRatio false significand 1) exponent with
  | some x => .ok (.float (negate negative x), rest)
  | none => fail .hugeNumber rest

/-- Exponents that no number has are far beyond this. -/
def greatestExponent : Nat := 0x7fffffff

/-- The digits of an exponent: its value, or nothing when it is beyond all bounds, and the rest. -/
def takeExponent : Nat → List UInt8 → Option Nat × List UInt8
  | n, [] => (some n, [])
  | n, b :: r =>
    if isDigit b then
      if n * 10 + (b.toNat - 48) ≤ greatestExponent then takeExponent (n * 10 + (b.toNat - 48)) r else (none, r)
    else (some n, b :: r)

def readExponent (negative : Bool) (significand : Nat) (exponent : Int) (rest : List UInt8) : Read Found :=
  let r := rest.drop 1
  let below := r.head? == some (ascii '-')
  let r := if (r.head?.map isSign).getD false then r.drop 1 else r
  match r with
  | [] => fail .endInValue []
  | b :: r' =>
    if !isDigit b then fail .number r'
    else
      match takeExponent 0 r with
      | (some e, rest) => makeFloat negative significand (if below then exponent - e else exponent + e) rest
      | (none, rest) =>
        if significand ≠ 0 && !below then fail .hugeNumber rest
        else .ok (.float (.zero negative), skipDigits rest)

/-- The digits after a point. Those that do not fit into 64 bits are passed over. -/
def readFraction (negative : Bool) (significand : Nat) (exponent : Int) (rest : List UInt8) : Read Found :=
  let r := rest.drop 1
  let (significand, count, after) := takeWord significand 0 r
  let overflows := (after.head?.map isDigit).getD false
  let after := skipDigits after
  if count = 0 && !overflows then
    if r.isEmpty then fail .endInValue [] else failNext .number r
  else
    let exponent := exponent - count
    if (after.head?.map isExponentMark).getD false then readExponent negative significand exponent after
    else makeFloat negative significand exponent after

/-- What follows the digits of a whole number decides what number it is. -/
def readTail (negative : Bool) (significand : Nat) (dropped : Nat) (rest : List UInt8) : Read Found :=
  let next := rest.head?.getD 0
  if next = ascii '.' then readFraction negative significand dropped rest
  else if isExponentMark next then readExponent negative significand dropped rest
  else if dropped ≠ 0 then makeFloat negative significand dropped rest
  else if !negative then .ok (.integer significand, rest)
  else if significand = 0 || 0x8000000000000000 < significand then .ok (.float (.ofRatio true significand 1), rest)
  else .ok (.integer (-(significand : Int)), rest)

/-- A number at its first digit. -/
def readNumber (negative : Bool) : List UInt8 → Read Found
  | [] => fail .endInValue []
  | b :: r =>
    if b = ascii '0' then
      if (r.head?.map isDigit).getD false then failNext .number r else readTail negative 0 0 r
    else if isDigit b then
      let (significand, _, after) := takeWord 0 0 (b :: r)
      let rest := skipDigits after
      readTail negative significand (after.length - rest.length) rest
    else fail .number r

end MachineOperator.Json
