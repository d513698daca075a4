import MachineOperator.Binary64
import MachineOperator.Width
import MachineOperator.Yaml.Cursor

/-!
What the text of a plain scalar stands for when its type is not known: null, a boolean, a number, or itself.
-/
namespace MachineOperator.Yaml

namespace Plain

def isNull (s : String) : Bool := s == "null" || s == "Null" || s == "NULL" || s == "~"

def bool? (s : String) : Option Bool :=
  if s = "true" || s = "True" || s = "TRUE" then some true
  else if s = "false" || s = "False" || s = "FALSE" then some false
  else none

/-- The value of a digit in a base up to 16. -/
def digit? (base : Nat) (c : Char) : Option Nat :=
  (hexDigit? c).filter (· < base)

def digitsFrom (base : Nat) : Nat → List Char → Option Nat
  | n, [] => some n
  | n, c :: r => (digit? base c).bind fun d => digitsFrom base (n * base + d) r

/-- A number of at least one digit. -/
def digits? (base : Nat) : List Char → Option Nat
  | [] => none
  | cs => digitsFrom base 0 cs

/-- The base that a number is marked with, and its digits. -/
def marked? : List Char → Option (Nat × List Char)
  | '0' :: 'x' :: r => some (16, r)
  | '0' :: 'o' :: r => some (8, r)
  | '0' :: 'b' :: r => some (2, r)
  | _ => none

/-- A number with leading zeros is text. -/
def hasLeadingZero : List Char → Bool
  | '0' :: d :: r => (d :: r).all isDecDigit
  | _ => false

def unsigned : List Char → List Char
  | '-' :: r => r
  | '+' :: r => r
  | cs => cs

def isSigned : List Char → Bool
  | '-' :: _ => true
  | '+' :: _ => true
  | _ => false

/-- Digits in a marked base, or in base ten without a leading zero. -/
def magnitude? (cs : List Char) : Option Nat :=
  match (marked? cs).bind fun (base, r) => digits? base r with
  | some n => some n
  | none => if hasLeadingZero cs then none else digits? 10 cs

def integer? (s : String) : Option Int :=
  match s.toList with
  | '-' :: r => (magnitude? r).map fun n => -(n : Int)
  | '+' :: r => (magnitude? r).map fun n => (n : Int)
  | cs => (magnitude? cs).map fun n => (n : Int)

/-- Digits and the number of them. -/
def fraction (cs : List Char) : List Char × List Char := (cs.takeWhile isDecDigit, cs.dropWhile isDecDigit)

def decimalValue (cs : List Char) : Nat := cs.foldl (fun n c => n * 10 + (c.toNat - '0'.toNat)) 0

/-- An exponent mark, an optional sign and digits, or nothing. -/
def exponent? : List Char → Option Int
  | [] => some 0
  | c :: r =>
    if c == 'e' || c == 'E' then
      let negative := r.head? == some '-'
      (digits? 10 (unsigned r)).map fun n => if negative then -(n : Int) else n
    else none

/-- A decimal number: digits with a point somewhere or none, and an exponent or none. -/
def decimal? (cs : List Char) : Option (Nat × Int) :=
  let (whole, r) := fraction cs
  let (part, r) := match r with
    | '.' :: r => fraction r
    | r => ([], r)
  if whole.isEmpty && part.isEmpty then none
  else (exponent? r).map fun e => (decimalValue (whole ++ part), e - part.length)

/-- A decimal number that is not too large, or one of the words for infinities and for no number. -/
def float? (s : String) : Option Binary64 :=
  let cs := s.toList
  let plus := cs.head? == some '+'
  let body := if plus then cs.tail else cs
  if plus && isSigned body then none
  else if [".inf", ".Inf", ".INF"].contains (String.ofList body) then some (.infinite false)
  else if ["-.inf", "-.Inf", "-.INF"].contains s then some (.infinite true)
  else if [".nan", ".NaN", ".NAN"].contains s then some .nan
  else
    (decimal? (unsigned body)).bind fun (n, e) =>
      let x := Binary64.ofDecimal (body.head? == some '-') n e
      if x.isFinite then some x else none

end Plain

/-- A scalar by its meaning. -/
inductive Resolved where
  | null
  | bool (b : Bool)
  | int (n : Int)
  | float (x : Binary64)
  | string (s : String)
deriving DecidableEq

/-- The number a plain text stands for, if it stands for one. -/
def Plain.number? (s : String) : Option Resolved :=
  match (integer? s).filter Width.fits128 with
  | some n => some (.int n)
  | none => if hasLeadingZero (unsigned s.toList) then none else (float? s).map .float

def resolvePlain (s : String) : Resolved :=
  if s.isEmpty || Plain.isNull s then .null
  else
    match Plain.bool? s with
    | some b => .bool b
    | none => (Plain.number? s).getD (.string s)

end MachineOperator.Yaml
