import MachineOperator.Binary64

/-!
The shortest decimal that reads back as a number, and the two ways of writing it: always with every place
written out, or with an exponent where that would take many zeros.
-/
namespace MachineOperator.Binary64

/-- A decimal, `digits * 10 ^ exponent`. -/
structure Decimal where
  digits : Nat
  exponent : Int

/-- The reals that round to a positive number, as numerators over one denominator: the least, the number itself
and the greatest. The ends belong to them when the mantissa is even. -/
structure Interval where
  low : Nat
  value : Nat
  high : Nat
  den : Nat
  closed : Bool

def interval (mantissa : Nat) (exponent : Int) : Interval :=
  let narrow := mantissa = mantissaBound / 2 ∧ leastExponent < exponent
  let (unit, den) := scale 1 4 exponent
  ⟨unit * (4 * mantissa - if narrow then 1 else 2), unit * (4 * mantissa), unit * (4 * mantissa + 2), den, mantissa % 2 = 0⟩

/-- The position of the first digit of a positive ratio that is not below `10 ^ -400`. -/
def leadingPlace (num den : Nat) : Int :=
  (digitCount (num * Nat.pow 10 400 / den) : Int) - 401

/-- The candidate on the grid of `10 ^ place` that is nearest to the number, if one lies in the interval. -/
def candidate? (i : Interval) (place : Int) : Option Nat :=
  let (up, down) : Nat × Nat := if 0 ≤ place then (Nat.pow 10 place.toNat, 1) else (1, Nat.pow 10 (-place).toNat)
  let inside := fun n =>
    let x := n * up * i.den
    if i.closed then i.low * down ≤ x ∧ x ≤ i.high * down else i.low * down < x ∧ x < i.high * down
  let below := i.value * down / (up * i.den)
  let above := below + 1
  let distanceBelow := i.value * down - below * up * i.den
  let distanceAbove := above * up * i.den - i.value * down
  if inside below ∧ (¬ inside above ∨ distanceBelow ≤ distanceAbove) then some below
  else if inside above then some above
  else none

/-- Seventeen digits are always enough. -/
def shortestFrom (i : Interval) (lead : Int) : Nat → Decimal
  | 0 => ⟨0, 0⟩
  | n + 1 =>
    let place := lead - (16 - n)
    match candidate? i place with
    | some digits => ⟨digits, place⟩
    | none => shortestFrom i lead n

def trim : Nat → Decimal → Decimal
  | 0, d => d
  | n + 1, d => if d.digits % 10 = 0 ∧ d.digits ≠ 0 then trim n ⟨d.digits / 10, d.exponent + 1⟩ else d

/-- The decimal with the fewest digits that reads back as this positive number. -/
def shortest (mantissa : Nat) (exponent : Int) : Decimal :=
  if mantissa = 0 then ⟨0, 0⟩
  else
    let i := interval mantissa exponent
    trim 20 (shortestFrom i (leadingPlace i.value i.den) 17)

def zeros (n : Nat) : String := String.ofList (List.replicate n '0')

/-- Digits with a point `places` digits from their right end. -/
def withPoint (digits : String) (places : Nat) : String :=
  let whole := digits.length - places
  if whole = 0 then "0." ++ zeros (places - digits.length) ++ digits
  else String.ofList (digits.toList.take whole) ++ "." ++ String.ofList (digits.toList.drop whole)

def sign (negative : Bool) : String := if negative then "-" else ""

/-- Every place written out, and at least one after the point. -/
def positional : Binary64 → String
  | .nan => "NaN"
  | .infinite negative => sign negative ++ "inf"
  | .finite negative m e =>
    let d := shortest m e
    let digits := toString d.digits
    sign negative ++
      if 0 ≤ d.exponent then digits ++ zeros d.exponent.toNat ++ ".0" else withPoint digits (-d.exponent).toNat

/-- Written out from `1e-5` to below `1e16`, and with an exponent elsewhere. -/
def compact : Binary64 → String
  | .nan => ".nan"
  | .infinite negative => sign negative ++ ".inf"
  | .finite negative m e =>
    let d := shortest m e
    let digits := toString d.digits
    let point : Int := digits.length + d.exponent
    sign negative ++
      if d.digits = 0 then "0.0"
      else if 0 ≤ d.exponent ∧ point ≤ 16 then digits ++ zeros d.exponent.toNat ++ ".0"
      else if -5 < point ∧ point ≤ 16 then withPoint digits (-d.exponent).toNat
      else
        let scaled := if digits.length = 1 then digits else withPoint digits (digits.length - 1)
        scaled ++ "e" ++ toString (point - 1)

end MachineOperator.Binary64
