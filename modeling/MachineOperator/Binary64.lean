/-!
Binary floating point numbers of 64 bits, as exact values: a finite number is a natural number times a
power of two. Rounding is to the nearest such number, and between two nearest ones to the even one.
-/
namespace MachineOperator

inductive Binary64 where
  /-- The number `mantissa * 2 ^ exponent`, negated if `negative`. -/
  | finite (negative : Bool) (mantissa : Nat) (exponent : Int)
  | infinite (negative : Bool)
  | nan
deriving DecidableEq

namespace Binary64

/-- The least exponent. -/
def leastExponent : Int := -1074

/-- Mantissas stay below `2 ^ 53`. -/
def mantissaBound : Nat := 0x20000000000000

def zero (negative : Bool) : Binary64 := .finite negative 0 leastExponent

/-- A ratio scaled by a power of two, as numerator and denominator. -/
def scale (num den : Nat) (shift : Int) : Nat × Nat :=
  if 0 ≤ shift then (num * Nat.pow 2 shift.toNat, den) else (num, den * Nat.pow 2 (-shift).toNat)

/-- The quotient rounded to the nearest natural number, ties to even. -/
def roundDiv (num den : Nat) : Nat :=
  let q := num / den
  let twice := 2 * (num % den)
  if twice < den || (twice == den && q % 2 == 0) then q else q + 1

/-- The exponent at which a positive ratio has 53 binary digits before its point, or the least one. -/
def exponentOf (num den : Nat) : Int :=
  let guess : Int := (num.log2 : Int) - den.log2 - 53
  let fits := fun (e : Int) =>
    let (n, d) := scale num den (-e)
    decide (n < d * mantissaBound)
  max leastExponent (if fits guess then guess else if fits (guess + 1) then guess + 1 else guess + 2)

/-- The number nearest to a ratio with a positive denominator. -/
def ofRatio (negative : Bool) (num den : Nat) : Binary64 :=
  if num = 0 then zero negative
  else
    let e := exponentOf num den
    let (n, d) := scale num den (-e)
    let m := roundDiv n d
    let (m, e) := if m = mantissaBound then (mantissaBound / 2, e + 1) else (m, e)
    if 971 < e then .infinite negative else .finite negative m e

/-- How many decimal digits a number has. -/
def digitCount (n : Nat) : Nat := (Nat.toDigits 10 n).length

/-- The number nearest to `digits * 10 ^ exponent`. -/
def ofDecimal (negative : Bool) (digits : Nat) (exponent : Int) : Binary64 :=
  let magnitude := (digitCount digits : Int) + exponent
  if digits = 0 || magnitude < -400 then zero negative
  else if 400 < magnitude then .infinite negative
  else if 0 ≤ exponent then ofRatio negative (digits * Nat.pow 10 exponent.toNat) 1
  else ofRatio negative digits (Nat.pow 10 (-exponent).toNat)

def isFinite : Binary64 → Bool
  | .finite .. => true
  | _ => false

def isNegative : Binary64 → Bool
  | .finite n .. => n
  | .infinite n => n
  | .nan => false

/-- The magnitude of a finite number as a ratio. -/
def ratio : Binary64 → Nat × Nat
  | .finite _ m e => scale m 1 e
  | _ => (0, 1)

/-- The product and the quotient of finite numbers, rounded. -/
def mul (a b : Binary64) : Binary64 :=
  let (n, d) := a.ratio
  let (n', d') := b.ratio
  ofRatio (a.isNegative != b.isNegative) (n * n') (d * d')

def div (a b : Binary64) : Binary64 :=
  let (n, d) := a.ratio
  let (n', d') := b.ratio
  ofRatio (a.isNegative != b.isNegative) (n * d') (d * n')

end Binary64
end MachineOperator
