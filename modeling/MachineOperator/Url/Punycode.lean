import MachineOperator.Url.Name

/-!
Punycode: a label beyond ASCII as one of letters, digits and hyphens. Its ASCII characters come first; the others
follow, in increasing order, each as the number of steps from the one before. This is the part of the rules of names that
takes no tables.
-/
namespace MachineOperator.Url

namespace Punycode

def digit (n : Nat) : Char := Char.ofNat (if n < 26 then 97 + n else 22 + n)

/-- What a digit has to reach for another one to follow. -/
def threshold (place bias : Nat) : Nat :=
  if place ≤ bias then 1 else if bias + 26 ≤ place then 26 else place - bias

theorem threshold_pos (place bias : Nat) : 1 ≤ threshold place bias := by
  unfold threshold
  split
  · exact Nat.le_refl 1
  · split <;> omega

/-- A number in digits of growing weight. -/
def digits (bias place n : Nat) : List Char :=
  let t := threshold place bias
  if n < t then [digit n]
  else digit (t + (n - t) % (36 - t)) :: digits bias (place + 36) ((n - t) / (36 - t))
termination_by n
decreasing_by
  have := threshold_pos place bias
  exact Nat.lt_of_le_of_lt (Nat.div_le_self _ _) (by omega)

def damp (delta place : Nat) : Nat × Nat :=
  if 455 < delta then damp (delta / 35) (place + 36) else (delta, place)
termination_by delta
decreasing_by exact Nat.div_lt_self (by omega) (by decide)

/-- The bias after a number of steps, when so many characters are written. -/
def adapt (first : Bool) (delta written : Nat) : Nat :=
  let delta := if first then delta / 700 else delta / 2
  let (delta, place) := damp (delta + delta / written) 0
  place + 36 * delta / (delta + 38)

structure State where
  written : List Char
  delta : Nat
  bias : Nat
  count : Nat

/-- Passes one character of the label while writing those of number `n`; `plain` of them were ASCII. -/
def pass (plain n : Nat) (s : State) (c : Char) : State :=
  if c.toNat < n then { s with delta := s.delta + 1 }
  else if c.toNat = n then
    { written := s.written ++ digits s.bias 36 s.delta
      delta := 0
      bias := adapt (s.count = plain) s.delta (s.count + 1)
      count := s.count + 1 }
  else s

/-- Writes the characters of these numbers, which increase from `n` on. -/
def writeFrom (label : List Char) (plain : Nat) : Nat → List Nat → State → State
  | _, [], s => s
  | n, m :: more, s =>
    let s := { s with delta := s.delta + (m - n) * (s.count + 1) }
    let s := label.foldl (pass plain m) s
    writeFrom label plain (m + 1) more { s with delta := s.delta + 1 }

def insertNumber (n : Nat) : List Nat → List Nat
  | [] => [n]
  | m :: r => if n < m then n :: m :: r else if n = m then m :: r else m :: insertNumber n r

def encode (label : List Char) : List Char :=
  let plain := label.filter isAscii
  let others := (label.filter (!isAscii ·)).foldr (fun c ns => insertNumber c.toNat ns) []
  let start := if plain.isEmpty then [] else plain ++ ['-']
  (writeFrom label plain.length 128 others ⟨start, 0, 72, plain.length⟩).written

/-- A label in ASCII and, as far as it was so before, in lower case. -/
def asciiLabel (cs : List Char) : List Char :=
  let cs := cs.map Char.toLower
  if cs.all isAscii then cs else encodedMark ++ encode cs

end Punycode

/-- The rules without tables. They are right for names whose characters beyond ASCII are all mapped to themselves, as small
letters in composed form are. Not covered are characters that are mapped to others, such as capitals, wide forms and
ideographic full stops; characters that may not stand in a name; and labels that are given in punycode, which are put in
lower case and not checked. -/
instance NameRules.withoutTables : NameRules where
  ascii? text := some (String.ofList (['.'].intercalate ((text.toList.splitOn '.').map Punycode.asciiLabel)))

end MachineOperator.Url
