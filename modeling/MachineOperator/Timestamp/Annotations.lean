import MachineOperator.Timestamp.Basic

/-!
Annotations after an instant: a time zone, by its name or its offset, and then keys with values, each in brackets of its
own. They have to be well formed, and say nothing about the instant; a key that is marked as critical is refused, since
no key is known.
-/
namespace MachineOperator.Timestamp

def openingBracket : UInt8 := 91
def closingBracket : UInt8 := 93
def equals : UInt8 := 61
def slash : UInt8 := 47
def exclamation : UInt8 := 33

def isLower (b : UInt8) : Bool := 97 ≤ b && b ≤ 122

def isLetter (b : UInt8) : Bool := isLower b || (65 ≤ b && b ≤ 90)

/-- A kind of words: the bytes that one starts with, and those that it goes on with. -/
structure Word where
  expected : Expected
  starts : UInt8 → Bool
  continues : UInt8 → Bool

/-- Part of the name of a zone: letters, underscores and points, and later also digits and signs. -/
def zoneName : Word :=
  let starts := fun b => isLetter b || b == 95 || b == 46
  ⟨.name, starts, fun b => starts b || isDigit b || b == plus || b == dash⟩

def key : Word :=
  let starts := fun b => isLower b || b == 95
  ⟨.key, starts, fun b => starts b || isDigit b || b == dash⟩

/-- Part of a value. -/
def value : Word :=
  let alphanumeric := fun b => isLetter b || isDigit b
  ⟨.value, alphanumeric, alphanumeric⟩

/-- What is left after a word. -/
def pastWord (w : Word) : List UInt8 → Except Error (List UInt8)
  | [] => .error (.malformed w.expected none)
  | b :: r => if w.starts b then .ok (r.dropWhile w.continues) else .error (.malformed w.expected (some b))

/-- What is left after words with a mark between them, at the start of one or within it. -/
def pastWords (w : Word) (mark : UInt8) : (within : Bool) → List UInt8 → Except Error (List UInt8)
  | false, [] => .error (.malformed w.expected none)
  | false, b :: r => if w.starts b then pastWords w mark true r else .error (.malformed w.expected (some b))
  | true, [] => .ok []
  | true, b :: r =>
    if w.continues b then pastWords w mark true r
    else if b = mark then pastWords w mark false r
    else .ok (b :: r)

/-- What is left after a byte that has to stand there. -/
def pastByte (expected : Expected) (b : UInt8) : List UInt8 → Except Error (List UInt8)
  | [] => .error (.malformed expected none)
  | c :: r => if c = b then .ok r else .error (.malformed expected (some c))

def pastSeparator (bs : List UInt8) : Except Error (List UInt8) :=
  if bs.head? = some slash then .error .lateZone else pastByte .separator equals bs

/-- Whether an annotation is marked as critical, and what follows the mark. -/
def critical (bs : List UInt8) : Bool × List UInt8 :=
  if bs.head? = some exclamation then (true, bs.tail) else (false, bs)

/-- What is left after a time zone, if one stands there. A word that a value is given for is no zone. -/
def pastZone (bs : List UInt8) : Except Error (List UInt8) := do
  if bs.head? ≠ some openingBracket then return bs
  let (_, r) := critical bs.tail
  if r.head? = some plus || r.head? = some dash then
    let (_, r) ← readNumericOffset true (r.head? = some dash) r.tail
    pastByte .zoneBracket closingBracket r
  else
    let r ← pastWord zoneName r
    if r.head? = some equals then return bs
    pastByte .zoneBracket closingBracket (← pastWords zoneName slash true r)

/-- What is left after a key and its value, up to the closing bracket and past it. -/
def pastPair (bs : List UInt8) : Except Error (List UInt8) :=
  pastWord key bs >>= pastSeparator >>= pastWords value dash false >>= pastByte .bracket closingBracket

/-- What is left after an annotation that is no zone, past its opening bracket. -/
def pastKeyed (bs : List UInt8) : Except Error (List UInt8) := do
  let (isCritical, r) := critical bs
  let rest ← pastPair r
  if isCritical then throw .unknownCritical
  return rest

/-! What is left is the end of the text. -/

def Leaves (read : List UInt8 → Except Error (List UInt8)) : Prop := ∀ bs rest, read bs = .ok rest → rest <:+ bs

theorem Leaves.bind {read next : List UInt8 → Except Error (List UInt8)} (first : Leaves read) (later : Leaves next) :
    Leaves fun bs => read bs >>= next := by
  intro bs rest done
  cases between : read bs with
  | error e =>
    simp only [between] at done
    cases done
  | ok r =>
    simp only [between] at done
    exact (later r rest done).trans (first bs r between)

theorem pastWord_leaves (w : Word) : Leaves (pastWord w) := by
  intro bs rest done
  cases bs with
  | nil => cases done
  | cons b r =>
    rw [pastWord] at done
    split at done <;> cases done
    exact (List.dropWhile_suffix _).trans (List.suffix_cons b r)

theorem pastByte_leaves (expected : Expected) (b : UInt8) : Leaves (pastByte expected b) := by
  intro bs rest done
  cases bs with
  | nil => cases done
  | cons c r =>
    rw [pastByte] at done
    split at done <;> cases done
    exact List.suffix_cons c rest

theorem pastSeparator_leaves : Leaves pastSeparator := by
  intro bs rest done
  rw [pastSeparator] at done
  split at done
  · cases done
  · exact pastByte_leaves .separator equals bs rest done

theorem pastWords_leaves (w : Word) (mark : UInt8) (within : Bool) : Leaves (pastWords w mark within) := by
  intro bs
  induction bs generalizing within with
  | nil =>
    intro rest done
    cases within <;> cases done
    exact List.suffix_refl []
  | cons b r ih =>
    intro rest done
    cases within with
    | false =>
      rw [pastWords] at done
      split at done
      · exact (ih true rest done).trans (List.suffix_cons b r)
      · cases done
    | true =>
      rw [pastWords] at done
      split at done
      · exact (ih true rest done).trans (List.suffix_cons b r)
      · split at done
        · exact (ih false rest done).trans (List.suffix_cons b r)
        · cases done
          exact List.suffix_refl (b :: r)

theorem pastPair_leaves : Leaves pastPair :=
  (((pastWord_leaves key).bind pastSeparator_leaves).bind (pastWords_leaves value dash false)).bind
    (pastByte_leaves .bracket closingBracket)

theorem critical_leaves (bs : List UInt8) : (critical bs).2 <:+ bs := by
  rw [critical]
  split
  · exact List.tail_suffix bs
  · exact List.suffix_refl bs

theorem pastKeyed_leaves : Leaves pastKeyed := by
  intro bs rest done
  cases pair : pastPair (critical bs).2 with
  | error e =>
    simp only [pastKeyed, pair] at done
    cases done
  | ok r =>
    simp only [pastKeyed, pair] at done
    cases flag : (critical bs).1 <;> simp only [flag] at done <;> cases done
    exact (pastPair_leaves _ rest pair).trans (critical_leaves bs)

/-- What is left after annotations that are no zones. -/
def pastMore (bs : List UInt8) : Except Error (List UInt8) :=
  match bs with
  | [] => .ok []
  | b :: r =>
    if b = openingBracket then
      match _past : pastKeyed r with
      | .error e => .error e
      | .ok rest => pastMore rest
    else .ok (b :: r)
termination_by bs.length
decreasing_by exact Nat.lt_succ_of_le (pastKeyed_leaves r rest _past).length_le

/-- What is left after all annotations. A zone is the first of them. -/
def pastAnnotations (bs : List UInt8) : Except Error (List UInt8) := pastZone bs >>= pastMore

end MachineOperator.Timestamp
