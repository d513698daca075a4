import MachineOperator.Timestamp.Annotations

/-!
Reading and writing instants.
-/
namespace MachineOperator.Timestamp

def isTimeMark (b : UInt8) : Bool := b = 84 || b = 116 || b = 32

def ofParts (date : Date) (time : Nat × Nat) (offset : Offset) : Except Error Timestamp :=
  let seconds := date.days * 86400 + time.1 - offset.seconds
  if greatestOffset < offset.seconds.natAbs then .error .offsetRange
  else if leastSeconds ≤ seconds ∧ seconds ≤ greatestSeconds then .ok ⟨seconds, time.2⟩
  else .error (.overflow offset)

/-- Nothing may be left of a text. -/
def expectEnd (bs rest : List UInt8) : Except Error Unit :=
  if rest.isEmpty then .ok () else .error (.trailing (bs.take (bs.length - rest.length)) rest)

/-- A date, a time and an offset. Annotations may follow, also where the time is missing; they say nothing about the
instant. -/
def parse (s : String) : Except Error Timestamp := do
  let bs := s.toUTF8.toList
  let (date, r) ← readDate bs
  match r with
  | [] => throw .noTime
  | b :: rest =>
    if isTimeMark b then
      let (time, r) ← readTime rest
      let (offset, r) ← readOffset r
      expectEnd bs (← pastAnnotations r)
      match offset with
      | none => throw .noOffset
      | some offset => ofParts date time offset
    else
      expectEnd bs (← pastAnnotations (b :: rest))
      throw .noTime

def fourDigits (n : Nat) : String :=
  let digits := toString n
  String.ofList (List.replicate (4 - digits.length) '0') ++ digits

/-- In universal time, to the second. -/
def render (t : Timestamp) : String :=
  let date := Date.ofDays (t.seconds / 86400)
  let time := (t.seconds % 86400).toNat
  (if date.year < 0 then "-" else "") ++ fourDigits date.year.natAbs ++ "-" ++ twoDigits date.month ++ "-" ++
    twoDigits date.day ++ "T" ++ twoDigits (time / 3600) ++ ":" ++ twoDigits (time / 60 % 60) ++ ":" ++
    twoDigits (time % 60) ++ "Z"

end MachineOperator.Timestamp
