/-!
Instants, and the parts that they are written in: a date, a time of day and an offset from universal time. An instant
is the seconds since 1970 and the nanoseconds after them.
-/
namespace MachineOperator

structure Timestamp where
  seconds : Int
  nanoseconds : Nat
deriving DecidableEq

namespace Timestamp

/-- The parts of a date, a time and an offset. -/
inductive Part where
  | year | month | day | hour | minute | second
  | offsetHours | offsetMinutes | offsetSeconds | unixSeconds
deriving DecidableEq

def Part.name : Part → String
  | .year => "year"
  | .month => "month"
  | .day => "day"
  | .hour => "hour"
  | .minute => "minute"
  | .second => "second"
  | .offsetHours => "time zone offset hours"
  | .offsetMinutes => "time zone offset minutes"
  | .offsetSeconds => "time zone offset seconds"
  | .unixSeconds => "Unix timestamp seconds"

/-- An offset from universal time, in seconds. -/
structure Offset where
  seconds : Int
deriving DecidableEq

/-- What an annotation has to go on with. -/
inductive Expected where
  | name
  | key
  | separator
  | value
  | bracket
  | zoneBracket
deriving DecidableEq

inductive Error where
  | digits (part : Part) (size : String) (byte : UInt8)
  | range (part : Part) (size : String) (low high : Int)
  | ended (part : Part) (size : String)
  | negativeYearZero
  | separator (found : Option UInt8)
  | unexpectedSeparator
  | day (last : Int)
  | fraction
  /-- Seconds in an offset that stands for a zone. -/
  | zoneSeconds
  | malformed (expected : Expected) (found : Option UInt8)
  /-- A zone after another annotation. -/
  | lateZone
  | unknownCritical
  | trailing (parsed rest : List UInt8)
  | noTime
  | noOffset
  | offsetRange
  | overflow (offset : Offset)
deriving DecidableEq

def leastSeconds : Int := -377705023201
def greatestSeconds : Int := 253402207200

/-- The greatest offset, in either direction. -/
def greatestOffset : Nat := 93599

def twoDigits (n : Nat) : String := (if n < 10 then "0" else "") ++ toString n

def Offset.describe (o : Offset) : String :=
  let n := o.seconds.natAbs
  let (h, m, s) := (n / 3600, n / 60 % 60, n % 60)
  (if o.seconds < 0 then "-" else "+") ++ twoDigits h ++
    (if m = 0 ∧ s = 0 then "" else ":" ++ twoDigits m) ++ (if s = 0 then "" else ":" ++ twoDigits s)

def describeByte (b : UInt8) : String :=
  let hex := fun (n : Nat) => Char.ofNat (if n < 10 then 48 + n else 55 + n)
  if b = 9 then "\\t" else if b = 10 then "\\n" else if b = 13 then "\\r"
  else if b = 92 then "\\\\" else if b = 34 then "\\\"" else if b = 39 then "\\'"
  else if 32 ≤ b ∧ b < 127 then String.ofList [Char.ofNat b.toNat]
  else String.ofList ['\\', 'x', hex (b.toNat / 16), hex (b.toNat % 16)]

def describeBytes (bs : List UInt8) : String := String.join (bs.map describeByte)

def rangeMessage (part : Part) (low high : Int) : String :=
  s!"parameter '{part.name}' is not in the required range of {low}..={high}"

def Expected.describe : Expected → String
  | .name => "the start of an RFC 9557 annotation or IANA time zone component name"
  | .key => "the start of an RFC 9557 annotation key"
  | .separator => "an `=` after parsing an RFC 9557 annotation key"
  | .value => "the start of an RFC 9557 annotation value"
  | .bracket => "an `]` after parsing an RFC 9557 annotation key and value"
  | .zoneBracket => "an `]` after parsing an RFC 9557 time zone annotation"

/-- As above, where another byte stands. -/
def Expected.describeBytes : Expected → String
  | .name =>
    "ASCII alphabetic byte (or underscore or period) at the start of an RFC 9557 annotation or time zone component name"
  | .key => "lowercase alphabetic byte (or underscore) at the start of an RFC 9557 annotation key"
  | .value => "alphanumeric ASCII byte at the start of an RFC 9557 annotation value"
  | expected => expected.describe

def Error.message : Error → String
  | .digits part size byte =>
    s!"failed to parse {size} digit integer as {part.name}: invalid digit, expected 0-9 but got {describeByte byte}"
  | .range part size low high => s!"failed to parse {size} digit integer as {part.name}: " ++ rangeMessage part low high
  | .ended .year "four" =>
    "expected four digit year (or leading sign for six digit year), but found end of input"
  | .ended .year _ => "expected six digit year (because of a leading sign), but found end of input"
  | .ended part size => s!"expected {size} digit {part.name}, but found end of input"
  | .negativeYearZero => "year zero must be written without a sign or a positive sign, but not a negative sign"
  | .separator none => "expected `-` separator, but found end of input"
  | .separator (some b) => "expected `-` separator, but found `" ++ describeByte b ++ "`"
  | .unexpectedSeparator => "expected no separator since none was found after the year, but found a `-` separator"
  | .day last => "parsed date is not valid: " ++ rangeMessage .day 1 last
  | .fraction => "found decimal after seconds component, but did not find any decimal digits after decimal"
  | .zoneSeconds =>
    "subminute precision for UTC numeric offset is not enabled in this context (must provide only integral minutes)"
  | .malformed expected none => "expected " ++ expected.describe ++ ", but found end of input"
  | .malformed expected (some b) =>
    "expected " ++ expected.describeBytes ++ ", but found `" ++ describeByte b ++ "` instead"
  | .lateZone =>
    "expected an `=` after parsing an RFC 9557 annotation key, but found `/` instead " ++
      "(time zone annotations must come first)"
  | .unknownCritical => "found unsupported RFC 9557 annotation with the critical flag (`!`) set"
  | .trailing parsed rest =>
    s!"parsed value '{describeBytes parsed}', but unparsed input \"{describeBytes rest}\" remains " ++
      "(expected no unparsed input)"
  | .noTime => "failed to find time component, which is required for parsing a timestamp"
  | .noOffset => "failed to find offset component, which is required for parsing a timestamp"
  | .offsetRange => "due to precision loss, offset is rounded to a value that is out of bounds"
  | .overflow offset =>
    s!"failed to convert civil datetime to timestamp with offset {offset.describe}: " ++
      "converting datetime with time zone offset `" ++ offset.describe ++ "` to timestamp overflowed: " ++
      rangeMessage .unixSeconds leastSeconds greatestSeconds

def isDigit (b : UInt8) : Bool := 48 ≤ b && b ≤ 57

def valueOf (bs : List UInt8) : Nat := bs.foldl (fun n b => n * 10 + (b.toNat - 48)) 0

/-- A number of exactly so many digits within a range. -/
def number (part : Part) (size : String) (count : Nat) (low high : Int) (bs : List UInt8) :
    Except Error (Nat × List UInt8) :=
  let ds := bs.take count
  if ds.length < count then .error (.ended part size)
  else
    match ds.find? (!isDigit ·) with
    | some b => .error (.digits part size b)
    | none =>
      let n := valueOf ds
      if low ≤ n ∧ (n : Int) ≤ high then .ok (n, bs.drop count) else .error (.range part size low high)

structure Date where
  year : Int
  month : Nat
  day : Nat

def isLeapYear (y : Int) : Bool := y % 4 = 0 && (y % 100 ≠ 0 || y % 400 = 0)

def daysInMonth (y : Int) (m : Nat) : Nat :=
  if m = 2 then (if isLeapYear y then 29 else 28)
  else if m = 4 || m = 6 || m = 9 || m = 11 then 30 else 31

/-- Days since 1970-01-01. Years are counted from March, so that a leap day is the last of its year. -/
def Date.days (d : Date) : Int :=
  let y := if d.month ≤ 2 then d.year - 1 else d.year
  let era := y / 400
  let yearOfEra := y - era * 400
  let dayOfYear := (153 * ((d.month + 9) % 12) + 2) / 5 + d.day - 1
  era * 146097 + (yearOfEra * 365 + yearOfEra / 4 - yearOfEra / 100 + dayOfYear) - 719468

/-- The date so many days after 1970-01-01. -/
def Date.ofDays (n : Int) : Date :=
  let z := n + 719468
  let era := z / 146097
  let dayOfEra := z - era * 146097
  let yearOfEra := (dayOfEra - dayOfEra / 1460 + dayOfEra / 36524 - dayOfEra / 146096) / 365
  let dayOfYear := (dayOfEra - (365 * yearOfEra + yearOfEra / 4 - yearOfEra / 100)).toNat
  let m := (5 * dayOfYear + 2) / 153
  let month := if m < 10 then m + 3 else m - 9
  ⟨yearOfEra + era * 400 + (if month ≤ 2 then 1 else 0), month, dayOfYear - (153 * m + 2) / 5 + 1⟩

def dash : UInt8 := 45
def plus : UInt8 := 43
def colon : UInt8 := 58

def readYear (bs : List UInt8) : Except Error (Int × List UInt8) :=
  match bs with
  | b :: r =>
    if b = dash || b = plus then do
      let (y, r) ← number .year "six" 6 (-9999) 9999 r
      if b = dash && y = 0 then throw .negativeYearZero
      return (if b = dash then -(y : Int) else y, r)
    else do
      let (y, r) ← number .year "four" 4 (-9999) 9999 bs
      return (y, r)
  | [] => .error (.ended .year "four")

/-- Either both places between the parts of a date have a dash or none has. -/
def readSeparator (extended : Bool) (bs : List UInt8) : Except Error (List UInt8) :=
  match bs with
  | b :: r =>
    if extended then (if b = dash then .ok r else .error (.separator (some b)))
    else if b = dash then .error .unexpectedSeparator
    else .ok bs
  | [] => if extended then .error (.separator none) else .ok []

def readDate (bs : List UInt8) : Except Error (Date × List UInt8) := do
  let (year, r) ← readYear bs
  let extended := r.head? == some dash
  let r ← readSeparator extended r
  let (month, r) ← number .month "two" 2 1 12 r
  let r ← readSeparator extended r
  let (day, r) ← number .day "two" 2 1 31 r
  let last := daysInMonth year month
  if last < day then throw (.day last)
  return (⟨year, month, day⟩, r)

/-- A fraction of a second, of nine digits at most, in nanoseconds. -/
def readFraction (bs : List UInt8) : Except Error (Nat × List UInt8) :=
  match bs with
  | b :: r =>
    if b = 46 || b = 44 then
      let ds := (r.take 9).takeWhile isDigit
      if ds.isEmpty then .error .fraction
      else .ok (valueOf ds * Nat.pow 10 (9 - ds.length), r.drop ds.length)
    else .ok (0, bs)
  | [] => .ok (0, [])

/-- Whether a further part of a time follows, and what is left after its separator. -/
def nextPart (extended : Bool) (bs : List UInt8) : Option (List UInt8) :=
  match bs with
  | b :: r => if extended then (if b = colon then some r else none) else if isDigit b then some bs else none
  | [] => none

/-- The seconds since midnight and the nanoseconds after them. A leap second counts as the one before it. -/
def readTime (bs : List UInt8) : Except Error ((Nat × Nat) × List UInt8) := do
  let (hour, r) ← number .hour "two" 2 0 23 bs
  let extended := r.head? == some colon
  match nextPart extended r with
  | none => return ((hour * 3600, 0), r)
  | some r =>
    let (minute, r) ← number .minute "two" 2 0 59 r
    match nextPart extended r with
    | none => return ((hour * 3600 + minute * 60, 0), r)
    | some r =>
      let (second, r) ← number .second "two" 2 0 60 r
      let (nanoseconds, r) ← readFraction r
      return ((hour * 3600 + minute * 60 + min second 59, nanoseconds), r)

/-- An offset to the second, to which a fraction of one is rounded; one that stands for a zone is to the minute. -/
def readNumericOffset (forZone negative : Bool) (bs : List UInt8) : Except Error (Offset × List UInt8) := do
  let sign : Int := if negative then -1 else 1
  let (hours, r) ← number .offsetHours "two" 2 0 25 bs
  let extended := r.head? == some colon
  match nextPart extended r with
  | none => return (⟨sign * (hours * 3600)⟩, r)
  | some r =>
    let (minutes, r) ← number .offsetMinutes "two" 2 0 59 r
    let toTheMinute : Offset := ⟨sign * (hours * 3600 + minutes * 60)⟩
    if forZone then
      if r.head? = some colon then throw .zoneSeconds
      return (toTheMinute, r)
    match nextPart extended r with
    | none => return (toTheMinute, r)
    | some r =>
      let (seconds, r) ← number .offsetSeconds "two" 2 0 59 r
      let (nanoseconds, r) ← readFraction r
      let rounded := if 500000000 ≤ nanoseconds then seconds + 1 else seconds
      return (⟨sign * (hours * 3600 + minutes * 60 + rounded)⟩, r)

def readOffset (bs : List UInt8) : Except Error (Option Offset × List UInt8) :=
  match bs with
  | b :: r =>
    if b = 90 || b = 122 then .ok (some ⟨0⟩, r)
    else if b = dash || b = plus then do
      let (offset, r) ← readNumericOffset false (b = dash) r
      return (some offset, r)
    else .ok (none, bs)
  | [] => .ok (none, [])

end Timestamp
end MachineOperator
