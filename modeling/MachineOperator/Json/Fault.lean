import MachineOperator.Binary64.Shortest
import MachineOperator.Text.Quoted

/-!
What can be wrong with a JSON text. A fault is a cause and the bytes that were left when it was met, so readers
need not count: its line and column follow from the whole text.
-/
namespace MachineOperator.Json

/-- What stands where something else was expected. -/
inductive Found where
  | null
  | bool (b : Bool)
  | integer (n : Int)
  | float (x : Binary64)
  | string (s : String)
  | list
  | object
deriving DecidableEq

def Found.describe : Found → String
  | .null => "null"
  | .bool b => "boolean `" ++ toString b ++ "`"
  | .integer n => "integer `" ++ toString n ++ "`"
  | .float x => "floating point `" ++ x.compact ++ "`"
  | .string s => "string " ++ Text.quoted s
  | .list => "sequence"
  | .object => "map"

inductive Problem where
  | endInValue | endInList | endInObject | endInString
  | noValue | noWord | noColon | listSeparator | objectSeparator | trailingComma | trailingText | keyNoString
  | number | hugeNumber
  | escape | loneSurrogate | halfSurrogatePair | control | noText
  | wrongType (found : Found) (expected : String)
  | wrongLength (length : Nat) (expected : String)
  | missing (member : String)
  | repeated (member : String)
deriving DecidableEq

def Problem.text : Problem → String
  | .endInValue => "EOF while parsing a value"
  | .endInList => "EOF while parsing a list"
  | .endInObject => "EOF while parsing an object"
  | .endInString => "EOF while parsing a string"
  | .noValue => "expected value"
  | .noWord => "expected ident"
  | .noColon => "expected `:`"
  | .listSeparator => "expected `,` or `]`"
  | .objectSeparator => "expected `,` or `\x7d`"
  | .trailingComma => "trailing comma"
  | .trailingText => "trailing characters"
  | .keyNoString => "key must be a string"
  | .number => "invalid number"
  | .hugeNumber => "number out of range"
  | .escape => "invalid escape"
  | .loneSurrogate => "lone leading surrogate in hex escape"
  | .halfSurrogatePair => "unexpected end of hex escape"
  | .control => "control character (\\u0000-\\u001F) found while parsing a string"
  | .noText => "invalid unicode code point"
  | .wrongType found expected => "invalid type: " ++ found.describe ++ ", expected " ++ expected
  | .wrongLength length expected => "invalid length " ++ toString length ++ ", expected " ++ expected
  | .missing member => "missing field `" ++ member ++ "`"
  | .repeated member => "duplicate field `" ++ member ++ "`"

structure Fault where
  problem : Problem
  rest : List UInt8
deriving DecidableEq

/-- A value and the bytes after it. -/
abbrev Read (α : Type) := Except Fault (α × List UInt8)

def fail {α : Type} (problem : Problem) (rest : List UInt8) : Except Fault α := .error ⟨problem, rest⟩

/-- A fault of the next byte, if there is one. -/
def failNext {α : Type} (problem : Problem) (rest : List UInt8) : Except Fault α := .error ⟨problem, rest.drop 1⟩

def newline : UInt8 := 10

/-- The line that bytes end in, counted from one, and how many of them are on it. -/
def placeAfter (consumed : List UInt8) : Nat × Nat :=
  (1 + consumed.count newline, (consumed.reverse.takeWhile (· ≠ newline)).length)

/-- A problem with the place in the text where it was met. -/
structure Error where
  problem : Problem
  line : Nat
  column : Nat
deriving DecidableEq

def Error.message (e : Error) : String := e.problem.text ++ s!" at line {e.line} column {e.column}"

def Error.outline (e : Error) : String :=
  "Error(" ++ Text.quoted e.problem.text ++ s!", line: {e.line}, column: {e.column})"

/-- A fault of a text, located in it. -/
def Fault.locate (text : List UInt8) (f : Fault) : Error :=
  let (line, column) := placeAfter (text.take (text.length - f.rest.length))
  ⟨f.problem, line, column⟩

end MachineOperator.Json
