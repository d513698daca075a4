import MachineOperator.Binary64.Shortest
import MachineOperator.Text.Quoted
import MachineOperator.Timestamp
import MachineOperator.Width
import MachineOperator.Yaml.Fault
import MachineOperator.Yaml.Plain

/-!
Why a well-formed document may not be what its reader expects: a value of another type or outside its range, a
field that is missing or given twice. A mismatch is a cause with a place; its wording is one function.
-/
namespace MachineOperator.Yaml

/-- A step from a value to one of its parts. A key that is no scalar has no name. -/
inductive Step where
  | key (name : String)
  | unnamed
  | index (n : Nat)
deriving DecidableEq

/-- The way to a value from the root, last step first. -/
abbrev Path := List Step

def Path.describe : Path → String
  | [] => ""
  | .index n :: parent => (if parent.isEmpty then "." else describe parent) ++ "[" ++ toString n ++ "]"
  | .key name :: parent => (if parent.isEmpty then "" else describe parent ++ ".") ++ name
  | .unnamed :: parent => (if parent.isEmpty then "" else describe parent ++ ".") ++ "?"

structure Place where
  path : Path
  mark : Mark
deriving DecidableEq

/-- What stands where something else was expected. -/
inductive Found where
  | scalar (meaning : Resolved)
  | sequence
  | mapping
  | tagged
deriving DecidableEq

/-- Numbers that need more than 64 bits say so. -/
def describeInteger (n : Int) : String :=
  "integer `" ++ toString n ++ "`" ++
    if Width.fits64 n then "" else if n < 0 then " as i128" else " as u128"

def Found.describe : Found → String
  | .scalar .null => "unit value"
  | .scalar (.bool b) => "boolean `" ++ toString b ++ "`"
  | .scalar (.int n) => describeInteger n
  | .scalar (.float x) => "floating point `" ++ x.positional ++ "`"
  | .scalar (.string s) => "string " ++ Text.quoted s
  | .sequence => "sequence"
  | .mapping => "map"
  | .tagged => "enum"

inductive Cause where
  | wrongType (found : Found) (expected : String)
  | wrongValue (found : Found) (expected : String)
  | missing (field : String)
  | repeated (field : String)
  | noTimestamp (error : Timestamp.Error)
  | wideNumber
deriving DecidableEq

def Cause.text : Cause → String
  | .wrongType found expected => "invalid type: " ++ found.describe ++ ", expected " ++ expected
  | .wrongValue found expected => "invalid value: " ++ found.describe ++ ", expected " ++ expected
  | .missing field => "missing field `" ++ field ++ "`"
  | .repeated field => "duplicate field `" ++ field ++ "`"
  | .noTimestamp error => error.message
  | .wideNumber => "JSON number out of range"

/-- Why a document cannot be read. -/
inductive ReadError where
  | malformed (fault : Fault)
  | mismatch (cause : Cause) (place : Option Place)
  | tooDeep (mark : Mark)
  | tooRepetitive
  | severalDocuments
deriving DecidableEq

/-- A cause with the path to where it was met, unless that is the root's. -/
def describeAt (path : Path) (cause : Cause) : String :=
  (if path.isEmpty then "" else path.describe ++ ": ") ++ cause.text

/-- The path is given unless it is the root's, and the mark unless it is the start of the text. -/
def ReadError.message : ReadError → String
  | .malformed fault => fault.message
  | .mismatch cause none => cause.text
  | .mismatch cause (some place) =>
    describeAt place.path cause ++ place.mark.suffix
  | .tooDeep mark => "recursion limit exceeded" ++ mark.suffix
  | .tooRepetitive => "repetition limit exceeded"
  | .severalDocuments => "deserializing from YAML containing more than one document is not supported"

/-- A message with its place, if it has one. -/
def outlineMessage (text : String) (mark : Option Mark) : String :=
  "Error(" ++ Text.quoted text ++
    (mark.map fun m => s!", line: {m.line + 1}, column: {m.column + 1}").getD "" ++ ")"

def ReadError.outline : ReadError → String
  | .malformed (.unknownAnchor place) => outlineMessage "unknown anchor" (some place)
  | .malformed fault => fault.outline
  | .mismatch cause none => outlineMessage cause.text none
  | .mismatch cause (some place) => outlineMessage (describeAt place.path cause) (some place.mark)
  | .tooDeep mark => outlineMessage "recursion limit exceeded" (some mark)
  | e => outlineMessage e.message none

end MachineOperator.Yaml
