import MachineOperator.Dict
import MachineOperator.Timestamp
import MachineOperator.Yaml.Value

/-!
The shapes of documents. A schema says what a document of a kind looks like, and the values it carries are typed
by it; what is written for a value follows from the schema too. A record's fields are written in its order.
-/
namespace MachineOperator.Yaml

/-- Whether a field may be left out, and whether a blank one is written. -/
inductive Presence where
  | required
  /-- Blank when left out, and always written. -/
  | defaulted
  /-- Blank when left out, and left out when blank. -/
  | elided
deriving DecidableEq

mutual
inductive Schema where
  | text
  | int32
  | int64
  | boolean
  | time
  | json
  | optional (s : Schema)
  /-- Text that reads as empty where a null stands. -/
  | nullableText
  | listOf (s : Schema)
  | mapOf (s : Schema)
  /-- Fields by name. A field given twice is refused, or counts as it is given last. -/
  | record (expected : String) (refusesRepeats : Bool) (fields : Fields)

inductive Fields where
  | nil
  | cons (key : String) (presence : Presence) (s : Schema) (rest : Fields)
end

mutual
/-- The values of a schema. -/
def Schema.Carrier : Schema → Type
  | .text | .nullableText => String
  | .int32 => Int32
  | .int64 => Int64
  | .boolean => Bool
  | .time => Timestamp
  | .json => Value
  | .optional s => Option s.Carrier
  | .listOf s => List s.Carrier
  | .mapOf s => Dict String s.Carrier
  | .record _ _ fields => fields.Carrier

def Fields.Carrier : Fields → Type
  | .nil => Unit
  | .cons _ _ s rest => s.Carrier × rest.Carrier
end

mutual
/-- The value of a field that is left out. -/
def Schema.blank : (s : Schema) → s.Carrier
  | .text | .nullableText => ("" : String)
  | .int32 => (0 : Int32)
  | .int64 => (0 : Int64)
  | .boolean => false
  | .time => (⟨0, 0⟩ : Timestamp)
  | .json => Value.null
  | .optional s => (none : Option s.Carrier)
  | .listOf s => ([] : List s.Carrier)
  | .mapOf s => (Dict.empty : Dict String s.Carrier)
  | .record _ _ fields => fields.blank

def Fields.blank : (fields : Fields) → fields.Carrier
  | .nil => ()
  | .cons _ _ s rest => (s.blank, rest.blank)
end

/-- Whether nothing would be said by writing a value: it is absent, or an empty collection. -/
def Schema.isBlank : (s : Schema) → s.Carrier → Bool
  | .optional s, v => Option.isNone (α := s.Carrier) v
  | .listOf s, v => List.isEmpty (α := s.Carrier) v
  | .mapOf s, v => Dict.isEmpty (α := s.Carrier) v
  | _, _ => false

/-- A field is written unless it may be left out and is blank. -/
def Presence.writes (p : Presence) (s : Schema) (v : s.Carrier) : Bool :=
  match p with
  | .required | .defaulted => true
  | .elided => !s.isBlank v

mutual
/-- What a value looks like in a document. -/
def Schema.toValue : (s : Schema) → s.Carrier → Value
  | .text, v => .string v
  | .nullableText, v => .string v
  | .int32, v => .int (Int32.toInt v)
  | .int64, v => .int (Int64.toInt v)
  | .boolean, v => .bool v
  | .time, v => .string (Timestamp.render v)
  | .json, v => v
  | .optional s, v => Option.elim (α := s.Carrier) v .null s.toValue
  | .listOf s, v => .sequence (List.map (α := s.Carrier) s.toValue v)
  | .mapOf s, v => .mapping ((Dict.entries (α := s.Carrier) v).map fun (key, w) => (key, s.toValue w))
  | .record _ _ fields, v => .mapping (fields.toEntries v)

def Fields.toEntries : (fields : Fields) → fields.Carrier → List (String × Value)
  | .nil, _ => []
  | .cons key p s rest, (v, vs) =>
    (if p.writes s v then [(key, s.toValue v)] else []) ++ rest.toEntries vs
end

end MachineOperator.Yaml
