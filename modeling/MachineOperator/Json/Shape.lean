import MachineOperator.Json.Skip

/-!
Reading JSON as values of a known shape: text, lists and records. A record may be written as an object, whose
members may stand in any order and among others, or as a list of its values in order.
-/
namespace MachineOperator.Json

mutual
inductive Shape where
  | text
  | listOf (s : Shape)
  | record (name : String) (members : Members)

inductive Members where
  | nil
  /-- A member that is blank when it is left out, or one that may not be. -/
  | cons (key : String) (optional : Bool) (s : Shape) (rest : Members)
end

mutual
def Shape.Carrier : Shape → Type
  | .text => String
  | .listOf s => List s.Carrier
  | .record _ members => members.Carrier

def Members.Carrier : Members → Type
  | .nil => Unit
  | .cons _ _ s rest => s.Carrier × rest.Carrier
end

mutual
def Shape.blank : (s : Shape) → s.Carrier
  | .text => ("" : String)
  | .listOf s => ([] : List s.Carrier)
  | .record _ members => members.blank

def Members.blank : (members : Members) → members.Carrier
  | .nil => ()
  | .cons _ _ s rest => (s.blank, rest.blank)
end

/-- The members of a record that have been read so far. -/
def Members.Slots : Members → Type
  | .nil => Unit
  | .cons _ _ s rest => Option s.Carrier × rest.Slots

namespace Members

def count : Members → Nat
  | .nil => 0
  | .cons _ _ _ rest => rest.count + 1

def noSlots : (members : Members) → members.Slots
  | .nil => ()
  | .cons _ _ _ rest => (none, rest.noSlots)

/-- A record from the members that were read; one that is not optional must be among them. -/
def finish : (members : Members) → members.Slots → Except Problem members.Carrier
  | .nil, _ => .ok ()
  | .cons key optional s rest, (slot, slots) => do
    let v ← match slot with
      | some v => .ok v
      | none => if optional then .ok s.blank else .error (.missing key)
    return (v, ← rest.finish slots)

end Members

/-- Refuses a value of another type, by what it is. -/
def refuse {α : Type} (expected : String) : List UInt8 → Except Fault α
  | [] => fail .endInValue []
  | b :: r => do
    if b = ascii 'n' then fail (.wrongType .null expected) (← expectWord ['u', 'l', 'l'] r)
    else if b = ascii 't' then fail (.wrongType (.bool true) expected) (← expectWord ['r', 'u', 'e'] r)
    else if b = ascii 'f' then fail (.wrongType (.bool false) expected) (← expectWord ['a', 'l', 's', 'e'] r)
    else if b = ascii '-' then
      let (found, r) ← readNumber true r
      fail (.wrongType found expected) r
    else if isDigit b then
      let (found, r) ← readNumber false (b :: r)
      fail (.wrongType found expected) r
    else if b = ascii '"' then
      let (s, r) ← readString r
      fail (.wrongType (.string s) expected) r
    else if b = ascii '[' then fail (.wrongType .list expected) (b :: r)
    else if b = ascii '{' then fail (.wrongType .object expected) (b :: r)
    else fail .noValue r

/-- Text, or a value that is none. -/
def readText (expected : String) (rest : List UInt8) : Read String :=
  match skipBlanks rest with
  | [] => fail .endInValue []
  | b :: r => if b = ascii '"' then readString r else refuse expected (b :: r)

/-- Whether a list goes on: at its next item, or past its end. -/
inductive ListStep where
  | item (rest : List UInt8)
  | ended (rest : List UInt8)

/-- The step to the next item of a list; before the first one no comma is expected. -/
def nextItem (first : Bool) (rest : List UInt8) : Except Fault ListStep :=
  match skipBlanks rest with
  | [] => fail .endInList []
  | b :: r =>
    if b = ascii ']' then .ok (.ended r)
    else if first then .ok (.item (b :: r))
    else if b = ascii ',' then
      match skipBlanks r with
      | [] => fail .endInValue []
      | c :: s => if c = ascii ']' then fail .trailingComma s else .ok (.item (c :: s))
    else fail .listSeparator r

/-- The step to the key of the next member of an object, past its quote, or past the object's end. -/
def nextMember (first : Bool) (rest : List UInt8) : Except Fault ListStep :=
  match skipBlanks rest with
  | [] => fail .endInObject []
  | b :: r =>
    if b = ascii '}' then .ok (.ended r)
    else if first then (if b = ascii '"' then .ok (.item r) else fail .keyNoString r)
    else if b = ascii ',' then
      match skipBlanks r with
      | [] => fail .endInValue []
      | c :: s =>
        if c = ascii '"' then .ok (.item s)
        else if c = ascii '}' then fail .trailingComma s
        else fail .keyNoString s
    else fail .objectSeparator r

/-- Past the colon after a key. -/
def expectColon (rest : List UInt8) : Except Fault (List UInt8) :=
  match skipBlanks rest with
  | [] => fail .endInObject []
  | b :: r => if b = ascii ':' then .ok r else fail .noColon r

/-- Past the end of an object, if it is next. -/
def pastObject (rest : List UInt8) : List UInt8 :=
  match skipBlanks rest with
  | [] => []
  | b :: r => if b = ascii '}' then r else b :: r

/-- The items of a list, past its opening bracket. -/
def readItems (read : List UInt8 → Read α) :
    Nat → Bool → List α → List UInt8 → Except Fault (List α × List UInt8)
  | 0, _, _, rest => fail .endInList rest
  | fuel + 1, first, items, rest => do
    match ← nextItem first rest with
    | .ended rest => .ok (items.reverse, rest)
    | .item rest =>
      let (item, rest) ← read rest
      readItems read fuel false (item :: items) rest

/-- The members of an object, past its opening brace; what a member does to the record is up to `read`. -/
def readMembers (read : String → σ → List UInt8 → Read σ) :
    Nat → Bool → σ → List UInt8 → Except Fault (σ × List UInt8)
  | 0, _, _, rest => fail .endInObject rest
  | fuel + 1, first, slots, rest => do
    match ← nextMember first rest with
    | .ended rest => .ok (slots, rest)
    | .item rest =>
      let (key, rest) ← readString rest
      let (slots, rest) ← read key slots rest
      readMembers read fuel false slots rest

/-- The end of a list that has all its items. -/
def endList (rest : List UInt8) : Except Fault (List UInt8) :=
  match skipBlanks rest with
  | [] => fail .endInList []
  | b :: r =>
    if b = ascii ']' then .ok r
    else if b = ascii ',' then
      match skipBlanks r with
      | [] => fail .trailingText []
      | c :: s => if c = ascii ']' then fail .trailingComma s else fail .trailingText s
    else fail .trailingText r

mutual

/-- A value of a shape. -/
def Shape.read : (s : Shape) → List UInt8 → Read s.Carrier
  | .text, rest => readText "a string" rest
  | .listOf s, rest =>
    match skipBlanks rest with
    | [] => fail .endInValue []
    | b :: r =>
      if b = ascii '[' then readItems s.read (r.length + 1) true [] r else refuse "a sequence" (b :: r)
  | .record name members, rest =>
    match skipBlanks rest with
    | [] => fail .endInValue []
    | b :: r =>
      if b = ascii '[' then
        match members.readInOrder name members.count 0 r with
        | .ok (v, rest) => (endList rest).map (v, ·)
        | .error f => .error f
      else if b = ascii '{' then
        match readMembers members.readMember (r.length + 1) true members.noSlots r with
        | .ok (slots, rest) =>
          match members.finish slots with
          | .ok v => .ok (v, rest)
          | .error problem => fail problem rest
        | .error f => .error f
      else refuse ("struct " ++ name) (b :: r)

/-- The values of a record in their order, past the opening bracket. -/
def Members.readInOrder (name : String) (size : Nat) : (members : Members) → Nat → List UInt8 → Read members.Carrier
  | .nil, _, rest => .ok ((), rest)
  | .cons _ optional s more, index, rest =>
    match nextItem (index = 0) rest with
    | .error f => .error f
    | .ok (.item rest) =>
      match s.read rest with
      | .error f => .error f
      | .ok (v, rest) =>
        match more.readInOrder name size (index + 1) rest with
        | .error f => .error f
        | .ok (vs, rest) => .ok ((v, vs), rest)
    | .ok (.ended after) =>
      if optional then
        match more.readInOrder name size (index + 1) rest with
        | .error f => .error f
        | .ok (vs, rest) => .ok ((s.blank, vs), rest)
      else fail (.wrongLength index ("struct " ++ name ++ " with " ++ toString size ++ " elements")) after

/-- The members read so far and one more, past its key; one that the record does not have is passed over. -/
def Members.readMember : (members : Members) → String → members.Slots → List UInt8 → Read members.Slots
  | .nil, _, _, rest =>
    match expectColon rest with
    | .error f => .error f
    | .ok rest => (skip rest).map ((), ·)
  | .cons key _ s more, name, (slot, slots), rest =>
    if name = key then
      if slot.isSome then fail (.repeated key) (pastObject rest)
      else
        match expectColon rest with
        | .error f => .error f
        | .ok rest =>
          match s.read rest with
          | .error f => .error f
          | .ok (v, rest) => .ok ((some v, slots), rest)
    else
      match more.readMember name slots rest with
      | .error f => .error f
      | .ok (slots, rest) => .ok ((slot, slots), rest)

end

/-- A value that is all of a text, blanks apart. -/
def Shape.readAll (s : Shape) (text : List UInt8) : Except Fault s.Carrier :=
  match s.read text with
  | .error f => .error f
  | .ok (v, rest) =>
    match skipBlanks rest with
    | [] => .ok v
    | _ :: r => fail .trailingText r

def Shape.decode (s : Shape) (text : List UInt8) : Except Error s.Carrier :=
  (s.readAll text).mapError (Fault.locate text)

end MachineOperator.Json
