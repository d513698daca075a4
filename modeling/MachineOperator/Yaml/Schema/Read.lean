import MachineOperator.Yaml.Document
import MachineOperator.Yaml.Mismatch
import MachineOperator.Yaml.Schema

/-!
Reading a document as a value of a schema. A reader takes the nodes of a document in order and stops at the first
that does not fit. An alias is read as the node it stands for; how often that may happen is limited.
-/
namespace MachineOperator.Yaml

/-- Readers count the aliases they have followed. -/
abbrev Reader := StateT Nat (Except ReadError)

/-- A mismatch without a place gets this one. -/
def located (path : Path) (mark : Mark) {α : Type} (r : Reader α) : Reader α := fun n =>
  match r n with
  | .error (.mismatch cause none) => .error (.mismatch cause (some ⟨path, mark⟩))
  | x => x

def mismatch {α : Type} (cause : Cause) : Reader α := throw (.mismatch cause none)

/-- The nodes that aliases stand for, and how many aliases may be followed. -/
structure Aliases where
  find? : Nat → Option Node
  limit : Nat

def Document.aliases (d : Document) : Aliases := ⟨d.anchored?, 100 * d.root.steps⟩

/-- The node to be read: an alias stands for another node, and nothing can be read where the text is malformed. -/
def Aliases.follow (a : Aliases) : Node → Reader Node
  | .alias target mark => do
    let count ← get
    if a.limit ≤ count then throw .tooRepetitive
    set (count + 1)
    match a.find? target with
    | some n => return n
    | none => throw (.malformed (.unknownAnchor mark))
  | .broken fault => throw (.malformed fault)
  | n => return n

namespace Node

/-- Tags of the types that are known by them. -/
def boolTag : String := "tag:yaml.org,2002:bool"
def intTag : String := "tag:yaml.org,2002:int"
def floatTag : String := "tag:yaml.org,2002:float"
def nullTag : String := "tag:yaml.org,2002:null"

def isLocalTag (tag : String) : Bool := tag.toList.head? == some '!'

/-- What a scalar means by its tag, its style and its text. -/
def meaning (tag : Option String) (style : ScalarStyle) (text : String) : Except Cause Resolved :=
  let orWrong := fun (r : Option Resolved) expected =>
    match r with
    | some r => .ok r
    | none => .error (.wrongValue (.scalar (.string text)) expected)
  match tag with
  | none => .ok (resolveScalar style text)
  | some tag =>
    if tag = boolTag then orWrong ((Plain.bool? text).map .bool) "a boolean"
    else if tag = intTag then orWrong (((Plain.integer? text).filter Width.fits128).map .int) "an integer"
    else if tag = floatTag then orWrong ((Plain.float? text).map .float) "a float"
    else if tag = nullTag then orWrong (if Plain.isNull text then some .null else none) "null"
    else if isLocalTag tag then .ok (resolveScalar style text)
    else .ok (.string text)

/-- Numbers and booleans are plain, or literal blocks with the type's own tag. -/
def isPlainOr (tag : String) (p : Properties) (style : ScalarStyle) : Bool :=
  style = .plain || (style = .literal && p.tag == some tag)

/-- A plain scalar without text can stand for an empty collection. -/
def isEmptyPlain (style : ScalarStyle) (text : String) : Bool := style = .plain && text.isEmpty

/-- Whether nothing stands here: a null, or no text at all. -/
def isAbsent : Node → Reader Bool
  | .scalar p style text _ =>
    if style ≠ .plain then pure false
    else
      match p.tag with
      | none => pure (text.isEmpty || Plain.isNull text)
      | some tag =>
        if tag ≠ nullTag then pure false
        else if Plain.isNull text then pure true
        else mismatch (.wrongValue (.scalar (.string text)) "null")
  | _ => pure false

/-- Refuses a node of another type. -/
def refuse {α : Type} (path : Path) (expected : String) : Node → Reader α
  | .scalar p style text mark => located path mark <|
    match meaning p.tag style text with
    | .ok r => mismatch (.wrongType (.scalar r) expected)
    | .error cause => mismatch cause
  | .sequence _ _ mark => located path mark (mismatch (.wrongType .sequence expected))
  | .mapping _ _ mark => located path mark (mismatch (.wrongType .mapping expected))
  | .alias _ mark => throw (.malformed (.unknownAnchor mark))
  | .broken fault => throw (.malformed fault)

/-- A node whose value nobody needs is passed over, unless the text is malformed in it. -/
def pass (n : Node) : Reader Unit :=
  match n.fault? with
  | some fault => throw (.malformed fault)
  | none => pure ()

/-- The step to the value of a key. -/
def step : Node → Step
  | .scalar _ _ text _ => .key text
  | _ => .unnamed

/-- Any scalar is text, as it is written. -/
def readText (a : Aliases) (path : Path) (expected : String) (n : Node) : Reader String := do
  match ← a.follow n with
  | .scalar _ _ text _ => return text
  | n => refuse path expected n

def readInteger (a : Aliases) (path : Path) (expected : String) (convert : Int → Reader α) (n : Node) : Reader α := do
  match ← a.follow n with
  | .scalar p style text mark =>
    match (Plain.integer? text).filter fun i => isPlainOr intTag p style && Width.fitsInt64 i with
    | some i => located path mark (convert i)
    | none => refuse path expected (.scalar p style text mark)
  | n => refuse path expected n

def toInt32 (i : Int) : Reader Int32 :=
  if Width.fitsInt32 i then pure (Int32.ofInt i)
  else mismatch (.wrongValue (.scalar (.int i)) "i32")

def readBoolean (a : Aliases) (path : Path) (n : Node) : Reader Bool := do
  match ← a.follow n with
  | .scalar p style text mark =>
    match (Plain.bool? text).filter fun _ => isPlainOr boolTag p style with
    | some b => return b
    | none => refuse path "a boolean" (.scalar p style text mark)
  | n => refuse path "a boolean" n

def readTime (a : Aliases) (path : Path) (n : Node) : Reader Timestamp := do
  match ← a.follow n with
  | .scalar _ _ text mark =>
    match Timestamp.parse text with
    | .ok t => return t
    | .error e => located path mark (mismatch (.noTimestamp e))
  | n => refuse path "a timestamp string" n

/-- The items of a sequence, each with its index. -/
def readItems (read : Path → Node → Reader α) (path : Path) : Nat → List Node → Reader (List α)
  | _, [] => return []
  | i, n :: r => do
    let v ← read (.index i :: path) n
    return v :: (← readItems read path (i + 1) r)

def readList (a : Aliases) (path : Path) (read : Path → Node → Reader α) (n : Node) : Reader (List α) := do
  match ← a.follow n with
  | .sequence _ items mark => located path mark (readItems read path 0 items)
  | .scalar p style text mark =>
    if isEmptyPlain style text then return [] else refuse path "a sequence" (.scalar p style text mark)
  | n => refuse path "a sequence" n

/-- The entries of a mapping; the first key may be asked for in other words than the others. -/
def readEntries (a : Aliases) (read : Path → Node → Reader α) (path : Path) (expected later : String) :
    List (Node × Node) → Reader (List (String × α))
  | [] => return []
  | (k, v) :: r => do
    let key ← readText a path expected k
    let value ← read (k.step :: path) v
    return (key, value) :: (← readEntries a read path later later r)

def readMap (a : Aliases) (path : Path) (read : Path → Node → Reader α) (n : Node) : Reader (Dict String α) := do
  match ← a.follow n with
  | .mapping _ entries mark =>
    located path mark do return Dict.ofList (← readEntries a read path "a string" "a string" entries)
  | .scalar p style text mark =>
    if isEmptyPlain style text then return .empty else refuse path "a map" (.scalar p style text mark)
  | n => refuse path "a map" n

/-- Free data holds what can be written in any notation: numbers of 64 bits, and no infinities. -/
def freeScalar : Resolved → Reader Value
  | .int n => if Width.fits64 n then pure (.int n) else mismatch .wideNumber
  | .float x => pure (if x.isFinite then .float x else .null)
  | r => pure (.ofResolved r)

/-- How deep collections may lie within one another. -/
def depthLimit : Nat := 128

/-- Free data, nested no deeper than `depth`. The entries of a mapping are sorted by their keys. -/
def readFree (a : Aliases) : Nat → Path → Node → Reader Value
  | depth, path, n => do
    let expected := "any valid JSON value"
    match ← a.follow n with
    | .scalar p style text mark => located path mark do
      if (p.tag.map isLocalTag).getD false then mismatch (.wrongType .tagged expected)
      match meaning p.tag style text with
      | .ok r => freeScalar r
      | .error cause => mismatch cause
    | .sequence p items mark =>
      if (p.tag.map isLocalTag).getD false then located path mark (mismatch (.wrongType .tagged expected))
      else
        match depth with
        | 0 => throw (.tooDeep mark)
        | depth + 1 => located path mark do return .sequence (← readItems (readFree a depth) path 0 items)
    | .mapping p entries mark =>
      if (p.tag.map isLocalTag).getD false then located path mark (mismatch (.wrongType .tagged expected))
      else
        match depth with
        | 0 => throw (.tooDeep mark)
        | depth + 1 => located path mark do
          let entries ← readEntries a (readFree a depth) path "a string key" "a string" entries
          return .mapping (Dict.ofList entries).entries
    | n => refuse path expected n

end Node

/-- The fields of a record that have been read so far. -/
def Fields.Slots : Fields → Type
  | .nil => Unit
  | .cons _ _ s rest => Option s.Carrier × rest.Slots

namespace Fields

def noSlots : (fields : Fields) → fields.Slots
  | .nil => ()
  | .cons _ _ _ rest => (none, rest.noSlots)

/-- A record from the fields that were read; one that is required must be among them. -/
def finish : (fields : Fields) → fields.Slots → Except Cause fields.Carrier
  | .nil, _ => .ok ()
  | .cons key p s rest, (slot, slots) => do
    let v ← match slot, p with
      | some v, _ => .ok v
      | none, .required => .error (.missing key)
      | none, _ => .ok s.blank
    return (v, ← rest.finish slots)

end Fields

mutual
/-- The value that a node holds. -/
def Schema.read (a : Aliases) : (s : Schema) → Path → Node → Reader s.Carrier
  | .text, path, n => Node.readText a path "a string" n
  | .int32, path, n => Node.readInteger a path "i32" Node.toInt32 n
  | .int64, path, n => Node.readInteger a path "i64" (fun i => pure (Int64.ofInt i)) n
  | .boolean, path, n => Node.readBoolean a path n
  | .time, path, n => Node.readTime a path n
  | .json, path, n => Node.readFree a (Node.depthLimit - 1 - path.length) path n
  | .optional s, path, n => do
    let n ← a.follow n
    if ← n.isAbsent then return (none : Option s.Carrier)
    return some (← s.read a path n)
  | .nullableText, path, n => do
    let n ← a.follow n
    if ← n.isAbsent then return ("" : String)
    Node.readText a path "a string" n
  | .listOf s, path, n => Node.readList a path (s.read a) n
  | .mapOf s, path, n => Node.readMap a path (s.read a) n
  | .record expected refusesRepeats fields, path, n => do
    let finish := fun slots =>
      match fields.finish slots with
      | .ok v => pure v
      | .error cause => mismatch cause
    match ← a.follow n with
    | .mapping _ entries mark => located path mark do
      let slots ← entries.foldlM (fun slots (k, v) => do
        let key ← Node.readText a path "field identifier" k
        fields.readField a refusesRepeats (k.step :: path) key v slots) fields.noSlots
      finish slots
    | .scalar p style text mark =>
      if Node.isEmptyPlain style text then located path mark (finish fields.noSlots)
      else Node.refuse path expected (.scalar p style text mark)
    | n => Node.refuse path expected n

/-- The fields read so far and one more; a key that names no field is passed over with its value. -/
def Fields.readField (a : Aliases) (refusesRepeats : Bool) :
    (fields : Fields) → Path → String → Node → fields.Slots → Reader fields.Slots
  | .nil, _, _, n, _ => do
    n.pass
    return ()
  | .cons key _ s rest, path, name, n, (slot, slots) =>
    if name = key then
      if refusesRepeats && slot.isSome then mismatch (.repeated key)
      else do return (some (← s.read a path n), slots)
    else do return (slot, ← rest.readField a refusesRepeats path name n slots)
end

namespace Document

/-- The root as a value of a schema. -/
def readRoot (d : Document) (s : Schema) : Except ReadError s.Carrier :=
  (s.read d.aliases [] d.root).run' 0

/-- A text is one document and nothing else. -/
def close (d : Document) : Except ReadError Unit :=
  match d.fault with
  | some fault => .error (.malformed fault)
  | none => if d.followed then .error .severalDocuments else .ok ()

/-- The value of a document that is all of its text. -/
def read (d : Document) (s : Schema) : Except ReadError s.Carrier := do
  let v ← d.readRoot s
  d.close
  return v

end Document
end MachineOperator.Yaml
