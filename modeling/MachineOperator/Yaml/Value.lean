import MachineOperator.Yaml.Node
import MachineOperator.Yaml.Plain

/-!
Documents without places, styles and anchors: what a document says. Entries of a mapping keep their order.
-/
namespace MachineOperator.Yaml

inductive Value where
  | null
  | bool (b : Bool)
  | int (n : Int)
  | float (x : Binary64)
  | string (s : String)
  | sequence (items : List Value)
  | mapping (entries : List (String × Value))

namespace Value

def ofResolved : Resolved → Value
  | .null => .null
  | .bool b => .bool b
  | .int n => .int n
  | .float x => .float x
  | .string s => .string s

/-- The value of an entry; of entries with one key the first counts. -/
def get? (key : String) : Value → Option Value
  | .mapping entries => entries.lookup key
  | _ => none

mutual
def beq : Value → Value → Bool
  | .null, .null => true
  | .bool a, .bool b => a == b
  | .int a, .int b => a == b
  | .float a, .float b => a = b
  | .string a, .string b => a == b
  | .sequence a, .sequence b => beqItems a b
  | .mapping a, .mapping b => beqEntries a b
  | _, _ => false

def beqItems : List Value → List Value → Bool
  | [], [] => true
  | a :: as, b :: bs => beq a b && beqItems as bs
  | _, _ => false

def beqEntries : List (String × Value) → List (String × Value) → Bool
  | [], [] => true
  | (k, a) :: as, (l, b) :: bs => k == l && beq a b && beqEntries as bs
  | _, _ => false
end

instance : BEq Value := ⟨beq⟩

end Value

/-- Scalars without a tag mean what their plain text stands for; quoted and block text is text. -/
def resolveScalar (style : ScalarStyle) (text : String) : Resolved :=
  if style = .plain then resolvePlain text else .string text

namespace Node

mutual
/-- What a tree without tags and aliases says, if its keys are text. -/
def toValue? : Node → Option Value
  | .scalar p style text _ => if p.tag.isSome then none else some (.ofResolved (resolveScalar style text))
  | .sequence _ items _ => (itemsToValue? items).map .sequence
  | .mapping _ entries _ => (entriesToValue? entries).map .mapping
  | .alias .. | .broken _ => none

def itemsToValue? : List Node → Option (List Value)
  | [] => some []
  | n :: r => do return (← toValue? n) :: (← itemsToValue? r)

def entriesToValue? : List (Node × Node) → Option (List (String × Value))
  | [] => some []
  | (k, v) :: r => do
    match ← toValue? k with
    | .string key => return (key, ← toValue? v) :: (← entriesToValue? r)
    | _ => none
end

end Node
end MachineOperator.Yaml
