import MachineOperator.Yaml.Fault
import MachineOperator.Yaml.Token

/-!
A document as a tree. Nodes keep their places, styles and tags, because readers of a document need them.
A fault in the text ends the tree where it was met, and all before it can still be read: a reader that
comes to a `broken` node stops there.
-/
namespace MachineOperator.Yaml

/-- What may stand before the content of a node. An anchor is known by a number. -/
structure Properties where
  anchor : Option Nat := none
  tag : Option String := none
deriving DecidableEq

inductive Node where
  | scalar (properties : Properties) (style : ScalarStyle) (text : String) (mark : Mark)
  | sequence (properties : Properties) (items : List Node) (mark : Mark)
  | mapping (properties : Properties) (entries : List (Node × Node)) (mark : Mark)
  /-- The node with that anchor, once more. -/
  | alias (target : Nat) (mark : Mark)
  | broken (fault : Fault)

namespace Node

/-- A node that the text leaves out. -/
def empty (mark : Mark) : Node := .scalar {} .plain "" mark

def anchor? : Node → Option Nat
  | .scalar p .. | .sequence p .. | .mapping p .. => p.anchor
  | .alias .. | .broken _ => none

mutual
/-- The nodes of a tree, each before its parts. -/
def preorder : Node → List Node
  | .sequence p items m => .sequence p items m :: preorderItems items
  | .mapping p entries m => .mapping p entries m :: preorderEntries entries
  | n => [n]

def preorderItems : List Node → List Node
  | [] => []
  | n :: r => preorder n ++ preorderItems r

def preorderEntries : List (Node × Node) → List Node
  | [] => []
  | (k, v) :: r => preorder k ++ preorder v ++ preorderEntries r
end

mutual
/-- The fault in a tree, if it has one. -/
def fault? : Node → Option Fault
  | .broken f => some f
  | .sequence _ items _ => itemsFault? items
  | .mapping _ entries _ => entriesFault? entries
  | .scalar .. | .alias .. => none

def itemsFault? : List Node → Option Fault
  | [] => none
  | n :: r => fault? n <|> itemsFault? r

def entriesFault? : List (Node × Node) → Option Fault
  | [] => none
  | (k, v) :: r => fault? k <|> fault? v <|> entriesFault? r
end

mutual
/-- How many steps it takes to read a tree: one for a leaf, two for a collection besides its parts. -/
def steps : Node → Nat
  | .scalar .. | .alias .. => 1
  | .sequence _ items _ => 2 + itemSteps items
  | .mapping _ entries _ => 2 + entrySteps entries
  | .broken _ => 0

def itemSteps : List Node → Nat
  | [] => 0
  | n :: r => steps n + itemSteps r

def entrySteps : List (Node × Node) → Nat
  | [] => 0
  | (k, v) :: r => steps k + steps v + entrySteps r
end

end Node
end MachineOperator.Yaml
