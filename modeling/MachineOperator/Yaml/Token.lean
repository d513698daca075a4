import MachineOperator.Yaml.Mark

/-!
The tokens of a text: indicators, the properties and contents of nodes, and the tokens that stand for
changes of indentation.
-/
namespace MachineOperator.Yaml

inductive ScalarStyle where
  | plain | singleQuoted | doubleQuoted | literal | folded
deriving DecidableEq, Inhabited

namespace Token

inductive Kind where
  | streamEnd
  | versionDirective (major minor : Nat)
  | tagDirective (handle uri : String)
  | documentStart | documentEnd
  | blockSequenceStart | blockMappingStart | blockEnd
  | flowSequenceStart | flowSequenceEnd | flowMappingStart | flowMappingEnd
  | blockEntry | flowEntry
  /-- A key that is written with its indicator, or one known by the `:` after it. -/
  | key (explicit : Bool)
  | value
  | alias (name : String)
  | anchor (name : String)
  | tag (handle suffix : String)
  | scalar (style : ScalarStyle) (text : String)
deriving DecidableEq

end Token

structure Token where
  kind : Token.Kind
  start : Mark
deriving DecidableEq

namespace Token

/-- Where a node would start that an indicator announces but the text leaves out. -/
def after (t : Token) : Mark :=
  match t.kind with
  | .key false => t.start
  | _ => t.start.next

end Token
end MachineOperator.Yaml
