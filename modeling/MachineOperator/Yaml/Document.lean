import MachineOperator.Yaml.Node.Parse
import MachineOperator.Yaml.Token.Scan

/-!
The first document of a text: its root, what follows it, and the nodes that its aliases stand for.
-/
namespace MachineOperator.Yaml

structure Document where
  root : Node
  /-- A fault that was met after the root. -/
  fault : Option Fault
  /-- Whether the text goes on after this document. -/
  followed : Bool

namespace Document

/-- The tag handles that need no directive. -/
def standardHandles : List (String × String) := [("!", "!"), ("!!", "tag:yaml.org,2002:")]

/-- The directives at the start of a document, and the tokens after them. -/
def directives : List Token → Bool → List (String × String) → Except Fault (List (String × String) × List Token)
  | ⟨.versionDirective major minor, m⟩ :: ts, versioned, handles =>
    if versioned then .error (.text .duplicateVersion m none)
    else if major = 1 && (minor = 1 || minor = 2) then directives ts true handles
    else .error (.text .incompatibleVersion m none)
  | ⟨.tagDirective handle uri, m⟩ :: ts, versioned, handles =>
    if (handles.lookup handle).isSome then .error (.text .duplicateTag m none)
    else directives ts versioned (handles ++ [(handle, uri)])
  | ts, _, handles => .ok (handles, ts)

/-- The tokens after the root: the end of the document may be marked, and then the text ends or goes on. -/
def finish (root : Node) : List Token → Option Fault → Document
  | [], ending => ⟨root, ending, false⟩
  | t :: ts, _ =>
    let ts := if t.kind = .documentEnd then (t :: ts).dropWhile (·.kind = .documentEnd) else t :: ts
    ⟨root, none, (ts.head?.map (·.kind)) != some .streamEnd⟩

def isDirective : Token.Kind → Bool
  | .versionDirective .. | .tagDirective .. => true
  | _ => false

/-- Tokens that no root starts with. -/
def endsRoot : Token.Kind → Bool
  | .versionDirective .. | .tagDirective .. | .documentStart | .documentEnd | .streamEnd => true
  | _ => false

def ofRoot (piece : Node.Piece Node) (ending : Option Fault) : Document :=
  match piece with
  | (root, none) => ⟨root, none, false⟩
  | (root, some r) => finish root r.tokens ending

/-- A bound on the steps of the descent: no three of them go by without a token. -/
def enough (tokens : List Token) : Nat := 4 * tokens.length + 8

def ofTokens (tokens : List Token) (ending : Option Fault) : Document :=
  let fault := ending.getD (.text .endOfStream .origin none)
  let setting := fun handles => (⟨handles, fault⟩ : Node.Setting)
  match tokens with
  | [] => ⟨.broken fault, none, false⟩
  | t :: ts =>
    if t.kind = .streamEnd then ⟨.empty t.start, none, false⟩
    else if isDirective t.kind || t.kind = .documentStart then
      match directives (t :: ts) false [] with
      | .error f => ⟨.broken f, none, false⟩
      | .ok (_, []) => ⟨.broken fault, none, false⟩
      | .ok (handles, u :: us) =>
        if u.kind = .documentStart then
          let cx := setting (handles ++ standardHandles)
          ofRoot (Node.parseOptional (enough us + 1) cx true false endsRoot (·.start) ⟨us, []⟩) ending
        else ⟨.broken (.text .noDocumentStart u.start none), none, false⟩
    else ofRoot (Node.parse (enough tokens) (setting standardHandles) true false ⟨tokens, []⟩) ending

def ofSource (source : Source) : Document :=
  let (tokens, ending) := source.tokens
  ofTokens tokens ending

def ofString (s : String) : Document := ofSource (.ofString s)
def ofBytes (bytes : ByteArray) : Document := ofSource (.ofBytes bytes)

/-- The node with an anchor. Of several with one number the last counts. -/
def anchored? (d : Document) (target : Nat) : Option Node :=
  d.root.preorder.reverse.find? (·.anchor? == some target)

end Document
end MachineOperator.Yaml
