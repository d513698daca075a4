import MachineOperator.Text.Outline
import MachineOperator.Text.Quoted
import MachineOperator.Yaml.Mark

/-!
What can be wrong with a text as a text: a character that may not occur, a token or a structure that is
malformed. Each fault is a cause with a place; its wording is one function.
-/
namespace MachineOperator.Yaml

/-- What was being read when a fault was met. -/
inductive Activity where
  | nextToken | simpleKey
  | directive | directiveHandle | versionDirective | tagDirective | tagDirectiveUri
  | anchor | alias | tag | tagUri
  | blockScalar | quotedScalar | escape | plainScalar
  | node | blockNode | flowNode
  | blockCollection | blockMapping | flowSequence | flowMapping
deriving DecidableEq

def Activity.text : Activity → String
  | .nextToken => "while scanning for the next token"
  | .simpleKey => "while scanning a simple key"
  | .directive => "while scanning a directive"
  | .directiveHandle => "while parsing a directive"
  | .versionDirective => "while scanning a %YAML directive"
  | .tagDirective => "while scanning a %TAG directive"
  | .tagDirectiveUri => "while parsing a %TAG directive"
  | .anchor => "while scanning an anchor"
  | .alias => "while scanning an alias"
  | .tag => "while scanning a tag"
  | .tagUri => "while parsing a tag"
  | .blockScalar => "while scanning a block scalar"
  | .quotedScalar => "while scanning a quoted scalar"
  | .escape => "while parsing a quoted scalar"
  | .plainScalar => "while scanning a plain scalar"
  | .node => "while parsing a node"
  | .blockNode => "while parsing a block node"
  | .flowNode => "while parsing a flow node"
  | .blockCollection => "while parsing a block collection"
  | .blockMapping => "while parsing a block mapping"
  | .flowSequence => "while parsing a flow sequence"
  | .flowMapping => "while parsing a flow mapping"

inductive Problem where
  | noToken | missingColon
  | entryNotAllowed | keyNotAllowed | valueNotAllowed
  | noDirectiveName | nonAlphabetical | unknownDirective | directiveTail
  | digitOrDot | longVersion | noVersion
  | directiveSpace | directiveSpaceOrBreak
  | noName
  | missingBang | missingCloseTag | tagTail | noTagUri | noOctet | leadingOctet | trailingOctet
  | zeroIndent | blockTail | blockTab
  | documentIndicator | endOfStream | unknownEscape | noHexDigit | escapeCode
  | unexpectedColon | plainTab
  | noDocumentStart | duplicateVersion | incompatibleVersion | duplicateTag | undefinedHandle
  | noContent | noEntry | noKey | flowSequenceSeparator | flowMappingSeparator
deriving DecidableEq

def Problem.text : Problem → String
  | .noToken => "found character that cannot start any token"
  | .missingColon => "could not find expected ':'"
  | .entryNotAllowed => "block sequence entries are not allowed in this context"
  | .keyNotAllowed => "mapping keys are not allowed in this context"
  | .valueNotAllowed => "mapping values are not allowed in this context"
  | .noDirectiveName => "could not find expected directive name"
  | .nonAlphabetical => "found unexpected non-alphabetical character"
  | .unknownDirective => "found unknown directive name"
  | .directiveTail => "did not find expected comment or line break"
  | .digitOrDot => "did not find expected digit or '.' character"
  | .longVersion => "found extremely long version number"
  | .noVersion => "did not find expected version number"
  | .directiveSpace => "did not find expected whitespace"
  | .directiveSpaceOrBreak => "did not find expected whitespace or line break"
  | .noName => "did not find expected alphabetic or numeric character"
  | .missingBang => "did not find expected '!'"
  | .missingCloseTag => "did not find the expected '>'"
  | .tagTail => "did not find expected whitespace or line break"
  | .noTagUri => "did not find expected tag URI"
  | .noOctet => "did not find URI escaped octet"
  | .leadingOctet => "found an incorrect leading UTF-8 octet"
  | .trailingOctet => "found an incorrect trailing UTF-8 octet"
  | .zeroIndent => "found an indentation indicator equal to 0"
  | .blockTail => "did not find expected comment or line break"
  | .blockTab => "found a tab character where an indentation space is expected"
  | .documentIndicator => "found unexpected document indicator"
  | .endOfStream => "found unexpected end of stream"
  | .unknownEscape => "found unknown escape character"
  | .noHexDigit => "did not find expected hexadecimal number"
  | .escapeCode => "found invalid Unicode character escape code"
  | .unexpectedColon => "found unexpected ':'"
  | .plainTab => "found a tab character that violates indentation"
  | .noDocumentStart => "did not find expected <document start>"
  | .duplicateVersion => "found duplicate %YAML directive"
  | .incompatibleVersion => "found incompatible YAML document"
  | .duplicateTag => "found duplicate %TAG directive"
  | .undefinedHandle => "found undefined tag handle"
  | .noContent => "did not find expected node content"
  | .noEntry => "did not find expected '-' indicator"
  | .noKey => "did not find expected key"
  | .flowSequenceSeparator => "did not find expected ',' or ']'"
  | .flowMappingSeparator => "did not find expected ',' or '\x7d'"

/-- Why the bytes of a text are refused before any token is read. -/
inductive ByteProblem where
  | controlCharacter | leadingOctet | trailingOctet | incomplete | length | character
deriving DecidableEq

def ByteProblem.text : ByteProblem → String
  | .controlCharacter => "control characters are not allowed"
  | .leadingOctet => "invalid leading UTF-8 octet"
  | .trailingOctet => "invalid trailing UTF-8 octet"
  | .incomplete => "incomplete UTF-8 octet sequence"
  | .length => "invalid length of a UTF-8 sequence"
  | .character => "invalid Unicode character"

inductive Fault where
  /-- A byte that may not occur, by its offset. -/
  | bytes (problem : ByteProblem) (offset : Nat)
  | text (problem : Problem) (place : Mark) (context : Option (Activity × Mark))
  | unknownAnchor (place : Mark)
deriving DecidableEq

/-- The place of a mark, unless it is the start of the text. -/
def Mark.suffix (m : Mark) : String :=
  if m = .origin then "" else " at " ++ m.describe

/-- The context's own place is given only where it adds something. -/
def Fault.message : Fault → String
  | .bytes problem offset =>
    problem.text ++ if offset = 0 then "" else s!" at position {offset}"
  | .text problem place context =>
    problem.text ++ place.suffix ++
      match context with
      | none => ""
      | some (activity, start) =>
        ", " ++ activity.text ++ if start = place then "" else start.suffix
  | .unknownAnchor place => "unknown anchor" ++ place.suffix

/-- Whether a problem is one of a single token, and not of how tokens follow each other. -/
def Problem.isLexical : Problem → Bool
  | .noDocumentStart | .duplicateVersion | .incompatibleVersion | .duplicateTag | .undefinedHandle
  | .noContent | .noEntry | .noKey | .flowSequenceSeparator | .flowMappingSeparator => false
  | _ => true

/-- A mark under a name, unless it is the start of the text. -/
def Mark.outlineAs (name : String) (m : Mark) : List (String × String) :=
  if m = .origin then []
  else [(name, Text.outline "Mark" [("line", toString (m.line + 1)), ("column", toString (m.column + 1))])]

def Fault.outline : Fault → String
  | .bytes problem offset =>
    Text.outline "Error" <|
      [("kind", "READER"), ("problem", Text.quoted problem.text)] ++
        if offset = 0 then [] else [("problem_offset", toString offset)]
  | .text problem place context =>
    Text.outline "Error" <|
      [("kind", if problem.isLexical then "SCANNER" else "PARSER"), ("problem", Text.quoted problem.text)] ++
        place.outlineAs "problem_mark" ++
        match context with
        | none => []
        | some (activity, start) => ("context", Text.quoted activity.text) :: start.outlineAs "context_mark"
  | .unknownAnchor place => Text.outline "UnknownAnchor" (place.outlineAs "mark")

end MachineOperator.Yaml
