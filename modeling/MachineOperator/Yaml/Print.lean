import MachineOperator.Binary64.Shortest
import MachineOperator.Yaml.Value

/-!
Documents written as text, in block style with two columns of indentation. The style of a text depends on
its characters: plain where that reads back as the same text, else quoted, and as a literal block where it
has lines. Every entry ends its line, so what follows one starts a new line.
-/
namespace MachineOperator.Yaml

/-- Characters that are written as they are. -/
def isPrintable (c : Char) : Bool :=
  c == '\n' || (' ' ≤ c && c ≤ '~') || ('\u00a0' ≤ c && c ≠ '\ufeff' && c ≠ '\ufffe' && c ≠ '\uffff')

/-- Everything that may break a line in some reader's eyes. -/
def isAnyBreak (c : Char) : Bool := isBreak c || c == '\r' || c == '\u0085'

/-- Whether the next character, or the end, sets off what is before it. -/
def isSetOff : List Char → Bool
  | [] => true
  | c :: _ => isBlank c || isAnyBreak c || c == '\x00'

/-- Characters that would be read as something else at the start of a plain text. -/
def startsOther : List Char → Bool
  | [] => false
  | c :: r =>
    "#,[]\x7b\x7d&*!|>'\"%@`".toList.contains c || ((c == '?' || c == ':' || c == '-') && isSetOff r)

/-- A `:` that would end a key, or a `#` that would start a comment, after the first character. -/
def holdsIndicator : Char → List Char → Bool
  | _, [] => false
  | before, c :: r =>
    (c == ':' && isSetOff r) || (c == '#' && isSetOff [before]) || holdsIndicator c r

def startsTriple (cs : List Char) : Bool :=
  "---".toList.isPrefixOf cs || "...".toList.isPrefixOf cs

/-- Whether a character of one kind comes right before one of another. -/
def holdsPair (p q : Char → Bool) : List Char → Bool
  | a :: b :: r => (p a && q b) || holdsPair p q (b :: r)
  | _ => false

def isSpace (c : Char) : Bool := c == ' '

/-- Text that only escapes can carry: unprintable characters, and spaces before a line break. -/
def needsEscape (cs : List Char) : Bool := cs.any (!isPrintable ·) || holdsPair isSpace isAnyBreak cs

def plainAllowed (cs : List Char) : Bool :=
  match cs with
  | [] => true
  | c :: r =>
    !needsEscape cs && !cs.any isAnyBreak && !isSpace c && !isSpace (cs.getLast?.getD c) &&
      !startsTriple cs && !startsOther cs && !holdsIndicator c r

def singleAllowed (cs : List Char) : Bool := !needsEscape cs && !holdsPair isAnyBreak isSpace cs

def literalAllowed (cs : List Char) : Bool := !needsEscape cs && !(cs.getLast?.map isSpace).getD false

/-- Text that a reader would take for something else without quotes. -/
def looksTyped (s : String) : Bool :=
  (match resolvePlain s with | .string _ => false | _ => true) || Plain.hasLeadingZero (Plain.unsigned s.toList)

def styleOf (s : String) : ScalarStyle :=
  let cs := s.toList
  if cs.contains '\n' then (if literalAllowed cs then .literal else .doubleQuoted)
  else if !looksTyped s && plainAllowed cs then .plain
  else if singleAllowed cs then .singleQuoted
  else .doubleQuoted

def hexDigit (n : Nat) : Char := Char.ofNat (if n < 10 then '0'.toNat + n else 'A'.toNat + (n - 10))

def hexDigits : Nat → Nat → List Char
  | 0, _ => []
  | k + 1, n => hexDigits k (n / 16) ++ [hexDigit (n % 16)]

/-- The letter that stands for a character after a backslash. -/
def escapeLetter? (c : Char) : Option Char :=
  if c = '\x00' then some '0'
  else if c = '\x07' then some 'a'
  else if c = '\x08' then some 'b'
  else if c = '\t' then some 't'
  else if c = '\n' then some 'n'
  else if c = '\x0b' then some 'v'
  else if c = '\x0c' then some 'f'
  else if c = '\r' then some 'r'
  else if c = '\x1b' then some 'e'
  else if c = '"' then some '"'
  else if c = '\\' then some '\\'
  else if c = '\u0085' then some 'N'
  else if c = '\u2028' then some 'L'
  else if c = '\u2029' then some 'P'
  else none

def escaped (c : Char) : List Char :=
  match escapeLetter? c with
  | some letter => ['\\', letter]
  | none =>
    if c.toNat ≤ 0xff then '\\' :: 'x' :: hexDigits 2 c.toNat
    else if c.toNat ≤ 0xffff then '\\' :: 'u' :: hexDigits 4 c.toNat
    else '\\' :: 'U' :: hexDigits 8 c.toNat

def isEscaped (c : Char) : Bool := !isPrintable c || isAnyBreak c || c == '"' || c == '\\'

def doubleQuoted (cs : List Char) : List Char :=
  '"' :: (cs.flatMap fun c => if isEscaped c then escaped c else [c]) ++ ['"']

def spaces (n : Nat) : List Char := List.replicate n ' '

/-- The text between single quotes; `broken` says that a line was just begun. -/
def singleQuotedFrom (indent : Nat) : Bool → List Char → List Char
  | broken, [] => if broken then spaces indent else []
  | broken, c :: r =>
    if isSpace c then c :: singleQuotedFrom indent broken r
    else if isAnyBreak c then c :: singleQuotedFrom indent true r
    else (if broken then spaces indent else []) ++ (if c = '\'' then ['\'', '\''] else [c]) ++
      singleQuotedFrom indent false r

def singleQuoted (indent : Nat) (cs : List Char) : List Char :=
  '\'' :: singleQuotedFrom indent false cs ++ ['\'']

/-- The lines of a literal block; `fresh` says that a line was just begun. -/
def literalLines (indent : Nat) : Bool → List Char → List Char
  | _, [] => []
  | fresh, c :: r =>
    if isAnyBreak c then c :: literalLines indent true r
    else (if fresh then spaces indent else []) ++ c :: literalLines indent false r

/-- The indentation has to be given where the text does not show it. -/
def indentHint (cs : List Char) : List Char :=
  match cs with
  | c :: _ => if isSpace c || isAnyBreak c then ['2'] else []
  | [] => []

/-- How the text ends: with no line break, with one after text, or otherwise. -/
def chompHint (cs : List Char) : List Char :=
  match cs.reverse with
  | [] => ['-']
  | [c] => if isAnyBreak c then ['+'] else ['-']
  | c :: d :: _ => if !isAnyBreak c then ['-'] else if isAnyBreak d then ['+'] else []

def endsLine (cs : List Char) : Bool := (cs.getLast?.map isAnyBreak).getD false

def literal (indent : Nat) (cs : List Char) : List Char :=
  '|' :: indentHint cs ++ chompHint cs ++ '\n' :: literalLines indent true cs ++
    if endsLine cs then [] else ['\n']

/-- A text and the end of its line. -/
def printString (indent : Nat) (s : String) : List Char :=
  let cs := s.toList
  match styleOf s with
  | .literal | .folded => literal indent cs
  | .doubleQuoted => doubleQuoted cs ++ ['\n']
  | .singleQuoted => singleQuoted indent cs ++ ['\n']
  | .plain => cs ++ ['\n']

/-- A key is written without its indicator if it is short and on one line. -/
def isSimpleKey (s : String) : Bool := !s.toList.any isAnyBreak && s.utf8ByteSize ≤ 128

/-- A key without its indicator. -/
def printKey (s : String) : List Char :=
  let cs := s.toList
  match styleOf s with
  | .plain => cs
  | .singleQuoted => singleQuoted 0 cs
  | _ => doubleQuoted cs

namespace Value

/-- A scalar or an empty collection, and the end of its line. -/
def printLeaf (indent : Nat) : Value → List Char
  | .null => "null\n".toList
  | .bool b => (if b then "true\n" else "false\n").toList
  | .int n => (toString n).toList ++ ['\n']
  | .float x => x.compact.toList ++ ['\n']
  | .string s => printString indent s
  | .sequence _ => "[]\n".toList
  | .mapping _ => "\x7b\x7d\n".toList

mutual

/-- What follows `key:` in a mapping at column `n`. A sequence there is not indented any further. -/
def printAfterKey (n : Nat) : Value → List Char
  | .mapping (e :: es) => '\n' :: spaces (n + 2) ++ printEntries (n + 2) (e :: es)
  | .sequence (v :: vs) => '\n' :: spaces n ++ printItems n (v :: vs)
  | v => ' ' :: printLeaf (n + 2) v

/-- What follows an indicator at column `n`; a collection starts on the same line. -/
def printAfterIndicator (n : Nat) : Value → List Char
  | .mapping (e :: es) => ' ' :: printEntries (n + 2) (e :: es)
  | .sequence (v :: vs) => ' ' :: printItems (n + 2) (v :: vs)
  | v => ' ' :: printLeaf (n + 2) v

def printEntries (n : Nat) : List (String × Value) → List Char
  | [] => []
  | (key, v) :: r =>
    (if isSimpleKey key then printKey key ++ ':' :: printAfterKey n v
     else '?' :: ' ' :: printString (n + 2) key ++ spaces n ++ ':' :: printAfterIndicator n v) ++
    (if r.isEmpty then [] else spaces n ++ printEntries n r)

def printItems (n : Nat) : List Value → List Char
  | [] => []
  | v :: r => '-' :: printAfterIndicator n v ++ (if r.isEmpty then [] else spaces n ++ printItems n r)

end

/-- A whole document. -/
def print : Value → List Char
  | .mapping (e :: es) => printEntries 0 (e :: es)
  | .sequence (v :: vs) => printItems 0 (v :: vs)
  | v => printLeaf 2 v

def render (v : Value) : String := String.ofList v.print

end Value
end MachineOperator.Yaml
