import MachineOperator.Yaml.Source
import MachineOperator.Yaml.Token.Property
import MachineOperator.Yaml.Token.Scalar

/-!
From characters to tokens. A key need not be marked: what was read turns out to be one when a `:` follows it
on the same line, and its token is put in front of it then. So a token that may still turn out to follow a
key's token waits in a queue. The columns where block collections start are a stack, innermost first.
-/
namespace MachineOperator.Yaml

/-- A place where an unmarked key may have started: how many tokens came before it, and whether the text is
malformed if it turns out to be none. -/
structure PendingKey where
  required : Bool
  number : Nat
  mark : Mark

structure Scanner where
  cursor : Cursor
  /-- The columns of the open block collections, innermost first. -/
  indents : List Nat
  /-- Whether an unmarked key may start here. -/
  keyAllowed : Bool
  /-- The pending key at this level of nested flow collections. -/
  key : Option PendingKey
  /-- Those of the levels around it; there is one for each open flow collection. -/
  outer : List (Option PendingKey)
  /-- Tokens that wait, oldest first. -/
  queue : List Token
  /-- How many tokens have left the queue. -/
  released : Nat
  ended : Bool

namespace Scanner

def start (source : List Char) : Scanner :=
  ⟨⟨source, .origin⟩, [], true, none, [], [], 0, false⟩

def inFlow (s : Scanner) : Bool := !s.outer.isEmpty

/-- One more than the column of the innermost block collection, and zero outside all. -/
def parent (s : Scanner) : Nat :=
  match s.indents with
  | [] => 0
  | i :: _ => i + 1

def mark (s : Scanner) : Mark := s.cursor.mark

def push (s : Scanner) (kind : Token.Kind) (start : Mark) : Scanner :=
  { s with queue := s.queue ++ [⟨kind, start⟩] }

/-- Puts a token in front of the token with that number. -/
def insert (s : Scanner) (number : Nat) (kind : Token.Kind) (start : Mark) : Scanner :=
  let n := number - s.released
  { s with queue := s.queue.take n ++ ⟨kind, start⟩ :: s.queue.drop n }

def fault (s : Scanner) (problem : Problem) (context : Option (Activity × Mark)) : Fault :=
  .text problem s.mark context

/-- Gives up the pending key of this level, which is a fault if it had to be one. -/
def dropKey (s : Scanner) : Except Fault Scanner :=
  match s.key with
  | some k => if k.required then .error (s.fault .missingColon (some (.simpleKey, k.mark))) else .ok { s with key := none }
  | none => .ok s

/-- A node may be a key if it starts where a key may start. -/
def saveKey (s : Scanner) : Except Fault Scanner :=
  if s.keyAllowed then do
    let required := !s.inFlow && s.parent == s.mark.column + 1
    let s' ← s.dropKey
    return { s' with key := some ⟨required, s.released + s.queue.length, s.mark⟩ }
  else .ok s

/-- A pending key ends with its line, and after 1024 characters. -/
def isStale (s : Scanner) (k : PendingKey) : Bool :=
  k.mark.line < s.mark.line || k.mark.column + 1024 < s.mark.column

def dropStaleKey (s : Scanner) (key : Option PendingKey) : Except Fault (Option PendingKey) :=
  match key with
  | some k =>
    if s.isStale k then
      if k.required then .error (s.fault .missingColon (some (.simpleKey, k.mark))) else .ok none
    else .ok key
  | none => .ok none

/-- Outer levels are looked at first. -/
def dropStaleKeys (s : Scanner) : Except Fault Scanner := do
  let outer ← s.outer.reverse.mapM s.dropStaleKey
  let key ← s.dropStaleKey s.key
  return { s with key, outer := outer.reverse }

/-- Opens a block collection at a column to the right of the innermost one. -/
def openBlock (s : Scanner) (column : Nat) (number : Option Nat) (kind : Token.Kind) (start : Mark) : Scanner :=
  if s.inFlow || column < s.parent then s
  else
    let s := { s with indents := column :: s.indents }
    match number with
    | none => s.push kind start
    | some n => s.insert n kind start

/-- The block collections that end at a column, of those open. -/
def closing (column : Nat) (indents : List Nat) : List Nat := indents.takeWhile (column < ·)

/-- Closes the block collections to the right of a column. -/
def closeBlocks (s : Scanner) (column : Nat) : Scanner :=
  if s.inFlow then s
  else
    { s with
      indents := s.indents.dropWhile (column < ·)
      queue := s.queue ++ (closing column s.indents).map fun _ => ⟨.blockEnd, s.mark⟩ }

def closeAllBlocks (s : Scanner) : Scanner :=
  if s.inFlow then s
  else { s with indents := [], queue := s.queue ++ s.indents.map fun _ => ⟨.blockEnd, s.mark⟩ }

/-- Past blanks, comments and line breaks. Tabs are blanks only where no key may start. -/
def skipBlanks (flow : Bool) : List Char → Mark → Bool → Bool → Cursor × Bool
  | [], m, allowed, _ => (⟨[], m⟩, allowed)
  | c :: r, m, allowed, comment =>
    if isBreak c then skipBlanks flow r m.newline (allowed || !flow) false
    else if comment then skipBlanks flow r m.next allowed true
    else if c == '\ufeff' && m.column == 0 then skipBlanks flow r m.next allowed false
    else if c == ' ' || (c == '\t' && (flow || !allowed)) then skipBlanks flow r m.next allowed false
    else if c == '#' then skipBlanks flow r m.next allowed true
    else (⟨c :: r, m⟩, allowed)

def toNextToken (s : Scanner) : Scanner :=
  let (cursor, keyAllowed) := skipBlanks s.inFlow s.cursor.rest s.mark s.keyAllowed false
  { s with cursor, keyAllowed }

/-- A token of one character. -/
def takeIndicator (s : Scanner) (kind : Token.Kind) : Scanner :=
  { s.push kind s.mark with cursor := s.cursor.skip }

def takeEnd (s : Scanner) : Except Fault Scanner := do
  let s := if s.mark.column = 0 then s else { s with cursor := ⟨[], s.mark.newline⟩ }
  let s ← s.closeAllBlocks.dropKey
  return { s.push .streamEnd s.mark with keyAllowed := false, ended := true }

def takeDirective (s : Scanner) : Except Fault Scanner := do
  let s ← s.closeAllBlocks.dropKey
  let (kind, cursor) ← readDirective s.cursor
  return { s.push kind s.mark with keyAllowed := false, cursor }

def takeDocumentIndicator (s : Scanner) (kind : Token.Kind) : Except Fault Scanner := do
  let s ← s.closeAllBlocks.dropKey
  return { s.push kind s.mark with keyAllowed := false, cursor := s.cursor.skips 3 }

def takeFlowStart (s : Scanner) (kind : Token.Kind) : Except Fault Scanner := do
  let s ← s.saveKey
  return { s.takeIndicator kind with keyAllowed := true, key := none, outer := s.key :: s.outer }

def takeFlowEnd (s : Scanner) (kind : Token.Kind) : Except Fault Scanner := do
  let s ← s.dropKey
  let s :=
    match s.outer with
    | [] => s
    | key :: outer => { s with key, outer }
  return { s.takeIndicator kind with keyAllowed := false }

def takeFlowEntry (s : Scanner) : Except Fault Scanner := do
  let s ← s.dropKey
  return { s.takeIndicator .flowEntry with keyAllowed := true }

def takeBlockEntry (s : Scanner) : Except Fault Scanner := do
  if !s.inFlow && !s.keyAllowed then throw (s.fault .entryNotAllowed none)
  let s ← (s.openBlock s.mark.column none .blockSequenceStart s.mark).dropKey
  return { s.takeIndicator .blockEntry with keyAllowed := true }

def takeKey (s : Scanner) : Except Fault Scanner := do
  if !s.inFlow && !s.keyAllowed then throw (s.fault .keyNotAllowed none)
  let s ← (s.openBlock s.mark.column none .blockMappingStart s.mark).dropKey
  return { s.takeIndicator (.key true) with keyAllowed := !s.inFlow }

/-- A `:` makes the pending key a key; without one it belongs to a marked key, or to an empty one. -/
def takeValue (s : Scanner) : Except Fault Scanner :=
  match s.key with
  | some k =>
    let s := (s.insert k.number (.key false) k.mark).openBlock k.mark.column (some k.number) .blockMappingStart k.mark
    .ok { s.takeIndicator .value with key := none, keyAllowed := false }
  | none => do
    if !s.inFlow && !s.keyAllowed then throw (s.fault .valueNotAllowed none)
    let s := s.openBlock s.mark.column none .blockMappingStart s.mark
    return { s.takeIndicator .value with keyAllowed := !s.inFlow }

def takeName (s : Scanner) (activity : Activity) (kind : String → Token.Kind) : Except Fault Scanner := do
  let s ← s.saveKey
  let (name, cursor) ← readName activity s.cursor
  return { s.push (kind name) s.mark with keyAllowed := false, cursor }

def takeTag (s : Scanner) : Except Fault Scanner := do
  let s ← s.saveKey
  let (kind, cursor) ← readTag s.inFlow s.cursor
  return { s.push kind s.mark with keyAllowed := false, cursor }

def takeBlockScalar (s : Scanner) (style : ScalarStyle) : Except Fault Scanner := do
  let s ← s.dropKey
  let read ← readBlock (style = .literal) s.parent s.cursor
  return { s.push (.scalar style read.text) s.mark with keyAllowed := true, cursor := read.cursor }

def takeScalar (s : Scanner) (style : ScalarStyle) (read : Mark → List Char → Mark → Except Fault ScalarRead)
    (skip : Nat) : Except Fault Scanner := do
  let s ← s.saveKey
  let inside := s.cursor.skips skip
  let read ← read s.mark inside.rest inside.mark
  return { s.push (.scalar style read.text) s.mark with keyAllowed := read.lineEnded, cursor := read.cursor }

def takePlain (s : Scanner) : Except Fault Scanner :=
  s.takeScalar .plain (fun start rest m => readPlain s.inFlow s.parent start rest m [] .none) 0

def takeSingleQuoted (s : Scanner) : Except Fault Scanner :=
  s.takeScalar .singleQuoted (fun start rest m => readSingleQuoted start rest m [] .none) 1

def takeDoubleQuoted (s : Scanner) : Except Fault Scanner :=
  s.takeScalar .doubleQuoted (fun start rest m => readDoubleQuoted start rest m [] .none none) 1

/-- Indicators that no plain scalar starts with, whatever follows. -/
def isIndicator (c : Char) : Bool := ",[]\x7b\x7d#&*!|>'\"%@`".toList.contains c

/-- Whether a plain scalar may start with these characters. -/
def startsPlain (flow : Bool) : List Char → Bool
  | [] => false
  | '-' :: r => !(r.head?.map isBlank).getD false
  | c :: r =>
    if c == '?' || c == ':' then !flow && !isDivider r
    else !isBlank c && !isBreak c && !isIndicator c

/-- The token at the cursor, which stands on no blank. -/
def takeToken (s : Scanner) : Except Fault Scanner :=
  let flow := s.inFlow
  let atStart := s.mark.column == 0
  match s.cursor.rest with
  | [] => s.takeEnd
  | c :: r =>
    if atStart && c == '%' then s.takeDirective
    else if atStart && startsIndicator '-' (c :: r) then s.takeDocumentIndicator .documentStart
    else if atStart && startsIndicator '.' (c :: r) then s.takeDocumentIndicator .documentEnd
    else if c == '[' then s.takeFlowStart .flowSequenceStart
    else if c == '{' then s.takeFlowStart .flowMappingStart
    else if c == ']' then s.takeFlowEnd .flowSequenceEnd
    else if c == '}' then s.takeFlowEnd .flowMappingEnd
    else if c == ',' then s.takeFlowEntry
    else if c == '-' && isDivider r then s.takeBlockEntry
    else if c == '?' && (flow || isDivider r) then s.takeKey
    else if c == ':' && (flow || isDivider r) then s.takeValue
    else if c == '*' then s.takeName .alias .alias
    else if c == '&' then s.takeName .anchor .anchor
    else if c == '!' then s.takeTag
    else if c == '|' && !flow then s.takeBlockScalar .literal
    else if c == '>' && !flow then s.takeBlockScalar .folded
    else if c == '\'' then s.takeSingleQuoted
    else if c == '"' then s.takeDoubleQuoted
    else if startsPlain flow (c :: r) then s.takePlain
    else .error (s.fault .noToken (some (.nextToken, s.mark)))

/-- Reads on until a token has been added to the queue. -/
def advance (s : Scanner) : Except Fault Scanner := do
  let s ← s.toNextToken.dropStaleKeys
  (s.closeBlocks s.mark.column).takeToken

/-- How many tokens wait for nothing: those before the first pending key. -/
def readyCount (s : Scanner) : Nat :=
  ((s.key :: s.outer).filterMap id).foldl (fun n k => min n (k.number - s.released)) s.queue.length

/-- The tokens that need not wait, taken off the queue. -/
def release (s : Scanner) : Except Fault (List Token × Scanner) := do
  let s ← if s.queue.isEmpty then pure s else s.dropStaleKeys
  let n := s.readyCount
  return (s.queue.take n, { s with queue := s.queue.drop n, released := s.released + n })

/-- Where the characters end early, a scalar that is not closed is no fault of its own. -/
def atEnd (ending : Option Fault) (f : Fault) : Fault :=
  match f with
  | .text .endOfStream _ _ => ending.getD f
  | _ => f

/-- Where the characters end early, what is read last may go on. -/
def whole (ending : Option Fault) (s : Scanner) : Except Fault Scanner :=
  match ending with
  | some f => if s.cursor.rest.isEmpty then .error f else .ok s
  | none => .ok s

def tokens (ending : Option Fault) : Nat → Scanner → List Token × Option Fault
  | 0, _ => ([], none)
  | fuel + 1, s =>
    match s.release with
    | .error f => ([], some f)
    | .ok (ready, s) =>
      if s.ended then (ready, none)
      else
        match s.advance with
        | .error f => (ready, some (atEnd ending f))
        | .ok s =>
          match whole ending s with
          | .error f => (ready, some f)
          | .ok s =>
            let (more, f) := tokens ending fuel s
            (ready ++ more, f)

end Scanner

/-- The tokens of a text up to its end, or up to the fault that ends it. -/
def Source.tokens (source : Source) : List Token × Option Fault :=
  Scanner.tokens source.fault (source.chars.length + 3) (.start source.chars)

end MachineOperator.Yaml
