import MachineOperator.Yaml.Cursor
import MachineOperator.Yaml.Fault
import MachineOperator.Yaml.Token

/-!
The contents of scalars in each style. Every reader takes one character at a time off the text and keeps
what it has read, newest first; blanks and line breaks are kept apart until it is known whether they
stand inside the scalar, and how they fold.
-/
namespace MachineOperator.Yaml

/-- Blanks and line breaks read but not yet part of a scalar, newest first. -/
inductive Gap where
  | blanks (chars : List Char)
  /-- The first line break, or nothing where it was escaped, and the breaks after it. -/
  | lines (first : Option Char) (more : List Char)
deriving DecidableEq

namespace Gap

def none : Gap := .blanks []

def isNone : Gap → Bool
  | .blanks [] => true
  | _ => false

def spansLines : Gap → Bool
  | .blanks _ => false
  | .lines _ _ => true

/-- Blanks next to a line break count for nothing. -/
def addBlank (c : Char) : Gap → Gap
  | .blanks cs => .blanks (c :: cs)
  | .lines first more => .lines first more

def addBreak (c : Char) : Gap → Gap
  | .blanks _ => .lines (some c) []
  | .lines first more => .lines first (c :: more)

/-- What a gap inside a scalar stands for, newest first: a single ordinary line break is a space, and of
several the first is dropped. -/
def folded : Gap → List Char
  | .blanks cs => cs
  | .lines (some '\n') [] => [' ']
  | .lines (some '\n') more => more
  | .lines (some c) more => more ++ [c]
  | .lines Option.none more => more

end Gap

/-- A scalar that has been read: its text, the cursor past it, and whether it ended in a later line than its
last character. -/
structure ScalarRead where
  text : String
  cursor : Cursor
  lineEnded : Bool

def ScalarRead.of (acc : List Char) (rest : List Char) (mark : Mark) (lineEnded : Bool) : ScalarRead :=
  ⟨String.ofList acc.reverse, ⟨rest, mark⟩, lineEnded⟩

def isFlowIndicator (c : Char) : Bool :=
  c == ',' || c == '[' || c == ']' || c == '{' || c == '}'

/-- A plain scalar whose continuation lines stand at column `indent` or after it. -/
def readPlain (flow : Bool) (indent : Nat) (start : Mark) :
    List Char → Mark → List Char → Gap → Except Fault ScalarRead
  | [], m, acc, gap => .ok (.of acc [] m gap.spansLines)
  | c :: r, m, acc, gap =>
    if isBlank c then
      if gap.spansLines && m.column < indent && c == '\t' then
        .error (.text .plainTab m (some (.plainScalar, start)))
      else readPlain flow indent start r m.next acc (gap.addBlank c)
    else if isBreak c then readPlain flow indent start r m.newline acc (gap.addBreak c)
    else if !gap.isNone && ((!flow && m.column < indent) || c == '#' ||
        (m.column == 0 && startsDocument (c :: r))) then
      .ok (.of acc (c :: r) m gap.spansLines)
    else if flow && c == ':' && (r.head?.map fun d => isFlowIndicator d || d == '?').getD false then
      .error (.text .unexpectedColon m (some (.plainScalar, start)))
    else if (c == ':' && isDivider r) || (flow && isFlowIndicator c) then
      .ok (.of acc (c :: r) m gap.spansLines)
    else readPlain flow indent start r m.next (c :: (gap.folded ++ acc)) .none

def readSingleQuoted (start : Mark) :
    List Char → Mark → List Char → Gap → Except Fault ScalarRead
  | [], m, _, _ => .error (.text .endOfStream m (some (.quotedScalar, start)))
  | '\'' :: '\'' :: r, m, acc, gap =>
    readSingleQuoted start r m.next.next ('\'' :: (gap.folded ++ acc)) .none
  | '\'' :: r, m, acc, gap => .ok (.of (gap.folded ++ acc) r m.next false)
  | c :: r, m, acc, gap =>
    if isBlank c then readSingleQuoted start r m.next acc (gap.addBlank c)
    else if isBreak c then readSingleQuoted start r m.newline acc (gap.addBreak c)
    else if m.column == 0 && startsDocument (c :: r) then
      .error (.text .documentIndicator m (some (.quotedScalar, start)))
    else readSingleQuoted start r m.next (c :: (gap.folded ++ acc)) .none

/-- Two quotes stand for one. -/
theorem readSingleQuoted_quote {start : Mark} {r acc : List Char} {m : Mark} {gap : Gap} :
    readSingleQuoted start ('\'' :: '\'' :: r) m acc gap =
      readSingleQuoted start r m.next.next ('\'' :: (gap.folded ++ acc)) .none := by
  simp [readSingleQuoted]

/-- What an escape of one letter stands for. -/
def letterEscape? : Char → Option Char
  | '0' => some '\x00'
  | 'a' => some '\x07'
  | 'b' => some '\x08'
  | 't' | '\t' => some '\t'
  | 'n' => some '\n'
  | 'v' => some '\x0b'
  | 'f' => some '\x0c'
  | 'r' => some '\r'
  | 'e' => some '\x1b'
  | ' ' => some ' '
  | '"' => some '"'
  | '/' => some '/'
  | '\\' => some '\\'
  | 'N' => some '\u0085'
  | '_' => some '\u00a0'
  | 'L' => some '\u2028'
  | 'P' => some '\u2029'
  | _ => none

/-- How many hexadecimal digits follow an escape letter. -/
def codeEscape? : Char → Option Nat
  | 'x' => some 2
  | 'u' => some 4
  | 'U' => some 8
  | _ => none

/-- The digits of an escape that are still to come, the value of those read, and where they start. -/
structure CodeEscape where
  left : Nat
  value : Nat
  start : Mark

def readDoubleQuoted (start : Mark) :
    List Char → Mark → List Char → Gap → Option CodeEscape → Except Fault ScalarRead
  | [], _, _, _, some code => .error (.text .noHexDigit code.start (some (.escape, start)))
  | c :: r, m, acc, gap, some code =>
    match hexDigit? c with
    | none => .error (.text .noHexDigit code.start (some (.escape, start)))
    | some d =>
      let value := code.value * 16 + d
      if code.left = 1 then
        if h : value.isValidChar then
          readDoubleQuoted start r m.next (Char.ofNatAux value h :: acc) gap none
        else .error (.text .escapeCode code.start (some (.escape, start)))
      else readDoubleQuoted start r m.next acc gap (some ⟨code.left - 1, value, code.start⟩)
  | [], m, _, _, none => .error (.text .endOfStream m (some (.quotedScalar, start)))
  | '"' :: r, m, acc, gap, none => .ok (.of (gap.folded ++ acc) r m.next false)
  | '\\' :: e :: r, m, acc, gap, none =>
    let acc := gap.folded ++ acc
    if isBreak e then readDoubleQuoted start r m.newline acc (.lines none []) none
    else
      match letterEscape? e, codeEscape? e with
      | some c, _ => readDoubleQuoted start r m.next.next (c :: acc) .none none
      | none, some digits => readDoubleQuoted start r m.next.next acc .none (some ⟨digits, 0, m.next.next⟩)
      | none, none => .error (.text .unknownEscape m (some (.escape, start)))
  | ['\\'], m, _, _, none => .error (.text .unknownEscape m (some (.escape, start)))
  | c :: r, m, acc, gap, none =>
    if isBlank c then readDoubleQuoted start r m.next acc (gap.addBlank c) none
    else if isBreak c then readDoubleQuoted start r m.newline acc (gap.addBreak c) none
    else if m.column == 0 && startsDocument (c :: r) then
      .error (.text .documentIndicator m (some (.quotedScalar, start)))
    else readDoubleQuoted start r m.next (c :: (gap.folded ++ acc)) .none none

/-- What becomes of the line breaks at the end of a block scalar. -/
inductive Chomping where
  | strip | clip | keep
deriving DecidableEq

/-- The head of a block scalar: how it ends, and how far its lines are indented if that is given. -/
structure BlockHead where
  chomping : Chomping
  increment : Option Nat

def chomping? : Char → Option Chomping
  | '+' => some .keep
  | '-' => some .strip
  | _ => none

/-- The two marks of a head stand in either order; an indentation of zero is refused. -/
def readBlockHead (start : Mark) (c : Cursor) : Except Fault (BlockHead × Cursor) :=
  let indentation (chomping : Chomping) (c : Cursor) : Except Fault (BlockHead × Cursor) :=
    match c.rest with
    | '0' :: _ => .error (.text .zeroIndent c.mark (some (.blockScalar, start)))
    | d :: _ =>
      if isDecDigit d then .ok (⟨chomping, some (d.toNat - '0'.toNat)⟩, c.skip) else .ok (⟨chomping, none⟩, c)
    | [] => .ok (⟨chomping, none⟩, c)
  match c.rest.head?.bind chomping? with
  | some chomping => indentation chomping c.skip
  | none => do
    let (head, c) ← indentation .clip c
    match head.increment, c.rest.head?.bind chomping? with
    | some _, some chomping => .ok ({ head with chomping }, c.skip)
    | _, _ => .ok (head, c)

/-- A block scalar while it is read. -/
structure BlockState where
  /-- The text so far, newest first. -/
  acc : List Char
  /-- The line break after the last line with text. -/
  leading : Option Char
  /-- The breaks of empty lines after that, newest first. -/
  trailing : List Char
  /-- The column of the text, once it is known. -/
  indent : Option Nat
  /-- The largest column reached before the first text. -/
  widest : Nat
  leadingBlank : Bool
  inLine : Bool

namespace BlockState

def breaks (s : BlockState) : List Char := s.trailing ++ s.leading.toList

/-- Whether a space at this column is indentation and not text. -/
def indents (s : BlockState) (column : Nat) : Bool :=
  match s.indent with
  | none => true
  | some i => column < i

/-- A folded scalar turns a lone break between two lines that start with text into a space. -/
def joined (s : BlockState) (literal : Bool) (blank : Bool) : List Char :=
  if !literal && s.leading == some '\n' && !s.leadingBlank && !blank then
    (if s.trailing.isEmpty then [' '] else s.trailing) ++ s.acc
  else s.breaks ++ s.acc

def chomped (s : BlockState) : Chomping → List Char
  | .strip => s.acc
  | .clip => s.leading.toList ++ s.acc
  | .keep => s.breaks ++ s.acc

end BlockState

/-- The lines of a block scalar whose parent is indented by `parent - 1`. -/
def readBlockLines (literal : Bool) (chomping : Chomping) (parent : Nat) (start : Mark) :
    List Char → Mark → BlockState → Except Fault ScalarRead
  | [], m, s => .ok (.of (s.chomped chomping) [] m true)
  | c :: r, m, s =>
    if s.inLine then
      if isBreak c then
        readBlockLines literal chomping parent start r m.newline { s with leading := some c, inLine := false }
      else readBlockLines literal chomping parent start r m.next { s with acc := c :: s.acc }
    else if c == ' ' && s.indents m.column then readBlockLines literal chomping parent start r m.next s
    else if c == '\t' && s.indents m.column then .error (.text .blockTab m (some (.blockScalar, start)))
    else
      let widest := max s.widest m.column
      if isBreak c then
        readBlockLines literal chomping parent start r m.newline { s with trailing := c :: s.trailing, widest }
      else
        let indent := s.indent.getD (max widest (max parent 1))
        if m.column = indent then
          let blank := isBlank c
          readBlockLines literal chomping parent start r m.next
            ⟨c :: s.joined literal blank, none, [], some indent, widest, blank, true⟩
        else .ok (.of (s.chomped chomping) (c :: r) m true)

/-- In a line every character but a line break is text. -/
theorem readBlockLines_inLine {literal : Bool} {chomping : Chomping} {parent : Nat} {start : Mark} {c : Char}
    {r : List Char} {m : Mark} {s : BlockState} (inside : s.inLine = true) (unbroken : isBreak c = false) :
    readBlockLines literal chomping parent start (c :: r) m s =
      readBlockLines literal chomping parent start r m.next { s with acc := c :: s.acc } := by
  simp [readBlockLines, inside, unbroken]

/-- A block scalar: its head, the rest of that line, and its lines. -/
def readBlock (literal : Bool) (parent : Nat) (c : Cursor) : Except Fault ScalarRead := do
  let start := c.mark
  let (head, c) ← readBlockHead start c.skip
  let c := (c.skipWhile isBlank).skipComment
  if !c.atLineEnd then throw (.text .blockTail c.mark (some (.blockScalar, start)))
  let c := c.skipBreak
  let indent := head.increment.map fun i => (parent - 1) + i
  readBlockLines literal head.chomping parent start c.rest c.mark ⟨[], none, [], indent, 0, false, false⟩

end MachineOperator.Yaml
