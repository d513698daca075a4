import MachineOperator.Yaml.Cursor
import MachineOperator.Yaml.Fault
import MachineOperator.Yaml.Source
import MachineOperator.Yaml.Token

/-!
Anchors, aliases, tags and directives: the short tokens that are made of names and addresses.
-/
namespace MachineOperator.Yaml

def isUriChar (verbatim : Bool) (c : Char) : Bool :=
  isNameChar c || ";/?:@&=+$.%!~*'()".toList.contains c || (verbatim && ",[]".toList.contains c)

/-- A percent sign and two hexadecimal digits. -/
def octet? : List Char → Option UInt8
  | '%' :: a :: b :: _ => do return .ofNat ((← hexDigit? a) * 16 + (← hexDigit? b))
  | _ => none

/-- The bytes after the first of an escaped character. -/
def readTrail (fault : Problem → Mark → Fault) : Nat → Cursor → Except Fault (List UInt8 × Cursor)
  | 0, c => .ok ([], c)
  | n + 1, c =>
    match octet? c.rest with
    | none => .error (fault .noOctet c.mark)
    | some b =>
      if b &&& 0xc0 = 0x80 then do
        let (bs, c) ← readTrail fault n (c.skips 3)
        return (b :: bs, c)
      else .error (fault .trailingOctet c.mark)

/-- A character written as escaped bytes. Bytes that make up no character stand for U+FFFD. -/
def readEscapedChar (fault : Problem → Mark → Fault) (c : Cursor) : Except Fault (Char × Cursor) :=
  match octet? c.rest with
  | none => .error (fault .noOctet c.mark)
  | some lead =>
    match Source.width lead with
    | none => .error (fault .leadingOctet c.mark)
    | some size => do
      let (trail, c) ← readTrail fault (size - 1) (c.skips 3)
      return (((String.fromUTF8? ⟨(lead :: trail).toArray⟩).bind (·.toList.head?)).getD '\ufffd', c)

/-- The characters of an address, as far as they go. -/
def readUriChars (verbatim : Bool) (fault : Problem → Mark → Fault) :
    Nat → Cursor → List Char → Except Fault (List Char × Cursor)
  | 0, c, acc => .ok (acc.reverse, c)
  | fuel + 1, c, acc =>
    match c.rest with
    | '%' :: _ => do
      let (x, c) ← readEscapedChar fault c
      readUriChars verbatim fault fuel c (x :: acc)
    | x :: _ => if isUriChar verbatim x then readUriChars verbatim fault fuel c.skip (x :: acc) else .ok (acc.reverse, c)
    | [] => .ok (acc.reverse, c)

/-- An address that begins with `head`, which was read already. -/
def readUri (verbatim : Bool) (fault : Problem → Mark → Fault) (head : List Char) (c : Cursor) :
    Except Fault (String × Cursor) := do
  let (chars, c) ← readUriChars verbatim fault c.rest.length c []
  if head.isEmpty && chars.isEmpty then throw (fault .noTagUri c.mark)
  return (String.ofList (head.tail ++ chars), c)

/-- A tag handle: `!`, a name, and `!` if it follows. -/
def readHandle (fault : Problem → Mark → Fault) (c : Cursor) : Except Fault (List Char × Cursor) :=
  if !c.peekIs '!' then .error (fault .missingBang c.mark)
  else
    let (name, c) := c.skip.span isNameChar
    if c.peekIs '!' then .ok ('!' :: (name ++ ['!']), c.skip) else .ok ('!' :: name, c)

/-- An anchor or an alias, past its indicator. -/
def readName (activity : Activity) (c : Cursor) : Except Fault (String × Cursor) :=
  let start := c.mark
  let (name, c) := c.skip.span isNameChar
  if name.isEmpty || !(isDivider c.rest || (c.rest.head?.map "?:,]\x7d%@`".toList.contains).getD false) then
    .error (.text .noName c.mark (some (activity, start)))
  else .ok (String.ofList name, c)

/-- A tag: `!<address>`, `!suffix` or `!handle!suffix`, and the lone `!`. -/
def readTag (flow : Bool) (c : Cursor) : Except Fault (Token.Kind × Cursor) := do
  let start := c.mark
  let inUri := fun problem place => Fault.text problem place (some (.tagUri, start))
  let inTag := fun problem place => Fault.text problem place (some (.tag, start))
  let (handle, suffix, c) ←
    if c.skip.peekIs '<' then do
      let (suffix, c) ← readUri true inUri [] (c.skips 2)
      if !c.peekIs '>' then throw (inTag .missingCloseTag c.mark)
      pure ("", suffix, c.skip)
    else do
      let (handle, c) ← readHandle inTag c
      if handle.length ≥ 2 && handle.getLast? == some '!' then
        let (suffix, c) ← readUri false inUri [] c
        pure (String.ofList handle, suffix, c)
      else
        let (suffix, c) ← readUri false inUri handle c
        pure (if suffix.isEmpty then ("", "!", c) else ("!", suffix, c))
  if !(flow && c.peekIs ',') && !isDivider c.rest then throw (inTag .tagTail c.mark)
  return (.tag handle suffix, c)

/-- A version number has at most nine digits. -/
def readVersionNumber (start : Mark) (c : Cursor) : Except Fault (Nat × Cursor) :=
  let (digits, after) := c.span isDecDigit
  if digits.isEmpty then .error (.text .noVersion c.mark (some (.versionDirective, start)))
  else if digits.length > 9 then .error (.text .longVersion (c.skips 9).mark (some (.versionDirective, start)))
  else .ok (digits.foldl (fun n d => n * 10 + (d.toNat - '0'.toNat)) 0, after)

def readVersionDirective (start : Mark) (c : Cursor) : Except Fault (Token.Kind × Cursor) := do
  let (major, c) ← readVersionNumber start (c.skipWhile isBlank)
  if !c.peekIs '.' then throw (.text .digitOrDot c.mark (some (.versionDirective, start)))
  let (minor, c) ← readVersionNumber start c.skip
  return (.versionDirective major minor, c)

def readTagDirective (start : Mark) (c : Cursor) : Except Fault (Token.Kind × Cursor) := do
  let fault := fun activity problem place => Fault.text problem place (some (activity, start))
  let (handle, c) ← readHandle (fault .directive) (c.skipWhile isBlank)
  if handle.length ≥ 2 && handle.getLast? != some '!' then throw (fault .directiveHandle .missingBang c.mark)
  if !(c.rest.head?.map isBlank).getD false then throw (fault .tagDirective .directiveSpace c.mark)
  let (uri, c) ← readUri true (fault .tagDirectiveUri) [] (c.skipWhile isBlank)
  if !isDivider c.rest then throw (fault .tagDirective .directiveSpaceOrBreak c.mark)
  return (.tagDirective (String.ofList handle) uri, c)

/-- A directive and the rest of its line. -/
def readDirective (c : Cursor) : Except Fault (Token.Kind × Cursor) := do
  let start := c.mark
  let fault := fun problem place => Fault.text problem place (some (.directive, start))
  let (name, c) := c.skip.span isNameChar
  if name.isEmpty then throw (fault .noDirectiveName c.mark)
  if !isDivider c.rest then throw (fault .nonAlphabetical c.mark)
  let (kind, c) ←
    if String.ofList name = "YAML" then readVersionDirective start c
    else if String.ofList name = "TAG" then readTagDirective start c
    else throw (fault .unknownDirective c.mark)
  let c := (c.skipWhile isBlank).skipComment
  if !c.atLineEnd then throw (fault .directiveTail c.mark)
  return (kind, c.skipBreak)

end MachineOperator.Yaml
