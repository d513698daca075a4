import MachineOperator.Yaml.Fault

/-!
The characters of a text. A text is given as bytes; it is read in blocks, and a block that holds a byte
that may not occur yields none of its characters. Line breaks of every common spelling are read as `'\n'`;
the two Unicode separators break lines too but stay as they are.
-/
namespace MachineOperator.Yaml

/-- The characters that can be read, and the fault that is met when they run out, if there is one. -/
structure Source where
  chars : List Char
  fault : Option Fault

namespace Source

def isAllowed (c : Char) : Bool :=
  c == '\t' || c == '\n' || c == '\r' || (' ' ≤ c && c ≤ '~') || c == '\u0085' ||
    ('\u00a0' ≤ c && c ≠ '\ufffe' && c ≠ '\uffff')

def normalizeBreaks : List Char → List Char
  | [] => []
  | '\r' :: '\n' :: r => '\n' :: normalizeBreaks r
  | c :: r => (if c = '\r' ∨ c = '\u0085' then '\n' else c) :: normalizeBreaks r

/-- How many bytes a character takes, by its first byte. -/
def width (lead : UInt8) : Option Nat :=
  if lead < 0x80 then some 1
  else if lead &&& 0xe0 = 0xc0 then some 2
  else if lead &&& 0xf0 = 0xe0 then some 3
  else if lead &&& 0xf8 = 0xf0 then some 4
  else none

/-- The bits that the first byte of a character of that many bytes holds. -/
def leadBits (lead : UInt8) : Nat → Nat
  | 1 => lead.toNat
  | 2 => (lead &&& 0x1f).toNat
  | 3 => (lead &&& 0x0f).toNat
  | _ => (lead &&& 0x07).toNat

/-- The value that the bytes after the first add to; a byte of another kind is named by its position. -/
def trailBits (value : Nat) (position : Nat) : List UInt8 → Except Nat Nat
  | [] => .ok value
  | b :: r =>
    if b &&& 0xc0 = 0x80 then trailBits (value * 64 + (b &&& 0x3f).toNat) (position + 1) r
    else .error position

def isShortest (value size : Nat) : Bool :=
  size == 1 || (size == 2 && 0x80 ≤ value) || (size == 3 && 0x800 ≤ value) || (size == 4 && 0x10000 ≤ value)

/-- The character made of exactly these bytes, which start at `offset`. -/
def character (offset : Nat) (lead : UInt8) (trail : List UInt8) : Except Fault Char :=
  let size := trail.length + 1
  match trailBits (leadBits lead size) 1 trail with
  | .error position => .error (.bytes .trailingOctet (offset + position))
  | .ok value =>
    if !isShortest value size then .error (.bytes .length offset)
    else if h : value.isValidChar then
      let c := Char.ofNatAux value h
      if isAllowed c then .ok c else .error (.bytes .controlCharacter offset)
    else .error (.bytes .character offset)

/-- How many bytes are read at a time. -/
def blockSize : Nat := 16384

/-- The characters of the blocks that are complete, newest first, and those of the block being read. -/
structure Blocks where
  complete : List Char
  current : List Char
  blockEnd : Nat

/-- Starts a block at `offset` when the next character does not fit into the one being read. -/
def Blocks.fit (b : Blocks) (offset size : Nat) : Blocks :=
  if offset + size ≤ b.blockEnd then b else ⟨b.current ++ b.complete, [], offset + blockSize⟩

def scan : Nat → Nat → Blocks → List UInt8 → Source
  | 0, _, blocks, _ => ⟨(blocks.current ++ blocks.complete).reverse, none⟩
  | _ + 1, _, blocks, [] => ⟨(blocks.current ++ blocks.complete).reverse, none⟩
  | fuel + 1, offset, blocks, lead :: rest =>
    match width lead with
    | none => ⟨(blocks.fit offset 1).complete.reverse, some (.bytes .leadingOctet offset)⟩
    | some size =>
      let blocks := blocks.fit offset size
      let trail := rest.take (size - 1)
      if trail.length < size - 1 then
        ⟨(blocks.current ++ blocks.complete).reverse, some (.bytes .incomplete offset)⟩
      else
        match character offset lead trail with
        | .error fault => ⟨blocks.complete.reverse, some fault⟩
        | .ok c => scan fuel (offset + size) { blocks with current := c :: blocks.current } (rest.drop (size - 1))

def ofString (s : String) : Source :=
  if s.toList.all isAllowed then ⟨normalizeBreaks s.toList, none⟩
  else
    let bytes := s.toUTF8
    let source := scan bytes.size 0 ⟨[], [], blockSize⟩ bytes.toList
    { source with chars := normalizeBreaks source.chars }

def ofBytes (bytes : ByteArray) : Source :=
  match String.fromUTF8? bytes with
  | some s => ofString s
  | none =>
    let source := scan bytes.size 0 ⟨[], [], blockSize⟩ bytes.toList
    { source with chars := normalizeBreaks source.chars }

end Source
end MachineOperator.Yaml
