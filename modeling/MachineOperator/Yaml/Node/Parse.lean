import MachineOperator.Yaml.Node

/-!
From tokens to nodes, by recursive descent: what follows a token decides which node it starts. The tokens
that are left, and the anchors met so far, are passed along; where a fault is met nothing is left.
-/
namespace MachineOperator.Yaml.Node

/-- What is still to be read. Later anchors of a name hide earlier ones. -/
structure Rest where
  tokens : List Token
  names : List (String × Nat)

/-- What stays the same within a document: what tag handles stand for, and the fault that ends the tokens. -/
structure Setting where
  handles : List (String × String)
  ending : Fault

abbrev Piece (α : Type) := α × Option Rest

def stop (f : Fault) : Piece Node := (.broken f, none)

namespace Rest

/-- An anchor takes the number of anchor names there are; a name that is known keeps its place. -/
def register (r : Rest) : Option String → Option Nat × Rest
  | none => (none, r)
  | some name =>
    let id := r.names.length
    (some id, { r with names := (name, id) :: r.names.filter (·.1 != name) })

def find? (r : Rest) (name : String) : Option Nat := r.names.lookup name

end Rest

/-- The properties in front of a node: its anchor and its tag, in either order. -/
def takeProperties : List Token → Option String × Option (String × String × Mark) × List Token
  | ⟨.anchor name, _⟩ :: ⟨.tag handle suffix, m⟩ :: r => (some name, some (handle, suffix, m), r)
  | ⟨.anchor name, _⟩ :: r => (some name, none, r)
  | ⟨.tag handle suffix, m⟩ :: ⟨.anchor name, _⟩ :: r => (some name, some (handle, suffix, m), r)
  | ⟨.tag handle suffix, m⟩ :: r => (none, some (handle, suffix, m), r)
  | r => (none, none, r)

/-- The tag that a handle and a suffix stand for. -/
def resolveTag (cx : Setting) (start : Mark) : Option (String × String × Mark) → Except Fault (Option String)
  | none => .ok none
  | some (handle, suffix, m) =>
    if handle.isEmpty then .ok (some suffix)
    else
      match cx.handles.lookup handle with
      | some uri => .ok (some (uri ++ suffix))
      | none => .error (.text .undefinedHandle m (some (.node, start)))

def endsBlockNode : Token.Kind → Bool
  | .key _ | .value | .blockEnd => true
  | _ => false

def endsBlockItem : Token.Kind → Bool
  | .blockEntry | .blockEnd => true
  | _ => false

def endsIndentlessItem : Token.Kind → Bool
  | .blockEntry | .key _ | .value | .blockEnd => true
  | _ => false

def endsFlowItem : Token.Kind → Bool
  | .flowEntry | .flowSequenceEnd => true
  | _ => false

def endsFlowValue : Token.Kind → Bool
  | .flowEntry | .flowMappingEnd => true
  | _ => false

def isValue : Token.Kind → Bool
  | .value => true
  | _ => false

/-- A lone `!` says no more than that the content is text. -/
def scalarTag (tag : Option String) : Option String :=
  if tag = some "!" then none else tag

mutual

/-- A node. Where `indentless` holds a block sequence may start without further indentation. -/
def parse : Nat → Setting → Bool → Bool → Rest → Piece Node
  | 0, cx, _, _, _ => stop cx.ending
  | fuel + 1, cx, block, indentless, r =>
    match r.tokens with
    | [] => stop cx.ending
    | ⟨.alias name, m⟩ :: ts =>
      match r.find? name with
      | some target => (.alias target m, some { r with tokens := ts })
      | none => stop (.unknownAnchor m)
    | first :: _ =>
      let start := first.start
      let (name, tagParts, ts) := takeProperties r.tokens
      match ts with
      | [] => stop cx.ending
      | t :: more =>
        match resolveTag cx start tagParts with
        | .error f => stop f
        | .ok tag =>
          let (anchor, r) := { r with tokens := more }.register name
          let p : Properties := ⟨anchor, tag⟩
          match t.kind with
          | .scalar style text =>
            (.scalar { p with tag := scalarTag tag } style text start, some r)
          | .flowSequenceStart =>
            let (items, r) := parseFlowItems fuel cx true t.start r
            (.sequence p items start, r)
          | .flowMappingStart =>
            let (entries, r) := parseFlowEntries fuel cx true t.start r
            (.mapping p entries start, r)
          | kind =>
            if indentless && kind = .blockEntry then
              let (items, r) := parseIndentlessItems fuel cx { r with tokens := ts }
              (.sequence p items start, r)
            else if block && kind = .blockSequenceStart then
              let (items, r) := parseBlockItems fuel cx t.start r
              (.sequence p items start, r)
            else if block && kind = .blockMappingStart then
              let (entries, r) := parseBlockEntries fuel cx t.start r
              (.mapping p entries start, r)
            else if name.isSome || tag.isSome then (.scalar p .plain "" start, some { r with tokens := ts })
            else stop (.text .noContent t.start (some (if block then .blockNode else .flowNode, start)))

/-- A node, or an empty one if a token follows that no node starts with. -/
def parseOptional : Nat → Setting → Bool → Bool → (Token.Kind → Bool) → (Token → Mark) → Rest → Piece Node
  | 0, cx, _, _, _, _, _ => stop cx.ending
  | fuel + 1, cx, block, indentless, ends, place, r =>
    match r.tokens with
    | [] => stop cx.ending
    | t :: _ => if ends t.kind then (.empty (place t), some r) else parse fuel cx block indentless r

def parseBlockItems : Nat → Setting → Mark → Rest → Piece (List Node)
  | 0, cx, _, _ => ([.broken cx.ending], none)
  | fuel + 1, cx, start, r =>
    match r.tokens with
    | [] => ([.broken cx.ending], none)
    | t :: ts =>
      match t.kind with
      | .blockEntry =>
        match parseOptional fuel cx true false endsBlockItem (fun _ => t.after) { r with tokens := ts } with
        | (item, none) => ([item], none)
        | (item, some r) =>
          let (items, r) := parseBlockItems fuel cx start r
          (item :: items, r)
      | .blockEnd => ([], some { r with tokens := ts })
      | _ => ([.broken (.text .noEntry t.start (some (.blockCollection, start)))], none)

def parseIndentlessItems : Nat → Setting → Rest → Piece (List Node)
  | 0, cx, _ => ([.broken cx.ending], none)
  | fuel + 1, cx, r =>
    match r.tokens with
    | [] => ([.broken cx.ending], none)
    | t :: ts =>
      match t.kind with
      | .blockEntry =>
        match parseOptional fuel cx true false endsIndentlessItem (fun _ => t.after) { r with tokens := ts } with
        | (item, none) => ([item], none)
        | (item, some r) =>
          let (items, r) := parseIndentlessItems fuel cx r
          (item :: items, r)
      | _ => ([], some r)

def parseBlockEntries : Nat → Setting → Mark → Rest → Piece (List (Node × Node))
  | 0, cx, _, _ => ([(.broken cx.ending, .broken cx.ending)], none)
  | fuel + 1, cx, start, r =>
    match r.tokens with
    | [] => ([(.broken cx.ending, .broken cx.ending)], none)
    | t :: ts =>
      match t.kind with
      | .key _ =>
        match parseOptional fuel cx true true endsBlockNode (fun _ => t.after) { r with tokens := ts } with
        | (key, none) => ([(key, key)], none)
        | (key, some r) =>
          match parseBlockValue fuel cx r with
          | (value, none) => ([(key, value)], none)
          | (value, some r) =>
            let (entries, r) := parseBlockEntries fuel cx start r
            ((key, value) :: entries, r)
      | .blockEnd => ([], some { r with tokens := ts })
      | _ =>
        let f := Fault.text .noKey t.start (some (.blockMapping, start))
        ([(.broken f, .broken f)], none)

def parseBlockValue : Nat → Setting → Rest → Piece Node
  | 0, cx, _ => stop cx.ending
  | fuel + 1, cx, r =>
    match r.tokens with
    | [] => stop cx.ending
    | t :: ts =>
      if isValue t.kind then
        parseOptional fuel cx true true endsBlockNode (fun _ => t.after) { r with tokens := ts }
      else (.empty t.start, some r)

/-- The items of a flow sequence. An item with a key is a mapping of that one entry. -/
def parseFlowItems : Nat → Setting → Bool → Mark → Rest → Piece (List Node)
  | 0, cx, _, _, _ => ([.broken cx.ending], none)
  | fuel + 1, cx, first, start, r =>
    match r.tokens with
    | [] => ([.broken cx.ending], none)
    | t :: ts =>
      if t.kind = .flowSequenceEnd then ([], some { r with tokens := ts })
      else if !first && t.kind ≠ .flowEntry then
        ([.broken (.text .flowSequenceSeparator t.start (some (.flowSequence, start)))], none)
      else
        match (if first then t :: ts else ts) with
        | [] => ([.broken cx.ending], none)
        | u :: us =>
          match u.kind with
          | .flowSequenceEnd => ([], some { r with tokens := us })
          | .key _ =>
            match parseFlowPair fuel cx { r with tokens := us } with
            | (entries, none) => ([.mapping {} entries u.start], none)
            | (entries, some r) =>
              let (items, r) := parseFlowItems fuel cx false start r
              (.mapping {} entries u.start :: items, r)
          | _ =>
            match parse fuel cx false false { r with tokens := u :: us } with
            | (item, none) => ([item], none)
            | (item, some r) =>
              let (items, r) := parseFlowItems fuel cx false start r
              (item :: items, r)

/-- The one entry of a mapping that stands in a flow sequence. A token that stands where the key should be is
passed over. -/
def parseFlowPair : Nat → Setting → Rest → Piece (List (Node × Node))
  | 0, cx, _ => ([(.broken cx.ending, .broken cx.ending)], none)
  | fuel + 1, cx, r =>
    let key : Piece Node :=
      match r.tokens with
      | [] => stop cx.ending
      | t :: ts =>
        if isValue t.kind || endsFlowItem t.kind then (.empty t.after, some { r with tokens := ts })
        else parse fuel cx false false r
    match key with
    | (key, none) => ([(key, key)], none)
    | (key, some r) =>
      let (value, r) := parseFlowValue fuel cx endsFlowItem r
      ([(key, value)], r)

def parseFlowValue : Nat → Setting → (Token.Kind → Bool) → Rest → Piece Node
  | 0, cx, _, _ => stop cx.ending
  | fuel + 1, cx, ends, r =>
    match r.tokens with
    | [] => stop cx.ending
    | t :: ts =>
      if isValue t.kind then parseOptional fuel cx false false ends (·.start) { r with tokens := ts }
      else (.empty t.start, some r)

/-- The entries of a flow mapping. A node without a key's indicator is a key whose value is empty. -/
def parseFlowEntries : Nat → Setting → Bool → Mark → Rest → Piece (List (Node × Node))
  | 0, cx, _, _, _ => ([(.broken cx.ending, .broken cx.ending)], none)
  | fuel + 1, cx, first, start, r =>
    match r.tokens with
    | [] => ([(.broken cx.ending, .broken cx.ending)], none)
    | t :: ts =>
      if t.kind = .flowMappingEnd then ([], some { r with tokens := ts })
      else if !first && t.kind ≠ .flowEntry then
        let f := Fault.text .flowMappingSeparator t.start (some (.flowMapping, start))
        ([(.broken f, .broken f)], none)
      else
        match (if first then t :: ts else ts) with
        | [] => ([(.broken cx.ending, .broken cx.ending)], none)
        | u :: us =>
          match u.kind with
          | .flowMappingEnd => ([], some { r with tokens := us })
          | .key _ =>
            let ends := fun kind => isValue kind || endsFlowValue kind
            match parseOptional fuel cx false false ends (·.start) { r with tokens := us } with
            | (key, none) => ([(key, key)], none)
            | (key, some r) =>
              match parseFlowValue fuel cx endsFlowValue r with
              | (value, none) => ([(key, value)], none)
              | (value, some r) =>
                let (entries, r) := parseFlowEntries fuel cx false start r
                ((key, value) :: entries, r)
          | _ =>
            match parse fuel cx false false { r with tokens := u :: us } with
            | (key, none) => ([(key, key)], none)
            | (key, some r) =>
              match r.tokens with
              | [] => ([(key, .broken cx.ending)], none)
              | v :: _ =>
                let (entries, r) := parseFlowEntries fuel cx false start r
                ((key, .empty v.start) :: entries, r)

end

variable {fuel : Nat} {cx : Setting} {indentless : Bool} {names : List (String × Nat)} {ts : List Token}

theorem parse_scalar {m : Mark} (style : ScalarStyle) (text : String) :
    parse (fuel + 1) cx true indentless ⟨⟨.scalar style text, m⟩ :: ts, names⟩ =
      (.scalar {} style text m, some ⟨ts, names⟩) := by
  simp [parse, takeProperties, resolveTag, Rest.register, scalarTag]

/-- What is there is parsed. -/
theorem parseOptional_present {block : Bool} {ends : Token.Kind → Bool} {place : Token → Mark} {t : Token}
    (present : ends t.kind = false) :
    parseOptional (fuel + 1) cx block indentless ends place ⟨t :: ts, names⟩ =
      parse fuel cx block indentless ⟨t :: ts, names⟩ := by
  simp [parseOptional, present]

end MachineOperator.Yaml.Node
