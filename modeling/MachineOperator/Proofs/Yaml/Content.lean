import MachineOperator.Proofs.Yaml.Schema

/-!
Trees without anchors, aliases and tags, apart from their places. Readers of scalars and collections give what the content
of such a tree says, and count no aliases.
-/
namespace MachineOperator.Yaml

/-- A tree without anchors, aliases and tags, apart from its places. -/
inductive Content where
  | scalar (style : ScalarStyle) (text : String)
  | sequence (items : List Content)
  | mapping (entries : List (Content × Content))

namespace Node

mutual
def content? : Node → Option Content
  | .scalar p style text _ => if p = {} then some (.scalar style text) else none
  | .sequence p items _ => if p = {} then (itemsContent? items).map .sequence else none
  | .mapping p entries _ => if p = {} then (entriesContent? entries).map .mapping else none
  | .alias .. | .broken _ => none

def itemsContent? : List Node → Option (List Content)
  | [] => some []
  | n :: r => do return (← content? n) :: (← itemsContent? r)

def entriesContent? : List (Node × Node) → Option (List (Content × Content))
  | [] => some []
  | (k, v) :: r => do return (← content? k, ← content? v) :: (← entriesContent? r)
end

end Node

namespace Content

/-- Any scalar is text. -/
def text? : Content → Option String
  | .scalar _ text => some text
  | _ => none

def isAbsent : Content → Bool
  | .scalar style text => style = .plain && (text.isEmpty || Plain.isNull text)
  | _ => false

/-- Numbers are plain. -/
def integer? : Content → Option Int
  | .scalar style text => (Plain.integer? text).filter fun i => style = .plain && Width.fitsInt64 i
  | _ => none

def boolean? : Content → Option Bool
  | .scalar style text => (Plain.bool? text).filter fun _ => style = .plain
  | _ => none

/-- The parts of a collection. A plain scalar without text stands for one that has none. -/
def items? : Content → Option (List Content)
  | .sequence items => some items
  | .scalar style text => if Node.isEmptyPlain style text then some [] else none
  | .mapping _ => none

def entries? : Content → Option (List (Content × Content))
  | .mapping entries => some entries
  | .scalar style text => if Node.isEmptyPlain style text then some [] else none
  | .sequence _ => none

/-- An entry of a map, whose key is text. -/
def keyed? {α : Type} (value? : Content → Option α) (e : Content × Content) : Option (String × α) := do
  return (← e.1.text?, ← value? e.2)

/-- A number that free data cannot hold says nothing. -/
def freeScalar? : Resolved → Option Value
  | .int n => if Width.fits64 n then some (.int n) else none
  | .float x => some (if x.isFinite then .float x else .null)
  | r => some (.ofResolved r)

/-- Free data, nested no deeper than `depth`. -/
def free? : Nat → Content → Option Value
  | _, .scalar style text => freeScalar? (resolveScalar style text)
  | 0, _ => none
  | depth + 1, .sequence items => (items.mapM (free? depth)).map .sequence
  | depth + 1, .mapping entries =>
    (entries.mapM (keyed? (free? depth))).map fun entries => .mapping (Dict.ofList entries).entries

/-- Whether every key is text. -/
def areNamed (entries : List (Content × Content)) : Bool := entries.all (·.1.text?.isSome)

/-- An entry of a record, by the text of its key. -/
def named (e : Content × Content) : String × Content := (e.1.text?.getD "", e.2)

mutual
/-- A tree with a content, whose places do not matter. -/
def toNode : Content → Node
  | .scalar style text => .scalar {} style text .origin
  | .sequence items => .sequence {} (itemsToNodes items) .origin
  | .mapping entries => .mapping {} (entriesToNodes entries) .origin

def itemsToNodes : List Content → List Node
  | [] => []
  | c :: r => toNode c :: itemsToNodes r

def entriesToNodes : List (Content × Content) → List (Node × Node)
  | [] => []
  | (key, c) :: r => (toNode key, toNode c) :: entriesToNodes r
end

mutual
theorem content?_toNode (c : Content) : c.toNode.content? = some c := by
  match c with
  | .scalar style text => rfl
  | .sequence items => rw [toNode, Node.content?, if_pos rfl, content?_itemsToNodes items, Option.map_some]
  | .mapping entries => rw [toNode, Node.content?, if_pos rfl, content?_entriesToNodes entries, Option.map_some]

theorem content?_itemsToNodes (items : List Content) : Node.itemsContent? (itemsToNodes items) = some items := by
  match items with
  | [] => rfl
  | c :: r =>
    rw [itemsToNodes, Node.itemsContent?, content?_toNode c, content?_itemsToNodes r]
    rfl

theorem content?_entriesToNodes (entries : List (Content × Content)) :
    Node.entriesContent? (entriesToNodes entries) = some entries := by
  match entries with
  | [] => rfl
  | (key, c) :: r =>
    rw [entriesToNodes, Node.entriesContent?, content?_toNode key, content?_toNode c, content?_entriesToNodes r]
    rfl
end

end Content

/-! A reader gives what a tree says if it succeeds with that or not at all, and follows no aliases. -/

def Gives {α : Type} (r : Reader α) (x : Option α) : Prop := ∀ k, (r k).toOption = x.map (·, k)

namespace Gives
variable {α β : Type} {r : Reader α} {x : Option α}

theorem pure (a : α) : Gives (pure a) (some a) := fun _ => rfl

theorem throw (e : ReadError) : Gives (throw e : Reader α) none := fun _ => rfl

theorem mismatch (cause : Cause) : Gives (mismatch cause : Reader α) none := fun _ => rfl

theorem bind {f : α → Reader β} {g : α → Option β} (first : Gives r x) (next : ∀ a, Gives (f a) (g a)) :
    Gives (r >>= f) (x.bind g) := by
  intro k
  have here := first k
  show (Except.bind (r k) fun done => f done.1 done.2).toOption = _
  rcases done : r k with e | ⟨a, k'⟩
  · rw [done] at here
    cases x with
    | none => rfl
    | some a => cases here
  · rw [done] at here
    cases x with
    | none => cases here
    | some b =>
      cases here
      exact next a k

theorem map {f : α → β} (first : Gives r x) : Gives (do return f (← r)) (x.map f) := by
  have chained := first.bind fun a => Gives.pure (f a)
  cases x <;> exact chained

theorem ite {condition : Prop} [Decidable condition] {r' : Reader α} {x' : Option α} (first : Gives r x)
    (second : Gives r' x') : Gives (if condition then r else r') (if condition then x else x') := by
  split
  · exact first
  · exact second

theorem located (path : Path) (m : Mark) (here : Gives r x) : Gives (located path m r) x := by
  intro k
  rw [← here k]
  unfold Yaml.located
  split <;> simp_all [Except.toOption]

/-- A reader that gives something, from whatever count of aliases it starts. -/
theorem eq_ok (here : Gives r x) {k k' : Nat} {a : α} : r k = .ok (a, k') ↔ x = some a ∧ k' = k := by
  have there := here k
  rcases done : r k with e | ⟨b, l⟩ <;> rw [done] at there <;> cases x <;> simp_all [Except.toOption, eq_comm]

end Gives

namespace Node
variable {n : Node} {c : Content}

/-- The node of a content is known by it, apart from its place. -/
theorem cases_of_content? (holds : n.content? = some c) :
    (∃ style text m, c = .scalar style text ∧ n = .scalar {} style text m) ∨
      (∃ items ns m, c = .sequence items ∧ n = .sequence {} ns m ∧ itemsContent? ns = some items) ∨
      ∃ entries es m, c = .mapping entries ∧ n = .mapping {} es m ∧ entriesContent? es = some entries := by
  cases n with
  | scalar p style text m =>
    obtain ⟨rfl, whole⟩ := Option.ite_none_right_eq_some.1 holds
    cases whole
    exact .inl ⟨style, text, m, rfl, rfl⟩
  | sequence p ns m =>
    obtain ⟨rfl, whole⟩ := Option.ite_none_right_eq_some.1 holds
    obtain ⟨items, parts, rfl⟩ := Option.map_eq_some_iff.1 whole
    exact .inr (.inl ⟨items, ns, m, rfl, rfl, parts⟩)
  | mapping p es m =>
    obtain ⟨rfl, whole⟩ := Option.ite_none_right_eq_some.1 holds
    obtain ⟨entries, parts, rfl⟩ := Option.map_eq_some_iff.1 whole
    exact .inr (.inr ⟨entries, es, m, rfl, rfl, parts⟩)
  | _ => cases holds

theorem gives_refuse (path : Path) (expected : String) (n : Node) :
    Gives (refuse path expected n : Reader α) none := by
  cases n with
  | scalar p style text m =>
    refine Gives.located path m ?_
    split
    · exact .mismatch _
    · exact .mismatch _
  | sequence p items m => exact Gives.located path m (.mismatch _)
  | mapping p entries m => exact Gives.located path m (.mismatch _)
  | _ => exact .throw _

theorem gives_readText (a : Aliases) (path : Path) (expected : String) (holds : n.content? = some c) :
    Gives (readText a path expected n) c.text? := by
  rcases cases_of_content? holds with
    ⟨style, text, m, rfl, rfl⟩ | ⟨items, ns, m, rfl, rfl, _⟩ | ⟨entries, es, m, rfl, rfl, _⟩
  · exact .pure text
  · exact gives_refuse path expected (.sequence {} ns m)
  · exact gives_refuse path expected (.mapping {} es m)

theorem gives_readInteger (a : Aliases) (path : Path) (expected : String) {convert : Int → Reader α} {f : Int → Option α}
    (converts : ∀ i, Gives (convert i) (f i)) (holds : n.content? = some c) :
    Gives (readInteger a path expected convert n) (c.integer?.bind f) := by
  rcases cases_of_content? holds with
    ⟨style, text, m, rfl, rfl⟩ | ⟨items, ns, m, rfl, rfl, _⟩ | ⟨entries, es, m, rfl, rfl, _⟩
  · have bare : isPlainOr intTag {} style = (style = .plain : Bool) := by simp [isPlainOr]
    unfold readInteger
    simp only [Aliases.follow, pure_bind, Content.integer?, bare]
    cases (Plain.integer? text).filter fun i => (style = .plain : Bool) && Width.fitsInt64 i with
    | some i => exact Gives.located path m (converts i)
    | none => exact gives_refuse path expected (.scalar {} style text m)
  · exact gives_refuse path expected (.sequence {} ns m)
  · exact gives_refuse path expected (.mapping {} es m)

theorem gives_toInt32 (i : Int) : Gives (toInt32 i) (if Width.fitsInt32 i then some (Int32.ofInt i) else none) :=
  .ite (.pure _) (.mismatch _)

theorem gives_readBoolean (a : Aliases) (path : Path) (holds : n.content? = some c) :
    Gives (readBoolean a path n) c.boolean? := by
  rcases cases_of_content? holds with
    ⟨style, text, m, rfl, rfl⟩ | ⟨items, ns, m, rfl, rfl, _⟩ | ⟨entries, es, m, rfl, rfl, _⟩
  · have bare : isPlainOr boolTag {} style = (style = .plain : Bool) := by simp [isPlainOr]
    unfold readBoolean
    simp only [Aliases.follow, pure_bind, Content.boolean?, bare]
    cases (Plain.bool? text).filter fun _ => (style = .plain : Bool) with
    | some b => exact .pure b
    | none => exact gives_refuse path "a boolean" (.scalar {} style text m)
  · exact gives_refuse path "a boolean" (.sequence {} ns m)
  · exact gives_refuse path "a boolean" (.mapping {} es m)

theorem gives_readTime (a : Aliases) (path : Path) (holds : n.content? = some c) :
    Gives (readTime a path n) (c.text?.bind fun text => (Timestamp.parse text).toOption) := by
  rcases cases_of_content? holds with
    ⟨style, text, m, rfl, rfl⟩ | ⟨items, ns, m, rfl, rfl, _⟩ | ⟨entries, es, m, rfl, rfl, _⟩
  · unfold readTime
    simp only [Aliases.follow, pure_bind, Content.text?, Option.bind_some]
    cases Timestamp.parse text with
    | ok t => exact .pure t
    | error e => exact Gives.located path m (.mismatch _)
  · exact gives_refuse path "a timestamp string" (.sequence {} ns m)
  · exact gives_refuse path "a timestamp string" (.mapping {} es m)

theorem isAbsent_of_content? (holds : n.content? = some c) : n.isAbsent = pure c.isAbsent := by
  rcases cases_of_content? holds with
    ⟨style, text, m, rfl, rfl⟩ | ⟨items, ns, m, rfl, rfl, _⟩ | ⟨entries, es, m, rfl, rfl, _⟩
  · by_cases plain : style = .plain <;> simp [isAbsent, Content.isAbsent, plain]
  · rfl
  · rfl

theorem follow_of_content? (a : Aliases) (holds : n.content? = some c) : a.follow n = pure n := by
  rcases cases_of_content? holds with ⟨_, _, _, _, rfl⟩ | ⟨_, _, _, _, rfl, _⟩ | ⟨_, _, _, _, rfl, _⟩ <;> rfl

/-! Collections are read part by part. -/

theorem itemsContent?_cons {ns : List Node} {items : List Content} (holds : itemsContent? (n :: ns) = some items) :
    ∃ c cs, items = c :: cs ∧ n.content? = some c ∧ itemsContent? ns = some cs := by
  simp only [itemsContent?, Option.pure_def, Option.bind_eq_bind, Option.bind_eq_some_iff, Option.some.injEq] at holds
  obtain ⟨c, here, cs, others, rfl⟩ := holds
  exact ⟨c, cs, rfl, here, others⟩

theorem entriesContent?_cons {k : Node} {es : List (Node × Node)} {entries : List (Content × Content)}
    (holds : entriesContent? ((k, n) :: es) = some entries) :
    ∃ key c cs, entries = (key, c) :: cs ∧ k.content? = some key ∧ n.content? = some c ∧
      entriesContent? es = some cs := by
  simp only [entriesContent?, Option.pure_def, Option.bind_eq_bind, Option.bind_eq_some_iff, Option.some.injEq] at holds
  obtain ⟨key, name, c, here, cs, others, rfl⟩ := holds
  exact ⟨key, c, cs, rfl, name, here, others⟩

theorem gives_readItems {read : Path → Node → Reader α} {f : Content → Option α} (path : Path)
    (reads : ∀ step n c, n.content? = some c → Gives (read (step :: path) n) (f c)) (i : Nat) {ns : List Node}
    {items : List Content} (holds : itemsContent? ns = some items) : Gives (readItems read path i ns) (items.mapM f) := by
  induction ns generalizing items i with
  | nil =>
    cases holds
    exact .pure []
  | cons n ns ih =>
    obtain ⟨c, cs, rfl, here, others⟩ := itemsContent?_cons holds
    rw [List.mapM_cons]
    exact (reads _ n c here).bind fun v => (ih (i + 1) others).bind fun vs => .pure (v :: vs)

theorem gives_readEntries (a : Aliases) {read : Path → Node → Reader α} {f : Content → Option α} (path : Path)
    (reads : ∀ step n c, n.content? = some c → Gives (read (step :: path) n) (f c)) (expected later : String)
    {es : List (Node × Node)} {entries : List (Content × Content)} (holds : entriesContent? es = some entries) :
    Gives (readEntries a read path expected later es) (entries.mapM (Content.keyed? f)) := by
  induction es generalizing entries expected with
  | nil =>
    cases holds
    exact .pure []
  | cons e es ih =>
    obtain ⟨k, n⟩ := e
    obtain ⟨key, c, cs, rfl, name, here, others⟩ := entriesContent?_cons holds
    rw [List.mapM_cons]
    have first : Gives (do return (← readText a path expected k, ← read (k.step :: path) n))
        (Content.keyed? f (key, c)) :=
      (gives_readText a path expected name).bind fun text => (reads _ n c here).bind fun v => .pure (text, v)
    have chained := first.bind fun e => (ih later others).bind fun es => .pure (e :: es)
    have order : readEntries a read path expected later ((k, n) :: es) = (do
        let e ← (do return (← readText a path expected k, ← read (k.step :: path) n))
        return e :: (← readEntries a read path later later es)) := by
      simp only [readEntries, bind_assoc, pure_bind]
    rw [order]
    exact chained

theorem gives_readList (a : Aliases) (path : Path) {read : Path → Node → Reader α} {f : Content → Option α}
    (reads : ∀ step n c, n.content? = some c → Gives (read (step :: path) n) (f c)) (holds : n.content? = some c) :
    Gives (readList a path read n) (c.items?.bind fun items => items.mapM f) := by
  rcases cases_of_content? holds with
    ⟨style, text, m, rfl, rfl⟩ | ⟨items, ns, m, rfl, rfl, parts⟩ | ⟨entries, es, m, rfl, rfl, _⟩
  · unfold readList
    simp only [Aliases.follow, pure_bind, Content.items?]
    split
    · exact .pure []
    · exact gives_refuse path "a sequence" (.scalar {} style text m)
  · exact Gives.located path m (gives_readItems path reads 0 parts)
  · exact gives_refuse path "a sequence" (.mapping {} es m)

theorem gives_readMap (a : Aliases) (path : Path) {read : Path → Node → Reader α} {f : Content → Option α}
    (reads : ∀ step n c, n.content? = some c → Gives (read (step :: path) n) (f c)) (holds : n.content? = some c) :
    Gives (readMap a path read n) (c.entries?.bind fun entries => (entries.mapM (Content.keyed? f)).map Dict.ofList) := by
  rcases cases_of_content? holds with
    ⟨style, text, m, rfl, rfl⟩ | ⟨items, ns, m, rfl, rfl, _⟩ | ⟨entries, es, m, rfl, rfl, parts⟩
  · unfold readMap
    simp only [Aliases.follow, pure_bind, Content.entries?]
    split
    · exact .pure Dict.empty
    · exact gives_refuse path "a map" (.scalar {} style text m)
  · exact gives_refuse path "a map" (.sequence {} ns m)
  · exact Gives.located path m (gives_readEntries a path reads "a string" "a string" parts).map

theorem gives_freeScalar (r : Resolved) : Gives (freeScalar r) (Content.freeScalar? r) := by
  cases r with
  | int n => exact Gives.ite (.pure (Value.int n)) (.mismatch _)
  | _ => exact .pure _

theorem gives_readFree (a : Aliases) (depth : Nat) (path : Path) (holds : n.content? = some c) :
    Gives (readFree a depth path n) (c.free? depth) := by
  induction depth generalizing n c path with
  | zero =>
    rcases cases_of_content? holds with
      ⟨style, text, m, rfl, rfl⟩ | ⟨items, ns, m, rfl, rfl, _⟩ | ⟨entries, es, m, rfl, rfl, _⟩
    all_goals
      unfold readFree Content.free?
      simp only [Aliases.follow, pure_bind]
    · exact Gives.located path m (gives_freeScalar (resolveScalar style text))
    · exact Gives.throw (.tooDeep m)
    · exact Gives.throw (.tooDeep m)
  | succ depth ih =>
    rcases cases_of_content? holds with
      ⟨style, text, m, rfl, rfl⟩ | ⟨items, ns, m, rfl, rfl, parts⟩ | ⟨entries, es, m, rfl, rfl, parts⟩
    all_goals
      unfold readFree Content.free?
      simp only [Aliases.follow, pure_bind]
    · exact Gives.located path m (gives_freeScalar (resolveScalar style text))
    · have read := gives_readItems path (fun step n c holds => ih (step :: path) holds) 0 parts
      exact Gives.located path m read.map
    · have read := gives_readEntries a path (fun step n c holds => ih (step :: path) holds) "a string key" "a string" parts
      exact Gives.located path m read.map

mutual

/-- Nothing is broken in a tree with a content. -/
theorem fault?_of_content? (n : Node) {c : Content} (holds : n.content? = some c) : n.fault? = none := by
  match n with
  | .scalar p style text m => rfl
  | .sequence p ns m =>
    rcases cases_of_content? holds with ⟨_, _, _, _, same⟩ | ⟨items, _, _, _, same, parts⟩ | ⟨_, _, _, _, same, _⟩ <;>
      cases same
    exact itemsFault?_of_content? ns parts
  | .mapping p es m =>
    rcases cases_of_content? holds with ⟨_, _, _, _, same⟩ | ⟨_, _, _, _, same, _⟩ | ⟨entries, _, _, _, same, parts⟩ <;>
      cases same
    exact entriesFault?_of_content? es parts
  | .alias .. | .broken _ => cases holds

theorem itemsFault?_of_content? (ns : List Node) {items : List Content} (holds : itemsContent? ns = some items) :
    itemsFault? ns = none := by
  match ns with
  | [] => rfl
  | n :: r =>
    obtain ⟨c, cs, _, here, others⟩ := itemsContent?_cons holds
    rw [itemsFault?, fault?_of_content? n here, itemsFault?_of_content? r others]
    rfl

theorem entriesFault?_of_content? (es : List (Node × Node)) {entries : List (Content × Content)}
    (holds : entriesContent? es = some entries) : entriesFault? es = none := by
  match es with
  | [] => rfl
  | (k, n) :: r =>
    obtain ⟨key, c, cs, _, name, here, others⟩ := entriesContent?_cons holds
    rw [entriesFault?, fault?_of_content? k name, fault?_of_content? n here, entriesFault?_of_content? r others]
    rfl

end

/-- A step for each entry, by the text of its key. -/
theorem gives_foldlM (a : Aliases) (path : Path) (step : σ → String → Node × Node → Reader σ)
    {step? : σ → String × Content → Option σ}
    (steps : ∀ state name k n c, n.content? = some c → Gives (step state name (k, n)) (step? state (name, c)))
    (state : σ) {es : List (Node × Node)} {entries : List (Content × Content)}
    (holds : entriesContent? es = some entries) :
    Gives (es.foldlM (fun state e => readText a path "field identifier" e.1 >>= fun name => step state name e) state)
      (if Content.areNamed entries then (entries.map Content.named).foldlM step? state else none) := by
  induction es generalizing entries state with
  | nil =>
    cases holds
    exact .pure state
  | cons e es ih =>
    obtain ⟨k, n⟩ := e
    obtain ⟨key, c, cs, rfl, name, here, others⟩ := entriesContent?_cons holds
    have first := (gives_readText a path "field identifier" name).bind fun text => steps state text k n c here
    have chained := first.bind fun next => ih next others
    rw [List.foldlM_cons]
    cases text : key.text? with
    | none => simpa [Content.areNamed, text] using chained
    | some text' =>
      cases rest : Content.areNamed cs <;> rw [rest] at chained <;> simp only [Content.areNamed] at rest <;>
        simpa [Content.areNamed, Content.named, text, rest] using chained

end Node

end MachineOperator.Yaml
