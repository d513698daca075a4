import MachineOperator.Proofs.Yaml.Collection
import MachineOperator.Yaml.Value
import MachineOperator.Yaml.Node.Parse

/-!
The tokens of a written document are read as a tree that says what was written. The descent takes fewer than four steps
for each token.
-/
namespace MachineOperator.Yaml

/-! What was quoted is text, and what was not is text only where it could be nothing else. -/

theorem number?_cases {s : String} {r : Resolved} (number : Plain.number? s = some r) :
    (∃ n, r = .int n ∧ Plain.integer? s = some n ∧ Width.fits128 n = true) ∨ ∃ x, r = .float x := by
  unfold Plain.number? at number
  split at number
  · next n integer =>
    cases number
    exact .inl ⟨n, rfl, Option.filter_eq_some_iff.1 integer⟩
  · split at number
    · cases number
    · obtain ⟨x, _, rfl⟩ := Option.map_eq_some_iff.1 number
      exact .inr ⟨x, rfl⟩

/-- What a plain text stands for says how it was read. -/
theorem resolvePlain_cases (s : String) :
    match resolvePlain s with
    | .null => (s.isEmpty || Plain.isNull s) = true
    | .bool b => Plain.bool? s = some b
    | .int n => Plain.integer? s = some n ∧ Width.fits128 n = true
    | .float _ => True
    | .string t => t = s := by
  unfold resolvePlain
  by_cases absent : (s.isEmpty || Plain.isNull s) = true
  · rw [if_pos absent]
    exact absent
  · rw [if_neg absent]
    cases boolean : Plain.bool? s with
    | some b => rfl
    | none =>
      cases number : Plain.number? s with
      | none => rfl
      | some r =>
        obtain ⟨n, rfl, read⟩ | ⟨x, rfl⟩ := number?_cases number
        · exact read
        · trivial

theorem resolveScalar_styleOf (s : String) : resolveScalar (styleOf s) s = .string s := by
  unfold resolveScalar
  split
  · next style =>
    have suits := suits_styleOf s
    rw [style] at suits
    have untyped := suits.1
    simp only [looksTyped, Bool.or_eq_false_iff] at untyped
    cases resolved : resolvePlain s with
    | string t =>
      have meaning := resolvePlain_cases s
      rw [resolved] at meaning
      rw [meaning]
    | _ => simp [resolved] at untyped
  · rfl

namespace Node
variable {fuel : Nat} {cx : Setting} {indentless : Bool} {names : List (String × Nat)} {ts : List Token} {m : Mark}

/-! The first token decides what a node is. -/

theorem parse_flowSequence (m' : Mark) :
    parse (fuel + 2) cx true indentless ⟨⟨.flowSequenceStart, m⟩ :: ⟨.flowSequenceEnd, m'⟩ :: ts, names⟩ =
      (.sequence {} [] m, some ⟨ts, names⟩) := by
  simp [parse, takeProperties, resolveTag, Rest.register, parseFlowItems]

theorem parse_flowMapping (m' : Mark) :
    parse (fuel + 2) cx true indentless ⟨⟨.flowMappingStart, m⟩ :: ⟨.flowMappingEnd, m'⟩ :: ts, names⟩ =
      (.mapping {} [] m, some ⟨ts, names⟩) := by
  simp [parse, takeProperties, resolveTag, Rest.register, parseFlowEntries]

theorem parse_blockSequence {items : List Node} {r : Option Rest}
    (read : parseBlockItems fuel cx m ⟨ts, names⟩ = (items, r)) :
    parse (fuel + 1) cx true indentless ⟨⟨.blockSequenceStart, m⟩ :: ts, names⟩ = (.sequence {} items m, r) := by
  simp [parse, takeProperties, resolveTag, Rest.register, read]

theorem parse_blockMapping {entries : List (Node × Node)} {r : Option Rest}
    (read : parseBlockEntries fuel cx m ⟨ts, names⟩ = (entries, r)) :
    parse (fuel + 1) cx true indentless ⟨⟨.blockMappingStart, m⟩ :: ts, names⟩ = (.mapping {} entries m, r) := by
  simp [parse, takeProperties, resolveTag, Rest.register, read]

theorem parse_indentless {items : List Node} {r : Option Rest}
    (read : parseIndentlessItems fuel cx ⟨⟨.blockEntry, m⟩ :: ts, names⟩ = (items, r)) :
    parse (fuel + 1) cx true true ⟨⟨.blockEntry, m⟩ :: ts, names⟩ = (.sequence {} items m, r) := by
  simp [parse, takeProperties, resolveTag, Rest.register, read]

/-- The first token of a value is none that a node ends at. -/
theorem kinds_head {v : Value} (whole : v.isExact = true) (bare : Bool) : ∃ k ks, v.kinds bare = k :: ks ∧
    endsBlockNode k = false ∧ (bare = false → endsBlockItem k = false ∧ endsIndentlessItem k = false) := by
  match v, whole with
  | .mapping (_ :: _), _ => exact ⟨_, _, rfl, rfl, fun _ => ⟨rfl, rfl⟩⟩
  | .sequence (w :: ws), _ =>
    cases bare with
    | true => exact ⟨.blockEntry, _, by simp [Value.kinds, Value.itemKinds]; rfl, rfl, by simp⟩
    | false => exact ⟨_, _, rfl, rfl, fun _ => ⟨rfl, rfl⟩⟩
  | .mapping [], _ => exact ⟨_, _, rfl, rfl, fun _ => ⟨rfl, rfl⟩⟩
  | .sequence [], _ => exact ⟨_, _, rfl, rfl, fun _ => ⟨rfl, rfl⟩⟩
  | .null, _ => exact ⟨_, _, rfl, rfl, fun _ => ⟨rfl, rfl⟩⟩
  | .bool b, _ => exact ⟨_, _, rfl, rfl, fun _ => ⟨rfl, rfl⟩⟩
  | .int n, _ => exact ⟨_, _, rfl, rfl, fun _ => ⟨rfl, rfl⟩⟩
  | .string s, _ => exact ⟨_, _, rfl, rfl, fun _ => ⟨rfl, rfl⟩⟩

/-- What a value begins with ends nothing around it. -/
theorem present_of_head {v : Value} (whole : v.isExact = true) {bare : Bool} {k : Token.Kind} {ks : List Token.Kind}
    (head : v.kinds bare = k :: ks) :
    endsBlockNode k = false ∧ (bare = false → endsBlockItem k = false ∧ endsIndentlessItem k = false) := by
  obtain ⟨k', ks', head', present⟩ := kinds_head whole bare
  cases head.symm.trans head'
  exact present

theorem cons_of_kinds {k : Token.Kind} {ks : List Token.Kind} (kinds : ts.map Token.kind = k :: ks) :
    ∃ m tail, ts = ⟨k, m⟩ :: tail ∧ tail.map Token.kind = ks := by
  obtain ⟨⟨_, m⟩, tail, rfl, rfl, same⟩ := List.map_eq_cons_iff.1 kinds
  exact ⟨m, tail, rfl, same⟩

/-- A scalar is read as what it says. -/
theorem parse_leaf {text : Resolved} {style : ScalarStyle} {s : String} {rest : List Token}
    (kinds : ts.map Token.kind = [.scalar style s]) (enough : 4 * ts.length ≤ fuel)
    (meaning : resolveScalar style s = text) :
    ∃ node, parse fuel cx true indentless ⟨ts ++ rest, names⟩ = (node, some ⟨rest, names⟩) ∧
      node.toValue? = some (.ofResolved text) := by
  obtain ⟨m, tail, rfl, last⟩ := cons_of_kinds kinds
  cases List.map_eq_nil_iff.1 last
  obtain ⟨fuel, rfl⟩ := Nat.exists_eq_add_of_le' (by simpa using enough : 4 ≤ fuel)
  exact ⟨_, parse_scalar style s, by simp [toValue?, meaning]⟩

/-- A value that is there is read where it might be left out. -/
theorem parseOptional_value {v : Value} (ends : Token.Kind → Bool) (place : Token → Mark) (whole : v.isExact = true)
    {bare : Bool} {rest : List Token} {piece : Piece Node} (kinds : ts.map Token.kind = v.kinds bare)
    (present : ∀ k ks, v.kinds bare = k :: ks → ends k = false)
    (read : parse fuel cx true indentless ⟨ts ++ rest, names⟩ = piece) :
    parseOptional (fuel + 1) cx true indentless ends place ⟨ts ++ rest, names⟩ = piece := by
  obtain ⟨k, ks, head, _⟩ := kinds_head whole bare
  obtain ⟨m, tail, rfl, _⟩ := cons_of_kinds (kinds.trans head)
  rw [List.cons_append] at read ⊢
  rw [parseOptional_present (present k ks head), read]

/-- What follows a value in a mapping is no item. -/
theorem entries_head {es : List (String × Value)} {rest : List Token}
    (kinds : ts.map Token.kind = Value.entryKinds es ++ [.blockEnd]) :
    ∃ t more, ts ++ rest = t :: more ∧ t.kind ≠ .blockEntry := by
  obtain ⟨k, ks, head, apart⟩ : ∃ k ks, Value.entryKinds es ++ [.blockEnd] = k :: ks ∧ k ≠ .blockEntry := by
    cases es with
    | nil => exact ⟨_, _, rfl, by simp⟩
    | cons e es => exact ⟨_, _, rfl, by simp⟩
  obtain ⟨m, tail, rfl, _⟩ := cons_of_kinds (kinds.trans head)
  exact ⟨_, tail ++ rest, rfl, apart⟩

mutual

/-- The tokens of a value are read as a node that says it. -/
theorem parse_value (v : Value) (whole : v.isExact = true) (bare : Bool) (fuel : Nat) (cx : Setting)
    (indentless : Bool) (names : List (String × Nat)) {ts : List Token} (rest : List Token)
    (kinds : ts.map Token.kind = v.kinds bare) (enough : 4 * ts.length ≤ fuel)
    (apart : bare = true → indentless = true ∧ ∃ t more, rest = t :: more ∧ t.kind ≠ .blockEntry) :
    ∃ node, parse fuel cx true indentless ⟨ts ++ rest, names⟩ = (node, some ⟨rest, names⟩) ∧
      node.toValue? = some v := by
  match v, whole with
  | .null, _ => exact parse_leaf kinds enough (by decide : _ = Resolved.null)
  | .bool true, _ => exact parse_leaf kinds enough (by decide : _ = Resolved.bool true)
  | .bool false, _ => exact parse_leaf kinds enough (by decide : _ = Resolved.bool false)
  | .int n, whole => exact parse_leaf kinds enough (resolvePlain_int n whole)
  | .string s, _ => exact parse_leaf kinds enough (resolveScalar_styleOf s)
  | .sequence [], _ =>
    obtain ⟨m, tail, rfl, last⟩ := cons_of_kinds kinds
    obtain ⟨m', tail, rfl, nothing⟩ := cons_of_kinds last
    cases List.map_eq_nil_iff.1 nothing
    obtain ⟨fuel, rfl⟩ := Nat.exists_eq_add_of_le' (by simpa using enough : 8 ≤ fuel)
    exact ⟨_, parse_flowSequence m', rfl⟩
  | .mapping [], _ =>
    obtain ⟨m, tail, rfl, last⟩ := cons_of_kinds kinds
    obtain ⟨m', tail, rfl, nothing⟩ := cons_of_kinds last
    cases List.map_eq_nil_iff.1 nothing
    obtain ⟨fuel, rfl⟩ := Nat.exists_eq_add_of_le' (by simpa using enough : 8 ≤ fuel)
    exact ⟨_, parse_flowMapping m', rfl⟩
  | .mapping ((key, w) :: es), whole =>
    obtain ⟨m, tail, rfl, last⟩ := cons_of_kinds kinds
    simp only [List.length_cons] at enough
    obtain ⟨fuel, rfl⟩ : ∃ f, fuel = f + 1 := ⟨fuel - 1, by omega⟩
    obtain ⟨entries, read, same⟩ := parse_entries ((key, w) :: es) whole fuel cx m names rest last (by omega)
    exact ⟨_, parse_blockMapping read, by simp [toValue?, same]⟩
  | .sequence (w :: ws), whole =>
    cases bare with
    | true =>
      obtain ⟨rfl, next⟩ := apart rfl
      have items : ts.map Token.kind = Value.itemKinds (w :: ws) := by simpa [Value.kinds] using kinds
      have some_token : 1 ≤ ts.length := by
        rw [← List.length_map (f := Token.kind), items]
        simp [Value.itemKinds]
      obtain ⟨fuel, rfl⟩ : ∃ f, fuel = f + 1 := ⟨fuel - 1, by omega⟩
      obtain ⟨nodes, read, same⟩ := parse_indentlessItems (w :: ws) whole fuel cx names rest items (by omega) next
      obtain ⟨m, tail, rfl, _⟩ := cons_of_kinds (items.trans (by rw [Value.itemKinds]; rfl))
      exact ⟨_, parse_indentless read, by simp [toValue?, same]⟩
    | false =>
      obtain ⟨m, tail, rfl, last⟩ := cons_of_kinds kinds
      simp only [List.length_cons] at enough
      obtain ⟨fuel, rfl⟩ : ∃ f, fuel = f + 1 := ⟨fuel - 1, by omega⟩
      obtain ⟨nodes, read, same⟩ := parse_items (w :: ws) whole fuel cx m names rest last (by omega)
      exact ⟨_, parse_blockSequence read, by simp [toValue?, same]⟩

theorem parse_entries (es : List (String × Value)) (whole : Value.holdExact es = true) (fuel : Nat) (cx : Setting)
    (start : Mark) (names : List (String × Nat)) {ts : List Token} (rest : List Token)
    (kinds : ts.map Token.kind = Value.entryKinds es ++ [.blockEnd]) (enough : 4 * ts.length ≤ fuel + 3) :
    ∃ entries, parseBlockEntries fuel cx start ⟨ts ++ rest, names⟩ = (entries, some ⟨rest, names⟩) ∧
      entriesToValue? entries = some es := by
  match es, whole with
  | [], _ =>
    obtain ⟨m, tail, rfl, last⟩ := cons_of_kinds kinds
    cases List.map_eq_nil_iff.1 last
    obtain ⟨fuel, rfl⟩ : ∃ f, fuel = f + 1 := ⟨fuel - 1, by simp at enough; omega⟩
    exact ⟨[], by simp [parseBlockEntries], rfl⟩
  | (key, v) :: r, whole =>
    obtain ⟨here, others⟩ : v.isExact = true ∧ Value.holdExact r = true := by
      simpa only [Value.holdExact, Bool.and_eq_true] using whole
    simp only [Value.entryKinds, List.cons_append, List.append_assoc] at kinds
    obtain ⟨m₁, tail, rfl, after_key⟩ := cons_of_kinds kinds
    obtain ⟨m₂, tail, rfl, after_text⟩ := cons_of_kinds after_key
    obtain ⟨m₃, tail, rfl, after_value⟩ := cons_of_kinds after_text
    obtain ⟨tv, tr, rfl, value_kinds, rest_kinds⟩ := List.map_eq_append_iff.1 after_value
    simp only [List.length_cons, List.length_append] at enough
    obtain ⟨fuel, rfl⟩ : ∃ f, fuel = f + 3 := ⟨fuel - 3, by omega⟩
    obtain ⟨node, read, same⟩ := parse_value v here (isSimpleKey key) fuel cx true names (tr ++ rest)
      value_kinds (by omega)
      fun _ => ⟨rfl, entries_head rest_kinds⟩
    obtain ⟨entries, reads, sames⟩ := parse_entries r others (fuel + 2) cx start names rest rest_kinds (by omega)
    have value_read := parseOptional_value endsBlockNode (fun _ => Token.after ⟨.value, m₃⟩) here value_kinds
      (fun k ks head => (present_of_head here head).1) read
    refine ⟨(.scalar {} (styleOf key) key m₂, node) :: entries, ?_, ?_⟩
    · have key_read : parseOptional (fuel + 2) cx true true endsBlockNode
          (fun _ => Token.after ⟨.key (!isSimpleKey key), m₁⟩)
          ⟨⟨.scalar (styleOf key) key, m₂⟩ :: ⟨.value, m₃⟩ :: (tv ++ (tr ++ rest)), names⟩ = _ :=
        (parseOptional_present rfl).trans (parse_scalar _ _)
      have block_read : parseBlockValue (fuel + 2) cx ⟨⟨.value, m₃⟩ :: (tv ++ (tr ++ rest)), names⟩ =
          (node, some ⟨tr ++ rest, names⟩) := by
        rw [parseBlockValue]
        exact value_read
      simp only [List.cons_append, List.append_assoc]
      rw [parseBlockEntries]
      simp only [key_read, block_read, reads]
    · simp [entriesToValue?, toValue?, resolveScalar_styleOf, Value.ofResolved, same, sames]

theorem parse_items (vs : List Value) (whole : Value.areExact vs = true) (fuel : Nat) (cx : Setting)
    (start : Mark) (names : List (String × Nat)) {ts : List Token} (rest : List Token)
    (kinds : ts.map Token.kind = Value.itemKinds vs ++ [.blockEnd]) (enough : 4 * ts.length ≤ fuel + 3) :
    ∃ items, parseBlockItems fuel cx start ⟨ts ++ rest, names⟩ = (items, some ⟨rest, names⟩) ∧
      itemsToValue? items = some vs := by
  match vs, whole with
  | [], _ =>
    obtain ⟨m, tail, rfl, last⟩ := cons_of_kinds kinds
    cases List.map_eq_nil_iff.1 last
    obtain ⟨fuel, rfl⟩ : ∃ f, fuel = f + 1 := ⟨fuel - 1, by simp at enough; omega⟩
    exact ⟨[], by simp [parseBlockItems], rfl⟩
  | v :: r, whole =>
    obtain ⟨here, others⟩ : v.isExact = true ∧ Value.areExact r = true := by
      simpa only [Value.areExact, Bool.and_eq_true] using whole
    simp only [Value.itemKinds, List.cons_append, List.append_assoc] at kinds
    obtain ⟨m, tail, rfl, after_entry⟩ := cons_of_kinds kinds
    obtain ⟨tv, tr, rfl, value_kinds, rest_kinds⟩ := List.map_eq_append_iff.1 after_entry
    simp only [List.length_cons, List.length_append] at enough
    have some_token : 1 ≤ tr.length := by
      rw [← List.length_map (f := Token.kind), rest_kinds]
      simp
    obtain ⟨fuel, rfl⟩ : ∃ f, fuel = f + 2 := ⟨fuel - 2, by omega⟩
    obtain ⟨node, read, same⟩ := parse_value v here false fuel cx false names (tr ++ rest)
      value_kinds (by omega) (by simp)
    obtain ⟨items, reads, sames⟩ := parse_items r others (fuel + 1) cx start names rest rest_kinds (by omega)
    have value_read := parseOptional_value endsBlockItem (fun _ => Token.after ⟨.blockEntry, m⟩) here value_kinds
      (fun k ks head => ((present_of_head here head).2 rfl).1) read
    refine ⟨node :: items, ?_, ?_⟩
    · simp only [List.cons_append, List.append_assoc]
      rw [parseBlockItems]
      simp only [value_read, reads]
    · simp [itemsToValue?, same, sames]

theorem parse_indentlessItems (vs : List Value) (whole : Value.areExact vs = true) (fuel : Nat) (cx : Setting)
    (names : List (String × Nat)) {ts : List Token} (rest : List Token)
    (kinds : ts.map Token.kind = Value.itemKinds vs) (enough : 4 * ts.length ≤ fuel + 1 ∧ 1 ≤ fuel)
    (next : ∃ t more, rest = t :: more ∧ t.kind ≠ .blockEntry) :
    ∃ items, parseIndentlessItems fuel cx ⟨ts ++ rest, names⟩ = (items, some ⟨rest, names⟩) ∧
      itemsToValue? items = some vs := by
  obtain ⟨fuel, rfl⟩ : ∃ f, fuel = f + 1 := ⟨fuel - 1, by omega⟩
  match vs, whole with
  | [], _ =>
    obtain ⟨t, more, rfl, apart⟩ := next
    cases List.map_eq_nil_iff.1 kinds
    refine ⟨[], ?_, rfl⟩
    rw [List.nil_append, parseIndentlessItems]
    split
    · next none_left => cases none_left
    · next t' ts' left =>
      cases left
      split
      · next entry => exact absurd entry apart
      · rfl
  | v :: r, whole =>
    obtain ⟨here, others⟩ : v.isExact = true ∧ Value.areExact r = true := by
      simpa only [Value.areExact, Bool.and_eq_true] using whole
    simp only [Value.itemKinds, List.cons_append] at kinds
    obtain ⟨m, tail, rfl, after_entry⟩ := cons_of_kinds kinds
    obtain ⟨tv, tr, rfl, value_kinds, rest_kinds⟩ := List.map_eq_append_iff.1 after_entry
    simp only [List.length_cons, List.length_append] at enough
    obtain ⟨fuel, rfl⟩ : ∃ f, fuel = f + 1 := ⟨fuel - 1, by
      obtain ⟨k, ks, head, _⟩ := kinds_head here false
      obtain ⟨_, _, rfl, _⟩ := cons_of_kinds (value_kinds.trans head)
      simp only [List.length_cons] at enough
      omega⟩
    obtain ⟨node, read, same⟩ := parse_value v here false fuel cx false names (tr ++ rest)
      value_kinds (by omega) (by simp)
    obtain ⟨items, reads, sames⟩ := parse_indentlessItems r others (fuel + 1) cx names rest rest_kinds (by omega) next
    have value_read := parseOptional_value endsIndentlessItem (fun _ => Token.after ⟨.blockEntry, m⟩) here value_kinds
      (fun k ks head => ((present_of_head here head).2 rfl).2) read
    refine ⟨node :: items, ?_, ?_⟩
    · simp only [List.cons_append, List.append_assoc]
      rw [parseIndentlessItems]
      simp only [value_read, reads]
    · simp [itemsToValue?, same, sames]

end

end Node
end MachineOperator.Yaml
