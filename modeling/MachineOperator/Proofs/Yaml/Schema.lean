import MachineOperator.Proofs.Yaml.Reader

/-!
Values of a schema in documents. A node that says what is written for a value is read as that value: the reader of a
schema undoes its writer on every tree with the same content.
-/
namespace MachineOperator.Yaml

/-! Records: each entry fills the slot of its field, and the fields that were not written are blank. -/

theorem Schema.eq_blank_of_isBlank {s : Schema} {x : s.Carrier} (blank : s.isBlank x = true) : x = s.blank := by
  cases s <;> rw [Schema.isBlank] at blank <;> try cases blank
  case optional s => exact Option.isNone_iff_eq_none.1 blank
  case listOf s => exact List.isEmpty_iff.1 blank
  case mapOf s => exact Dict.ext (List.isEmpty_iff.1 blank)

theorem Presence.eq_blank {p : Presence} {s : Schema} {x : s.Carrier} (left : p.writes s x = false) :
    p = .elided ∧ x = s.blank := by
  cases p with
  | elided => exact ⟨rfl, Schema.eq_blank_of_isBlank (by simpa [Presence.writes] using left)⟩
  | _ => cases left

namespace Fields

def names : Fields → List String
  | .nil => []
  | .cons key _ _ rest => key :: rest.names

/-- The slots of a record after all that was written for it has been read. -/
def written : (fields : Fields) → fields.Carrier → fields.Slots
  | .nil, _ => ()
  | .cons _ p s rest, (x, xs) => (if p.writes s x then some x else none, rest.written xs)

/-- One entry of a mapping, as it is read into the slots. -/
def readEntry (a : Aliases) (refusesRepeats : Bool) (fields : Fields) (path : Path) (slots : fields.Slots)
    (e : Node × Node) : Reader fields.Slots := do
  let key ← Node.readText a path "field identifier" e.1
  fields.readField a refusesRepeats (e.1.step :: path) key e.2 slots

theorem finish_written (fields : Fields) (x : fields.Carrier) : fields.finish (fields.written x) = .ok x := by
  match fields, x with
  | .nil, _ => rfl
  | .cons key p s rest, (x, xs) =>
    have others := finish_written rest xs
    cases stated : p.writes s x with
    | true => simp [written, finish, stated, others]; rfl
    | false =>
      obtain ⟨rfl, blank⟩ := Presence.eq_blank stated
      simp [written, finish, stated, others, ← blank]
      rfl

theorem finish_of_slots {fields : Fields} {x : fields.Carrier} {slots : Reader fields.Slots}
    (filled : slots = pure (fields.written x)) :
    (do match fields.finish (← slots) with
        | .ok x => pure x
        | .error cause => mismatch cause) = (pure x : Reader fields.Carrier) := by
  rw [filled, pure_bind, finish_written]

theorem names_of_toEntries {fields : Fields} {x : fields.Carrier} {key : String} {v : Value}
    (member : (key, v) ∈ fields.toEntries x) : key ∈ fields.names := by
  match fields, x with
  | .nil, _ => cases member
  | .cons name p s rest, (x, xs) =>
    rcases List.mem_append.1 member with here | there
    · split at here
      · cases List.mem_singleton.1 here
        exact List.mem_cons_self
      · cases here
    · exact List.mem_cons_of_mem _ (names_of_toEntries there)

/-- The slots of a record with one field in front of others. -/
def consSlots (key : String) (p : Presence) {s : Schema} {rest : Fields} (slot : Option s.Carrier)
    (slots : rest.Slots) : (cons key p s rest).Slots :=
  (slot, slots)

variable {key : String} {p : Presence} {s : Schema} {rest : Fields}

/-- An entry with another name leaves a field's slot as it is. -/
theorem readEntry_consSlots_of_ne (a : Aliases) (refusesRepeats : Bool) (path : Path) {k : Node} (n : Node)
    (slot : Option s.Carrier) (slots : rest.Slots) {name : String} (same : k.toValue? = some (.string name))
    (apart : name ≠ key) :
    readEntry a refusesRepeats (.cons key p s rest) path (consSlots key p slot slots) (k, n) =
      readEntry a refusesRepeats rest path slots (k, n) >>= fun filled => pure (consSlots key p slot filled) := by
  have text := Node.readText_of_toValue? a path "field identifier" same
  simp only [readEntry, text, pure_bind]
  exact if_neg apart

theorem foldlM_readEntry_consSlots {a : Aliases} {refusesRepeats : Bool} {path : Path} (slot : Option s.Carrier)
    {es : List (String × Value)} (apart : ∀ e ∈ es, e.1 ≠ key) {entries : List (Node × Node)}
    (same : Node.entriesToValue? entries = some es) (slots : rest.Slots) :
    entries.foldlM (readEntry a refusesRepeats (.cons key p s rest) path) (consSlots key p slot slots) =
      entries.foldlM (readEntry a refusesRepeats rest path) slots >>= fun filled =>
        pure (consSlots key p slot filled) := by
  induction es generalizing entries slots with
  | nil =>
    cases Node.entriesToValue?_nil same
    rfl
  | cons e r ih =>
    obtain ⟨k, n, others, rfl, name, _, later⟩ := Node.entriesToValue?_cons same
    have next := ih (fun e member => apart e (List.mem_cons_of_mem _ member)) later
    have step := readEntry_consSlots_of_ne (p := p) a refusesRepeats path n slot slots name (apart e List.mem_cons_self)
    simp only [List.foldlM_cons, step, bind_assoc, pure_bind, next]

/-- The entry of a field fills its slot. -/
theorem readEntry_consSlots_self {a : Aliases} (refusesRepeats : Bool) (path : Path) {k n : Node} {x : s.Carrier}
    (slots : rest.Slots) (same : k.toValue? = some (.string key)) (read : s.read a (k.step :: path) n = pure x) :
    readEntry a refusesRepeats (.cons key p s rest) path (consSlots key p none slots) (k, n) =
      pure (consSlots key p (some x) slots) := by
  have text := Node.readText_of_toValue? a path "field identifier" same
  simp only [readEntry, text, pure_bind]
  refine (if_pos rfl).trans ((if_neg (by simp)).trans ?_)
  rw [read]
  rfl

end Fields

mutual

/-- Whether a value is said in full by what is written for it: names of fields are different, an option that is there
is not written as a null, and instants are of the years that their notation has. Free data is left out. -/
def Schema.Legible : (s : Schema) → s.Carrier → Prop
  | .time, x => Timestamp.parse (Timestamp.render x) = .ok x
  | .json, _ => False
  | .optional s, x => ∀ y : s.Carrier, x = some y → s.Legible y ∧ s.toValue y ≠ .null
  | .listOf s, xs => ∀ y, List.Mem (α := s.Carrier) y xs → s.Legible y
  | .mapOf s, d => ∀ e : String × s.Carrier, e ∈ Dict.entries (α := s.Carrier) d → s.Legible e.2
  | .record _ _ fields, x => fields.Legible x
  | .text, _ | .nullableText, _ | .int32, _ | .int64, _ | .boolean, _ => True

def Fields.Legible : (fields : Fields) → fields.Carrier → Prop
  | .nil, _ => True
  | .cons key _ s rest, (x, xs) => key ∉ rest.names ∧ s.Legible x ∧ rest.Legible xs

end

mutual

/-- Whether all values of a schema are legible. -/
def Schema.isLegible : Schema → Bool
  | .time | .json => false
  | .optional (.optional _) => false
  | .optional s | .listOf s | .mapOf s => s.isLegible
  | .record _ _ fields => fields.isLegible
  | .text | .nullableText | .int32 | .int64 | .boolean => true

def Fields.isLegible : Fields → Bool
  | .nil => true
  | .cons key _ s rest => !rest.names.contains key && s.isLegible && rest.isLegible

end

/-- Only what may be absent, and free data, is written as a null. -/
theorem Schema.toValue_ne_null {s : Schema} (present : ∀ t, s ≠ .optional t) (bound : s ≠ .json) (x : s.Carrier) :
    s.toValue x ≠ .null := by
  cases s with
  | optional s => exact absurd rfl (present s)
  | json => exact absurd rfl bound
  | _ => simp [Schema.toValue]

mutual

theorem Schema.legible_of_isLegible (s : Schema) (legible : s.isLegible = true) (x : s.Carrier) : s.Legible x := by
  match s, x with
  | .time, _ | .json, _ => cases legible
  | .optional s, x =>
    have present : ∀ t, s ≠ .optional t := by
      rintro t rfl
      cases legible
    have inner : s.isLegible = true := by
      rw [Schema.isLegible] at legible
      · exact legible
      · exact present
    have bound : s ≠ .json := by
      rintro rfl
      cases inner
    exact fun y _ => ⟨Schema.legible_of_isLegible s inner y, Schema.toValue_ne_null present bound y⟩
  | .listOf s, xs => exact fun y _ => Schema.legible_of_isLegible s legible y
  | .mapOf s, d => exact fun e _ => Schema.legible_of_isLegible s legible e.2
  | .record _ _ fields, x => exact Fields.legible_of_isLegible fields legible x
  | .text, _ | .nullableText, _ | .int32, _ | .int64, _ | .boolean, _ => trivial

theorem Fields.legible_of_isLegible (fields : Fields) (legible : fields.isLegible = true) (x : fields.Carrier) :
    fields.Legible x := by
  match fields, x with
  | .nil, _ => trivial
  | .cons key _ s rest, (x, xs) =>
    obtain ⟨⟨distinct, here⟩, others⟩ : (key ∉ rest.names ∧ s.isLegible = true) ∧ rest.isLegible = true := by
      simpa [Fields.isLegible] using legible
    exact ⟨distinct, Schema.legible_of_isLegible s here x, Fields.legible_of_isLegible rest others xs⟩

end

theorem Node.toInt32_toInt (i : Int32) : Node.toInt32 i.toInt = pure i := by
  rw [Node.toInt32, if_pos (Width.fitsInt32_toInt i), Int32.ofInt_toInt]

mutual

/-- A node that says what is written for a value is read as the value. -/
theorem Schema.read_toValue (a : Aliases) (s : Schema) (x : s.Carrier) (legible : s.Legible x) (path : Path) (n : Node)
    (same : n.toValue? = some (s.toValue x)) : s.read a path n = pure x := by
  match s, x with
  | .text, x => exact Node.readText_of_toValue? a path "a string" same
  | .int32, x =>
    exact Node.readInteger_of_toValue? a path "i32" same (Width.fitsInt64_of_fitsInt32 (Width.fitsInt32_toInt x))
      (Node.toInt32_toInt x)
  | .int64, x =>
    exact Node.readInteger_of_toValue? a path "i64" same (Width.fitsInt64_toInt x) (congrArg pure (Int64.ofInt_toInt x))
  | .boolean, x => exact Node.readBoolean_of_toValue? a path same
  | .time, x => exact Node.readTime_of_toValue? a path same legible
  | .json, _ => exact absurd legible id
  | .optional s, none =>
    simp only [Schema.read, Node.follow_of_toValue? a same, Node.isAbsent_of_null same, pure_bind]
    rfl
  | .optional s, some y =>
    obtain ⟨inner, present⟩ := legible y rfl
    have read := Schema.read_toValue a s y inner path n same
    simp only [Schema.read, Node.follow_of_toValue? a same, Node.isAbsent_of_value same present, pure_bind, read]
    rfl
  | .nullableText, x =>
    have present : Value.string x ≠ .null := by simp
    simp only [Schema.read, Node.follow_of_toValue? a same, Node.isAbsent_of_value same present, pure_bind]
    exact Node.readText_of_toValue? a path "a string" same
  | .listOf s, xs =>
    exact Node.readList_of_toValue? a path
      (fun y member path n same => Schema.read_toValue a s y (legible y member) path n same)
      same
  | .mapOf s, d =>
    exact Node.readMap_of_toValue? (d := d) a path
      (fun e member path n same => Schema.read_toValue a s e.2 (legible e member) path n same) same
  | .record expected refusesRepeats fields, x =>
    obtain ⟨p, entries, m, rfl, parts⟩ := Node.toValue?_mapping same
    have slots := Fields.readEntries_toEntries a refusesRepeats fields x legible path entries parts
    simp only [Schema.read, Node.follow_of_toValue? a same, pure_bind]
    exact congrArg (located path m) (Fields.finish_of_slots slots)

theorem Fields.readEntries_toEntries (a : Aliases) (refusesRepeats : Bool) (fields : Fields) (x : fields.Carrier)
    (legible : fields.Legible x) (path : Path) (entries : List (Node × Node))
    (same : Node.entriesToValue? entries = some (fields.toEntries x)) :
    entries.foldlM (fields.readEntry a refusesRepeats path) fields.noSlots = pure (fields.written x) := by
  match fields, x with
  | .nil, x =>
    cases Node.entriesToValue?_nil same
    rfl
  | .cons key p s rest, (x, xs) =>
    obtain ⟨distinct, here, others⟩ := legible
    have apart : ∀ e ∈ rest.toEntries xs, e.1 ≠ key := fun e member named =>
      distinct (named ▸ Fields.names_of_toEntries member)
    cases stated : p.writes s x with
    | false =>
      have left : (Fields.cons key p s rest).toEntries (x, xs) = rest.toEntries xs := by
        rw [Fields.toEntries, stated]
        rfl
      rw [left] at same
      have later := Fields.readEntries_toEntries a refusesRepeats rest xs others path entries same
      refine (Fields.foldlM_readEntry_consSlots none apart same rest.noSlots).trans ?_
      rw [later, pure_bind, Fields.written, stated]
      rfl
    | true =>
      have first : (Fields.cons key p s rest).toEntries (x, xs) = (key, s.toValue x) :: rest.toEntries xs := by
        rw [Fields.toEntries, stated]
        rfl
      rw [first] at same
      obtain ⟨k, n, following, rfl, name, value, rest_same⟩ := Node.entriesToValue?_cons same
      have read := Schema.read_toValue a s x here (k.step :: path) n value
      have later := Fields.readEntries_toEntries a refusesRepeats rest xs others path following rest_same
      have filled := Fields.readEntry_consSlots_self (p := p) refusesRepeats path rest.noSlots name read
      refine (List.foldlM_cons ..).trans ?_
      refine (congrArg (· >>= _) filled).trans ((pure_bind ..).trans ?_)
      refine (Fields.foldlM_readEntry_consSlots (some x) apart rest_same rest.noSlots).trans ?_
      rw [later, pure_bind, Fields.written, stated]
      rfl

end

theorem Value.areExact_map {f : α → Value} {xs : List α} (whole : ∀ x, List.Mem x xs → (f x).isExact = true) :
    Value.areExact (xs.map f) = true := by
  induction xs with
  | nil => rfl
  | cons x r ih =>
    rw [List.map_cons, Value.areExact, whole x (.head r), ih fun y member => whole y (.tail x member)]
    rfl

theorem Value.holdExact_map {f : α → Value} {es : List (String × α)} (whole : ∀ e ∈ es, (f e.2).isExact = true) :
    Value.holdExact (es.map fun (key, x) => (key, f x)) = true := by
  induction es with
  | nil => rfl
  | cons e r ih =>
    rw [List.map_cons, Value.holdExact, whole e List.mem_cons_self,
      ih fun f member => whole f (List.mem_cons_of_mem _ member)]
    rfl

theorem Value.holdExact_append (es fs : List (String × Value)) :
    Value.holdExact (es ++ fs) = (Value.holdExact es && Value.holdExact fs) := by
  induction es with
  | nil => simp [Value.holdExact]
  | cons e r ih =>
    obtain ⟨key, v⟩ := e
    simp [Value.holdExact, ih, Bool.and_assoc]

mutual

theorem Schema.isExact_toValue (s : Schema) (x : s.Carrier) (legible : s.Legible x) : (s.toValue x).isExact = true := by
  match s, x with
  | .int32, x => exact Width.fits128_of_fitsInt64 (Width.fitsInt64_of_fitsInt32 (Width.fitsInt32_toInt x))
  | .int64, x => exact Width.fits128_of_fitsInt64 (Width.fitsInt64_toInt x)
  | .text, _ | .nullableText, _ | .boolean, _ | .time, _ | .optional _, none => rfl
  | .json, _ => exact absurd legible id
  | .optional s, some y => exact Schema.isExact_toValue s y (legible y rfl).1
  | .listOf s, xs => exact Value.areExact_map fun y member => Schema.isExact_toValue s y (legible y member)
  | .mapOf s, d => exact Value.holdExact_map fun e member => Schema.isExact_toValue s e.2 (legible e member)
  | .record _ _ fields, x => exact Fields.holdExact_toEntries fields x legible

theorem Fields.holdExact_toEntries (fields : Fields) (x : fields.Carrier) (legible : fields.Legible x) :
    Value.holdExact (fields.toEntries x) = true := by
  match fields, x with
  | .nil, _ => rfl
  | .cons key p s rest, (x, xs) =>
    obtain ⟨_, here, others⟩ := legible
    have first := Schema.isExact_toValue s x here
    rw [Fields.toEntries, Value.holdExact_append, Fields.holdExact_toEntries rest xs others, Bool.and_true]
    split
    · rw [Value.holdExact, first]
      rfl
    · rfl

end

namespace Document

/-- The document that is written for a value ends with its root, and the root is read as the value. -/
theorem readRoot_render {s : Schema} {x : s.Carrier} (legible : s.Legible x) :
    (ofBytes (s.toValue x).render.toUTF8).readRoot s = .ok x ∧
      (ofBytes (s.toValue x).render.toUTF8).close = .ok () := by
  obtain ⟨root, document, same⟩ := ofBytes_render (s.isExact_toValue x legible)
  rw [document, readRoot, s.read_toValue _ x legible [] root same]
  exact ⟨rfl, rfl⟩

end Document

end MachineOperator.Yaml
