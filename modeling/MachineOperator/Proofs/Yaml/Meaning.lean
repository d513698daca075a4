import MachineOperator.Proofs.Yaml.Content

/-!
What the content of a tree says as a value of a schema. A record takes the entries of each field by their key, wherever
they stand; readers go through the entries in order instead, and come to the same.
-/
namespace MachineOperator.Yaml

/-- The values of a record with one field in front of others. -/
def Fields.consValues (key : String) (p : Presence) {s : Schema} {rest : Fields} (v : s.Carrier) (vs : rest.Carrier) :
    (cons key p s rest).Carrier :=
  (v, vs)

/-- The value of a field, if one is given for it or it needs none. -/
def Presence.settle? (p : Presence) (s : Schema) (given : Option s.Carrier) : Option s.Carrier :=
  match given, p with
  | some v, _ => some v
  | none, .required => none
  | none, _ => some s.blank

mutual

/-- What a tree says as a value of a schema that stands so many levels below the root. -/
def Schema.value? : (s : Schema) → Nat → Content → Option s.Carrier
  | .text, _, c => c.text?
  | .int32, _, c => c.integer?.bind fun i => if Width.fitsInt32 i then some (Int32.ofInt i) else none
  | .int64, _, c => c.integer?.map Int64.ofInt
  | .boolean, _, c => c.boolean?
  | .time, _, c => c.text?.bind fun text => (Timestamp.parse text).toOption
  | .json, level, c => c.free? (Node.depthLimit - 1 - level)
  | .optional s, level, c => if c.isAbsent then some (none : Option s.Carrier) else (s.value? level c).map some
  | .nullableText, _, c => if c.isAbsent then some "" else c.text?
  | .listOf s, level, c => c.items?.bind fun items => items.mapM (s.value? (level + 1))
  | .mapOf s, level, c =>
    c.entries?.bind fun entries => (entries.mapM (Content.keyed? (s.value? (level + 1)))).map Dict.ofList
  | .record _ refusesRepeats fields, level, c =>
    c.entries?.bind fun entries =>
      if Content.areNamed entries then fields.values? refusesRepeats (level + 1) (entries.map Content.named) else none

/-- What entries say as the fields of a record. A field is given by the entries with its name. -/
def Fields.values? (refusesRepeats : Bool) : (fields : Fields) → Nat → List (String × Content) → Option fields.Carrier
  | .nil, _, _ => some ()
  | .cons key p s rest, level, entries =>
    ((entries.filter (·.1 = key)).mapM fun e => s.value? level e.2).bind fun given =>
      if refusesRepeats && 1 < given.length then none
      else
        (p.settle? s given.getLast?).bind fun v =>
          (rest.values? refusesRepeats level (entries.filter (·.1 ≠ key))).map (Fields.consValues key p v)

end

namespace Fields

/-- One slot with one entry more of its field. -/
def fill? (refusesRepeats : Bool) (level : Nat) (s : Schema) (slot : Option s.Carrier) (e : String × Content) :
    Option (Option s.Carrier) :=
  if refusesRepeats && slot.isSome then none else (s.value? level e.2).map some

/-- The slots of a record with one entry more. -/
def put? (refusesRepeats : Bool) (level : Nat) : (fields : Fields) → fields.Slots → String × Content → Option fields.Slots
  | .nil, _, _ => some ()
  | .cons key p s rest, (slot, slots), e =>
    if e.1 = key then (fill? refusesRepeats level s slot e).map fun slot => consSlots key p slot slots
    else (rest.put? refusesRepeats level slots e).map fun slots => consSlots key p slot slots

variable {refusesRepeats : Bool} {level : Nat} {key : String} {p : Presence} {s : Schema} {rest : Fields}

/-- A slot holds what was given last, and no more than one may be given where repeats are refused. -/
theorem foldlM_fill? (slot : Option s.Carrier) (entries : List (String × Content)) :
    entries.foldlM (fill? refusesRepeats level s) slot =
      (entries.mapM fun e => s.value? level e.2).bind fun given =>
        if refusesRepeats && 1 < (slot.toList ++ given).length then none else some (slot.toList ++ given).getLast? := by
  induction entries generalizing slot with
  | nil => cases slot <;> simp
  | cons e r ih =>
    rw [List.foldlM_cons, List.mapM_cons]
    cases here : s.value? level e.2 with
    | none => cases refusesRepeats <;> cases slot <;> simp [fill?, here]
    | some v =>
      cases later : (r.mapM fun e => s.value? level e.2) with
      | none => cases refusesRepeats <;> cases slot <;> simp [fill?, here, ih, later]
      | some given =>
        cases refusesRepeats <;> cases slot <;> simp [fill?, here, ih, later, List.getLast?_cons]

theorem foldlM_fill?_none (entries : List (String × Content)) :
    entries.foldlM (fill? refusesRepeats level s) none =
      (entries.mapM fun e => s.value? level e.2).bind fun given =>
        if refusesRepeats && 1 < given.length then none else some given.getLast? :=
  foldlM_fill? none entries

theorem put?_consSlots (slot : Option s.Carrier) (slots : rest.Slots) (e : String × Content) :
    put? refusesRepeats level (.cons key p s rest) (consSlots key p slot slots) e =
      if e.1 = key then (fill? refusesRepeats level s slot e).map fun slot => consSlots key p slot slots
      else (put? refusesRepeats level rest slots e).map fun slots => consSlots key p slot slots := rfl

/-- The entries of a field and the other entries do not meet. -/
theorem foldlM_put?_cons (slot : Option s.Carrier) (slots : rest.Slots) (entries : List (String × Content)) :
    entries.foldlM (put? refusesRepeats level (.cons key p s rest)) (consSlots key p slot slots) =
      ((entries.filter (·.1 = key)).foldlM (fill? refusesRepeats level s) slot).bind fun slot =>
        ((entries.filter (·.1 ≠ key)).foldlM (put? refusesRepeats level rest) slots).map fun slots =>
          consSlots key p slot slots := by
  induction entries generalizing slot slots with
  | nil => rfl
  | cons e r ih =>
    rw [List.foldlM_cons, put?_consSlots]
    by_cases here : e.1 = key
    · rw [if_pos here, List.filter_cons_of_pos (by simpa using here), List.filter_cons_of_neg (by simpa using here),
        List.foldlM_cons]
      cases fill? refusesRepeats level s slot e with
      | none => rfl
      | some filled => exact ih filled slots
    · rw [if_neg here, List.filter_cons_of_neg (by simpa using here), List.filter_cons_of_pos (by simpa using here),
        List.foldlM_cons]
      cases put? refusesRepeats level rest slots e with
      | none =>
        cases (r.filter (·.1 = key)).foldlM (fill? refusesRepeats level s) slot <;> rfl
      | some put => exact ih slot put

theorem finish_consSlots (slot : Option s.Carrier) (slots : rest.Slots) :
    (finish (.cons key p s rest) (consSlots key p slot slots)).toOption =
      (p.settle? s slot).bind fun v => (rest.finish slots).toOption.map (consValues key p v) := by
  have opened : finish (.cons key p s rest) (consSlots key p slot slots) =
      Except.bind
        (match slot, p with
        | some v, _ => .ok v
        | none, .required => .error (.missing key)
        | none, _ => .ok s.blank)
        fun v => Except.bind (rest.finish slots) fun vs => .ok (v, vs) := by
    cases slot <;> cases p <;> rfl
  rw [opened]
  cases rest.finish slots <;> cases slot <;> cases p <;> rfl

/-- Filling the slots entry by entry and closing the record comes to picking out the entries of each field. -/
theorem values?_eq_foldlM (refusesRepeats : Bool) (level : Nat) (fields : Fields) (entries : List (String × Content)) :
    fields.values? refusesRepeats level entries =
      (entries.foldlM (fields.put? refusesRepeats level) fields.noSlots).bind fun slots =>
        (fields.finish slots).toOption := by
  match fields with
  | .nil =>
    have kept : ∀ es : List (String × Content), es.foldlM (put? refusesRepeats level .nil) (noSlots .nil) = some () := by
      intro es
      induction es with
      | nil => rfl
      | cons e r ih => exact ih
    rw [kept]
    rfl
  | .cons key p s rest =>
    have start : noSlots (.cons key p s rest) = consSlots key p none rest.noSlots := rfl
    rw [start, foldlM_put?_cons, foldlM_fill?_none, values?,
      values?_eq_foldlM refusesRepeats level rest (entries.filter (·.1 ≠ key))]
    cases (entries.filter (·.1 = key)).mapM fun e => s.value? level e.2 with
    | none => rfl
    | some given =>
      rw [Option.bind_some, Option.bind_some]
      by_cases repeated : (refusesRepeats && decide (1 < given.length)) = true
      · rw [if_pos repeated, if_pos repeated]
        rfl
      · -- The slot that the entries fill is settled apart from the other slots.
        rw [if_neg repeated, if_neg repeated, Option.bind_some]
        generalize (entries.filter (·.1 ≠ key)).foldlM (put? refusesRepeats level rest) rest.noSlots = filled
        cases filled with
        | none => cases p.settle? s given.getLast? <;> rfl
        | some slots =>
          refine Eq.trans ?_ (finish_consSlots given.getLast? slots).symm
          rfl

/-- The end of a record, as readers come to it. -/
def closing (fields : Fields) (slots : fields.Slots) : Reader fields.Carrier :=
  match fields.finish slots with
  | .ok v => pure v
  | .error cause => mismatch cause

theorem gives_closing (fields : Fields) (slots : fields.Slots) :
    Gives (fields.closing slots) (fields.finish slots).toOption := by
  unfold closing
  cases fields.finish slots with
  | ok v => exact .pure v
  | error cause => exact .mismatch cause

end Fields

mutual

/-- The reader of a schema gives what a tree says. -/
theorem Schema.gives_read (a : Aliases) (s : Schema) (path : Path) {n : Node} {c : Content}
    (holds : n.content? = some c) : Gives (s.read a path n) (s.value? path.length c) := by
  match s with
  | .text =>
    rw [Schema.read, Schema.value?]
    exact Node.gives_readText a path "a string" holds
  | .int32 =>
    rw [Schema.read, Schema.value?]
    exact Node.gives_readInteger a path "i32" Node.gives_toInt32 holds
  | .int64 =>
    have read := Node.gives_readInteger a path "i64" (fun i => Gives.pure (Int64.ofInt i)) holds
    rw [Schema.read, Schema.value?]
    cases integer : c.integer? <;> rw [integer] at read <;> exact read
  | .boolean =>
    rw [Schema.read, Schema.value?]
    exact Node.gives_readBoolean a path holds
  | .time =>
    rw [Schema.read, Schema.value?]
    exact Node.gives_readTime a path holds
  | .json =>
    rw [Schema.read, Schema.value?]
    exact Node.gives_readFree a _ path holds
  | .optional s =>
    have read := Schema.gives_read a s path holds
    simp only [Schema.read, Node.follow_of_content? a holds, Node.isAbsent_of_content? holds, pure_bind]
    exact Gives.ite (.pure none) read.map
  | .nullableText =>
    simp only [Schema.read, Node.follow_of_content? a holds, Node.isAbsent_of_content? holds, pure_bind]
    exact Gives.ite (.pure "") (Node.gives_readText a path "a string" holds)
  | .listOf s =>
    have reads : ∀ step n c, n.content? = some c →
        Gives (s.read a (step :: path) n) (s.value? (path.length + 1) c) :=
      fun step n c holds => Schema.gives_read a s (step :: path) holds
    simp only [Schema.read, Schema.value?]
    exact Node.gives_readList a path reads holds
  | .mapOf s =>
    have reads : ∀ step n c, n.content? = some c →
        Gives (s.read a (step :: path) n) (s.value? (path.length + 1) c) :=
      fun step n c holds => Schema.gives_read a s (step :: path) holds
    simp only [Schema.read, Schema.value?]
    exact Node.gives_readMap a path reads holds
  | .record expected refusesRepeats fields =>
    have closes := fields.gives_closing
    have entryByEntry := fun entries => fields.values?_eq_foldlM refusesRepeats (path.length + 1) entries
    rw [Schema.value?]
    rcases Node.cases_of_content? holds with
      ⟨style, text, m, rfl, rfl⟩ | ⟨items, ns, m, rfl, rfl, _⟩ | ⟨entries, es, m, rfl, rfl, parts⟩
    · simp only [Schema.read, Aliases.follow, pure_bind, Content.entries?]
      split
      · have read := Gives.located path m (closes fields.noSlots)
        have nothing : fields.values? refusesRepeats (path.length + 1) [] = (fields.finish fields.noSlots).toOption :=
          entryByEntry []
        rw [← nothing] at read
        exact read
      · exact Node.gives_refuse path expected (.scalar {} style text m)
    · exact Node.gives_refuse path expected (.sequence {} ns m)
    · have steps : ∀ (slots : fields.Slots) name (k n : Node) c, n.content? = some c →
          Gives (fields.readField a refusesRepeats (k.step :: path) name n slots)
            (fields.put? refusesRepeats (path.length + 1) slots (name, c)) :=
        fun slots name k n c holds => Fields.gives_readField a refusesRepeats fields (k.step :: path) name holds slots
      have read := Node.gives_foldlM a path (fun slots name e =>
        fields.readField a refusesRepeats (e.1.step :: path) name e.2 slots) steps fields.noSlots parts
      have whole := Gives.located path m (read.bind closes)
      simp only [Schema.read, Aliases.follow, pure_bind, Content.entries?, Option.bind_some, entryByEntry]
      cases named : Content.areNamed entries <;> rw [named] at whole <;> exact whole

theorem Fields.gives_readField (a : Aliases) (refusesRepeats : Bool) (fields : Fields) (path : Path) (name : String)
    {n : Node} {c : Content} (holds : n.content? = some c) (slots : fields.Slots) :
    Gives (fields.readField a refusesRepeats path name n slots)
      (fields.put? refusesRepeats path.length slots (name, c)) := by
  match fields, slots with
  | .nil, _ =>
    have passed : n.pass = pure () := by rw [Node.pass, Node.fault?_of_content? n holds]
    simp only [Fields.readField, passed]
    exact .pure ()
  | .cons key p s rest, (slot, slots) =>
    have here := Schema.gives_read a s path holds
    have others := Fields.gives_readField a refusesRepeats rest path name holds slots
    rw [Fields.readField, Fields.put?]
    refine Gives.ite ?_ others.map
    unfold Fields.fill?
    cases refusesRepeats && slot.isSome with
    | true => exact .mismatch _
    | false =>
      rw [if_neg Bool.false_ne_true, Option.map_map]
      exact here.map

end
end MachineOperator.Yaml
