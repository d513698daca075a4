import MachineOperator.Proofs.Yaml.RoundTrip
import MachineOperator.Yaml.Schema.Read

/-!
Readers of trees whose content is known. The node of a value is a scalar, a sequence or a mapping as the value is, and a
reader of that type gives the value back, whatever the styles and places of the scalars.
-/
namespace MachineOperator.Dict
variable {κ α : Type} [LT κ] [DecidableLT κ] [OrderedKey κ]

/-- An entry with the greatest key comes last. -/
theorem insertEntry_of_below {key : κ} {x : α} {es : List (κ × α)} (below : ∀ e ∈ es, e.1 < key) :
    insertEntry key x es = es ++ [(key, x)] := by
  induction es with
  | nil => rfl
  | cons e r ih =>
    have less := below e List.mem_cons_self
    have not_more : ¬key < e.1 := fun more => OrderedKey.irrefl _ (OrderedKey.trans less more)
    rw [insertEntry, if_neg not_more, if_pos less, ih fun f member => below f (List.mem_cons_of_mem _ member)]
    rfl

theorem entries_foldl_insert {es : List (κ × α)} {d : Dict κ α} (sorted : (d.entries ++ es).Pairwise (·.1 < ·.1)) :
    (es.foldl (fun d e => d.insert e.1 e.2) d).entries = d.entries ++ es := by
  induction es generalizing d with
  | nil => simp
  | cons e r ih =>
    have below : ∀ f ∈ d.entries, f.1 < e.1 := fun f member =>
      (List.pairwise_append.1 sorted).2.2 f member e List.mem_cons_self
    have inserted : (d.insert e.1 e.2).entries = d.entries ++ [e] := insertEntry_of_below below
    rw [List.foldl_cons, ih (by rw [inserted, List.append_assoc]; exact sorted), inserted, List.append_assoc]
    rfl

theorem ofList_entries (d : Dict κ α) : ofList d.entries = d :=
  ext (entries_foldl_insert d.sorted)

end MachineOperator.Dict

namespace MachineOperator.Width

theorem fitsInt32_toInt (i : Int32) : fitsInt32 i.toInt = true := by
  have low := i.le_toInt
  have high := i.toInt_lt
  simp [fitsInt32]
  omega

theorem fitsInt64_toInt (i : Int64) : fitsInt64 i.toInt = true := by
  have low := i.le_toInt
  have high := i.toInt_lt
  simp [fitsInt64]
  omega

theorem fitsInt64_of_fitsInt32 {i : Int} (fits : fitsInt32 i = true) : fitsInt64 i = true := by
  simp [fitsInt32, fitsInt64] at *
  omega

theorem fits128_of_fitsInt64 {i : Int} (fits : fitsInt64 i = true) : fits128 i = true := by
  simp [fits128, fitsInt64] at *
  omega

end MachineOperator.Width

namespace MachineOperator.Yaml

namespace Node
variable {n : Node} {items : List Node} {entries : List (Node × Node)}

/-! The node of a value is known by its content. -/

theorem toValue?_scalar {p : Properties} {style : ScalarStyle} {text : String} {m : Mark} {v : Value}
    (same : (scalar p style text m).toValue? = some v) : p.tag = none ∧ .ofResolved (resolveScalar style text) = v := by
  rw [toValue?] at same
  split at same
  · cases same
  · next untagged => exact ⟨by simpa using untagged, Option.some.inj same⟩

theorem toValue?_sequence {vs : List Value} (same : n.toValue? = some (.sequence vs)) :
    ∃ p items m, n = .sequence p items m ∧ itemsToValue? items = some vs := by
  cases n with
  | sequence p items m =>
    obtain ⟨ws, read, whole⟩ := Option.map_eq_some_iff.1 same
    cases whole
    exact ⟨p, items, m, rfl, read⟩
  | scalar p style text m =>
    have meaning := (toValue?_scalar same).2
    cases resolved : resolveScalar style text <;> rw [resolved] at meaning <;> cases meaning
  | mapping p entries m =>
    obtain ⟨es, _, whole⟩ := Option.map_eq_some_iff.1 same
    cases whole
  | _ => cases same

theorem toValue?_mapping {es : List (String × Value)} (same : n.toValue? = some (.mapping es)) :
    ∃ p entries m, n = .mapping p entries m ∧ entriesToValue? entries = some es := by
  cases n with
  | mapping p entries m =>
    obtain ⟨ws, read, whole⟩ := Option.map_eq_some_iff.1 same
    cases whole
    exact ⟨p, entries, m, rfl, read⟩
  | scalar p style text m =>
    have meaning := (toValue?_scalar same).2
    cases resolved : resolveScalar style text <;> rw [resolved] at meaning <;> cases meaning
  | sequence p items m =>
    obtain ⟨vs, _, whole⟩ := Option.map_eq_some_iff.1 same
    cases whole
  | _ => cases same

/-- What is neither a sequence nor a mapping is said by a scalar. -/
theorem toValue?_resolved {r : Resolved} (same : n.toValue? = some (.ofResolved r)) :
    ∃ p style text m, n = .scalar p style text m ∧ p.tag = none ∧ resolveScalar style text = r := by
  cases n with
  | scalar p style text m =>
    obtain ⟨untagged, meaning⟩ := toValue?_scalar same
    refine ⟨p, style, text, m, rfl, untagged, ?_⟩
    cases resolved : resolveScalar style text <;> rw [resolved] at meaning <;> cases r <;> cases meaning <;> rfl
  | sequence p items m =>
    obtain ⟨vs, _, whole⟩ := Option.map_eq_some_iff.1 same
    cases r <;> cases whole
  | mapping p entries m =>
    obtain ⟨es, _, whole⟩ := Option.map_eq_some_iff.1 same
    cases r <;> cases whole
  | _ => cases same

theorem itemsToValue?_cons {v : Value} {vs : List Value} (same : itemsToValue? items = some (v :: vs)) :
    ∃ n r, items = n :: r ∧ n.toValue? = some v ∧ itemsToValue? r = some vs := by
  cases items with
  | nil => cases same
  | cons n r =>
    simp only [itemsToValue?, Option.pure_def, Option.bind_eq_bind, Option.bind_eq_some_iff, Option.some.injEq] at same
    obtain ⟨w, here, ws, others, whole⟩ := same
    cases whole
    exact ⟨n, r, rfl, here, others⟩

theorem itemsToValue?_nil (same : itemsToValue? items = some []) : items = [] := by
  cases items with
  | nil => rfl
  | cons n r =>
    simp only [itemsToValue?, Option.pure_def, Option.bind_eq_bind, Option.bind_eq_some_iff, Option.some.injEq] at same
    obtain ⟨w, _, ws, _, whole⟩ := same
    cases whole

theorem entriesToValue?_cons {key : String} {v : Value} {es : List (String × Value)}
    (same : entriesToValue? entries = some ((key, v) :: es)) :
    ∃ k n r, entries = (k, n) :: r ∧ k.toValue? = some (.string key) ∧ n.toValue? = some v ∧
      entriesToValue? r = some es := by
  cases entries with
  | nil => cases same
  | cons e r =>
    obtain ⟨k, n⟩ := e
    simp only [entriesToValue?, Option.pure_def, Option.bind_eq_bind, Option.bind_eq_some_iff] at same
    obtain ⟨w, first, same⟩ := same
    split at same
    · next name =>
      simp only [Option.bind_eq_some_iff, Option.some.injEq] at same
      obtain ⟨w, here, ws, others, whole⟩ := same
      cases whole
      exact ⟨k, n, r, rfl, first, here, others⟩
    · cases same

theorem entriesToValue?_nil (same : entriesToValue? entries = some []) : entries = [] := by
  cases entries with
  | nil => rfl
  | cons e r =>
    obtain ⟨k, n⟩ := e
    simp only [entriesToValue?, Option.pure_def, Option.bind_eq_bind, Option.bind_eq_some_iff] at same
    obtain ⟨w, _, same⟩ := same
    split at same
    · simp only [Option.bind_eq_some_iff, Option.some.injEq] at same
      obtain ⟨w, _, ws, _, whole⟩ := same
      cases whole
    · cases same

theorem resolveScalar_string {style : ScalarStyle} {text s : String} (meaning : resolveScalar style text = .string s) :
    text = s := by
  unfold resolveScalar at meaning
  split at meaning
  · have plain := resolvePlain_cases text
    rw [meaning] at plain
    exact plain.symm
  · exact Resolved.string.inj meaning

/-- What is no text was written plainly. -/
theorem resolveScalar_plain {style : ScalarStyle} {text : String} {r : Resolved}
    (meaning : resolveScalar style text = r)
    (other : ∀ s, r ≠ .string s) : style = .plain ∧ resolvePlain text = r := by
  unfold resolveScalar at meaning
  split at meaning
  · exact ⟨‹_›, meaning⟩
  · exact absurd meaning.symm (other text)

/-! Readers of single values. -/

theorem follow_of_toValue? (a : Aliases) {v : Value} (same : n.toValue? = some v) : a.follow n = pure n := by
  cases n <;> first | rfl | cases same

@[simp] theorem located_pure {α : Type} (path : Path) (m : Mark) (x : α) : located path m (pure x) = pure x := rfl

theorem readText_of_toValue? (a : Aliases) (path : Path) (expected : String) {s : String}
    (same : n.toValue? = some (.string s)) : readText a path expected n = pure s := by
  obtain ⟨p, style, text, m, rfl, _, meaning⟩ := toValue?_resolved (r := .string s) same
  cases resolveScalar_string meaning
  rfl

theorem readInteger_of_toValue? (a : Aliases) (path : Path) (expected : String) {i : Int} {convert : Int → Reader α}
    {x : α} (same : n.toValue? = some (.int i)) (fits : Width.fitsInt64 i = true) (converted : convert i = pure x) :
    readInteger a path expected convert n = pure x := by
  obtain ⟨p, style, text, m, rfl, _, meaning⟩ := toValue?_resolved (r := .int i) same
  obtain ⟨rfl, plain⟩ := resolveScalar_plain meaning (by simp)
  have integer := resolvePlain_cases text
  rw [plain] at integer
  rw [readInteger, follow_of_toValue? a same, pure_bind]
  simp [integer.1, Option.filter_some, isPlainOr, fits, converted]

theorem readBoolean_of_toValue? (a : Aliases) (path : Path) {b : Bool} (same : n.toValue? = some (.bool b)) :
    readBoolean a path n = pure b := by
  obtain ⟨p, style, text, m, rfl, _, meaning⟩ := toValue?_resolved (r := .bool b) same
  obtain ⟨rfl, plain⟩ := resolveScalar_plain meaning (by simp)
  have boolean := resolvePlain_cases text
  rw [plain] at boolean
  rw [readBoolean, follow_of_toValue? a same, pure_bind]
  simp [boolean, Option.filter_some, isPlainOr]

theorem readTime_of_toValue? (a : Aliases) (path : Path) {t : Timestamp} {s : String}
    (same : n.toValue? = some (.string s)) (parsed : Timestamp.parse s = .ok t) : readTime a path n = pure t := by
  obtain ⟨p, style, text, m, rfl, _, meaning⟩ := toValue?_resolved (r := .string s) same
  cases resolveScalar_string meaning
  rw [readTime, follow_of_toValue? a same, pure_bind]
  simp [parsed]

theorem isAbsent_of_null (same : n.toValue? = some .null) : n.isAbsent = pure true := by
  obtain ⟨p, style, text, m, rfl, untagged, meaning⟩ := toValue?_resolved (r := .null) same
  obtain ⟨rfl, plain⟩ := resolveScalar_plain meaning (by simp)
  have absent := resolvePlain_cases text
  rw [plain] at absent
  simp only [isAbsent, untagged]
  rw [absent]
  rfl

theorem isAbsent_of_value {v : Value} (same : n.toValue? = some v) (present : v ≠ .null) : n.isAbsent = pure false := by
  cases n with
  | scalar p style text m =>
    obtain ⟨untagged, meaning⟩ := toValue?_scalar same
    rw [isAbsent]
    by_cases plain : style = .plain
    · subst plain
      have filled : (text.isEmpty || Plain.isNull text) = false := by
        refine Bool.eq_false_iff.2 fun absent => present ?_
        rw [← meaning, resolveScalar, if_pos rfl, resolvePlain, if_pos absent]
        rfl
      simp only [untagged, filled]
      rfl
    · rw [if_pos plain]
  | _ => rfl

/-! Readers of collections undo their writers if the readers of the parts do. -/

theorem readItems_of_toValue? {read : Path → Node → Reader α} {write : α → Value} {xs : List α}
    (reads : ∀ x ∈ xs, ∀ path n, n.toValue? = some (write x) → read path n = pure x) (path : Path) (i : Nat)
    (same : itemsToValue? items = some (xs.map write)) : readItems read path i items = pure xs := by
  induction xs generalizing items i with
  | nil =>
    cases itemsToValue?_nil same
    rfl
  | cons x r ih =>
    obtain ⟨n, others, rfl, here, rest⟩ := itemsToValue?_cons same
    have first := reads x List.mem_cons_self (.index i :: path) n here
    have later := ih (fun y member => reads y (List.mem_cons_of_mem _ member)) (i + 1) rest
    simp [readItems, first, later]

theorem readEntries_of_toValue? {a : Aliases} {read : Path → Node → Reader α} {write : α → Value}
    {xs : List (String × α)} (reads : ∀ x ∈ xs, ∀ path n, n.toValue? = some (write x.2) → read path n = pure x.2)
    (path : Path) (expected later : String)
    (same : entriesToValue? entries = some (xs.map fun (key, x) => (key, write x))) :
    readEntries a read path expected later entries = pure xs := by
  induction xs generalizing entries expected with
  | nil =>
    cases entriesToValue?_nil same
    rfl
  | cons x r ih =>
    obtain ⟨k, n, others, rfl, name, here, rest⟩ := entriesToValue?_cons same
    have key := readText_of_toValue? a path expected name
    have first := reads x List.mem_cons_self (k.step :: path) n here
    have next := ih (fun y member => reads y (List.mem_cons_of_mem _ member)) later rest
    simp [readEntries, key, first, next]

theorem readList_of_toValue? {read : Path → Node → Reader α} {write : α → Value} {xs : List α} (a : Aliases)
    (path : Path) (reads : ∀ x ∈ xs, ∀ path n, n.toValue? = some (write x) → read path n = pure x)
    (same : n.toValue? = some (.sequence (xs.map write))) : readList a path read n = pure xs := by
  obtain ⟨p, items, m, rfl, parts⟩ := toValue?_sequence same
  rw [readList, follow_of_toValue? a same, pure_bind]
  simp only [readItems_of_toValue? reads path 0 parts, located_pure]

end Node

/-! Maps are read entry by entry, and their keys increase. -/

theorem Node.readMap_of_toValue? {n : Node} {read : Path → Node → Reader α} {write : α → Value} {d : Dict String α}
    (a : Aliases) (path : Path)
    (reads : ∀ e ∈ d.entries, ∀ path n, n.toValue? = some (write e.2) → read path n = pure e.2)
    (same : n.toValue? = some (.mapping (d.entries.map fun (key, x) => (key, write x)))) :
    n.readMap a path read = pure d := by
  obtain ⟨p, entries, m, rfl, parts⟩ := toValue?_mapping same
  rw [readMap, follow_of_toValue? a same, pure_bind]
  simp only [readEntries_of_toValue? reads path "a string" "a string" parts, pure_bind, located_pure,
    Dict.ofList_entries]

end MachineOperator.Yaml
