import MachineOperator.Proofs.Yaml.Accepted
import MachineOperator.Proofs.Yaml.Rearranged

/-!
What a document that was read says of a place in it. Places are found through aliases. A record that refuses repeats has the
value of every entry that stands for one of its fields, and a list has the values of its items.
-/
namespace MachineOperator.Yaml

/-- A node, or the alias of it. -/
inductive Aliases.StandsFor (a : Aliases) : Node → Node → Prop
  | itself (x) : StandsFor a x x
  | anchored {target y} (m) (found : a.find? target = some y) : StandsFor a (.alias target m) y

/-- A mapping has an entry with that key and that value. -/
inductive Aliases.Entry (a : Aliases) : Node → String → Node → Prop
  | mk {p entries m k x q style name m' y} (member : (k, x) ∈ entries) (key : a.StandsFor k (.scalar q style name m'))
      (value : a.StandsFor x y) : Entry a (.mapping p entries m) name y

/-- A sequence has that item. -/
inductive Aliases.Item (a : Aliases) : Node → Nat → Node → Prop
  | mk {p items m i x y} (item : items[i]? = some x) (value : a.StandsFor x y) : Item a (.sequence p items m) i y

/-- A plain scalar that is the number `n` in base ten. -/
inductive Node.IsNumber : Node → Int → Prop
  | mk {p text m n} (writes : Plain.Writes text n) : IsNumber (.scalar p .plain text m) n

namespace Aliases
variable {a : Aliases} {x y : Node} {α : Type}

/-- Whatever a reader makes of the node that it follows, it makes of the node that stands there. -/
theorem bind_follow_of_standsFor {body : Node → Reader α} {k : Nat} {r : α × Nat} (stands : a.StandsFor x y)
    (plain : a.follow y = pure y) (done : (a.follow x >>= body) k = .ok r) : ∃ l, body y l = .ok r := by
  obtain ⟨z, l, followed, rest⟩ := bind_reader_eq_ok.1 done
  cases stands with
  | itself =>
    rw [plain] at followed
    cases followed
    exact ⟨k, rest⟩
  | @anchored target _ m found =>
    rw [Node.follow_alias, found] at followed
    split at followed
    · cases followed
    · cases followed
      exact ⟨k + 1, rest⟩

end Aliases

namespace Fields
variable {fields rest : Fields} {key name : String} {p : Presence} {s : Schema}

/-- The value of a field. -/
def get? : (fields : Fields) → fields.Carrier → String → Option (Σ s : Schema, s.Carrier)
  | .nil, _, _ => none
  | .cons key _ s rest, (x, xs), name => if key = name then some ⟨s, x⟩ else rest.get? xs name

theorem get?_consValues {x : s.Carrier} {xs : rest.Carrier} :
    get? (.cons key p s rest) (consValues key p x xs) name = if key = name then some ⟨s, x⟩ else rest.get? xs name := rfl

/-- A field has been given. -/
def Filled : (fields : Fields) → fields.Slots → String → (s : Schema) → s.Carrier → Prop
  | .nil, _, _, _, _ => False
  | .cons key _ s rest, (slot, slots), name, s', x =>
    (key = name ∧ (⟨s, slot⟩ : Σ s : Schema, Option s.Carrier) = ⟨s', some x⟩) ∨
      (key ≠ name ∧ rest.Filled slots name s' x)

/-- What has been given for a field is its value in the end. -/
theorem get?_of_filled {fields : Fields} {slots : fields.Slots} {s : Schema} {x : s.Carrier} {v : fields.Carrier}
    (filled : fields.Filled slots name s x) (finished : fields.finish slots = .ok v) :
    fields.get? v name = some ⟨s, x⟩ := by
  match fields, slots with
  | .nil, _ => exact absurd filled id
  | .cons key p s' rest, (slot, slots) =>
    obtain ⟨w, ws, settled, others, rfl⟩ := finish_cons_eq_ok.1 finished
    rw [get?_consValues]
    rcases filled with ⟨here, same⟩ | ⟨other, later⟩
    · cases same
      cases settled
      exact if_pos here
    · exact (if_neg other).trans (get?_of_filled later others)

variable {a : Aliases} {x : Node}

/-- What a record does with one entry. -/
theorem readField_cons_eq_ok {refusesRepeats : Bool} {slot : Option s.Carrier} {slots : rest.Slots}
    {filled : (cons key p s rest).Slots} {path : Path} {k k' : Nat} :
    readField a refusesRepeats (.cons key p s rest) path name x (slot, slots) k = .ok (filled, k') ↔
      (name = key ∧ (refusesRepeats && slot.isSome) = false ∧
        ∃ v, s.read a path x k = .ok (v, k') ∧ filled = consSlots key p (some v) slots) ∨
      (name ≠ key ∧ ∃ slots', rest.readField a refusesRepeats path name x slots k = .ok (slots', k') ∧
        filled = consSlots key p slot slots') := by
  have opened : readField a refusesRepeats (.cons key p s rest) path name x (slot, slots) =
      if name = key then
        if refusesRepeats && slot.isSome then mismatch (.repeated key)
        else do return consSlots key p (some (← s.read a path x)) slots
      else do return consSlots key p slot (← rest.readField a refusesRepeats path name x slots) := by
    rw [readField]
    rfl
  rw [opened]
  by_cases here : name = key
  · rw [if_pos here]
    cases repeated : refusesRepeats && slot.isSome with
    | true =>
      rw [if_pos rfl]
      constructor
      · exact nofun
      · rintro (⟨_, empty, _⟩ | ⟨other, _⟩)
        · cases empty
        · exact absurd here other
    | false =>
      rw [if_neg Bool.false_ne_true, bind_reader_eq_ok]
      constructor
      · rintro ⟨v, l, read, done⟩
        cases done
        exact .inl ⟨here, rfl, v, read, rfl⟩
      · rintro (⟨_, _, v, read, rfl⟩ | ⟨other, _⟩)
        · exact ⟨v, k', read, rfl⟩
        · exact absurd here other
  · rw [if_neg here, bind_reader_eq_ok]
    constructor
    · rintro ⟨slots', l, read, done⟩
      cases done
      exact .inr ⟨here, slots', read, rfl⟩
    · rintro (⟨same, _⟩ | ⟨_, slots', read, rfl⟩)
      · exact absurd same here
      · exact ⟨slots', k', read, rfl⟩

/-- An entry fills the slot of its field. -/
theorem filled_of_readField {fields : Fields} {slots slots' : fields.Slots} {path : Path} {k k' : Nat}
    (known : fields.find? name = some (p, s)) {refusesRepeats : Bool}
    (done : fields.readField a refusesRepeats path name x slots k = .ok (slots', k')) :
    ∃ v, s.read a path x k = .ok (v, k') ∧ fields.Filled slots' name s v := by
  match fields, slots with
  | .nil, _ => cases known
  | .cons key p' s' rest, (slot, slots) =>
    rcases readField_cons_eq_ok.1 done with ⟨rfl, _, v, read, rfl⟩ | ⟨other, slots', later, rfl⟩
    · cases find?_cons_self.symm.trans known
      exact ⟨v, read, .inl ⟨rfl, rfl⟩⟩
    · obtain ⟨v, read, filled⟩ := filled_of_readField ((find?_cons_ne (Ne.symm other)).symm.trans known) later
      exact ⟨v, read, .inr ⟨Ne.symm other, filled⟩⟩

/-- Where repeats are refused, a slot that is filled stays as it is. -/
theorem filled_kept {fields : Fields} {slots slots' : fields.Slots} {path : Path} {k k' : Nat} {s : Schema} {v : s.Carrier}
    {name' : String} (filled : fields.Filled slots name s v)
    (done : fields.readField a true path name' x slots k = .ok (slots', k')) : fields.Filled slots' name s v := by
  match fields, slots with
  | .nil, _ => exact absurd filled id
  | .cons key p' s' rest, (slot, slots) =>
    rcases readField_cons_eq_ok.1 done with ⟨rfl, empty, w, read, rfl⟩ | ⟨other, slots', later, rfl⟩
    · rcases filled with ⟨_, same⟩ | ⟨apart, elsewhere⟩
      · cases same
        cases empty
      · exact .inr ⟨apart, elsewhere⟩
    · rcases filled with here | ⟨apart, elsewhere⟩
      · exact .inl here
      · exact .inr ⟨apart, filled_kept elsewhere later⟩

/-- An entry is read by the text that its key stands for. -/
theorem readEntry_eq_ok {fields : Fields} {slots slots' : fields.Slots} {path : Path} {k k' : Nat} {key : Node} {m : Mark}
    {q : Properties} {style : ScalarStyle} {refusesRepeats : Bool} (named : a.StandsFor key (.scalar q style name m))
    (done : readEntry a refusesRepeats fields path slots (key, x) k = .ok (slots', k')) :
    ∃ l, fields.readField a refusesRepeats (key.step :: path) name x slots l = .ok (slots', k') := by
  obtain ⟨text, l, read, done⟩ := bind_reader_eq_ok.1 done
  obtain ⟨l', same⟩ := Aliases.bind_follow_of_standsFor named rfl read
  cases same
  exact ⟨_, done⟩

theorem filled_of_later {fields : Fields} {slots slots' : fields.Slots} {path : Path} {k k' : Nat}
    {entries : List (Node × Node)} {v : s.Carrier} (filled : fields.Filled slots name s v)
    (done : entries.foldlM (readEntry a true fields path) slots k = .ok (slots', k')) :
    fields.Filled slots' name s v := by
  induction entries generalizing slots k with
  | nil =>
    cases done
    exact filled
  | cons e entries ih =>
    rw [List.foldlM_cons] at done
    obtain ⟨next, l, first, rest⟩ := bind_reader_eq_ok.1 done
    obtain ⟨text, _, _, read⟩ := bind_reader_eq_ok.1 first
    exact ih (filled_kept filled read) rest

/-- Every entry of a field fills its slot, and what comes later leaves it. -/
theorem filled_of_foldlM {fields : Fields} {slots slots' : fields.Slots} {path : Path} {k k' : Nat}
    {entries : List (Node × Node)} {key x : Node} {m : Mark} {q : Properties} {style : ScalarStyle}
    (known : fields.find? name = some (p, s)) (member : (key, x) ∈ entries)
    (named : a.StandsFor key (.scalar q style name m))
    (done : entries.foldlM (readEntry a true fields path) slots k = .ok (slots', k')) :
    ∃ v path' l l', s.read a path' x l = .ok (v, l') ∧ fields.Filled slots' name s v := by
  induction entries generalizing slots k with
  | nil => cases member
  | cons e entries ih =>
    rw [List.foldlM_cons] at done
    obtain ⟨next, l, first, rest⟩ := bind_reader_eq_ok.1 done
    rcases List.mem_cons.1 member with rfl | later
    · obtain ⟨l', read⟩ := readEntry_eq_ok named first
      obtain ⟨v, here, filled⟩ := filled_of_readField known read
      exact ⟨v, _, _, _, here, filled_of_later filled rest⟩
    · exact ih later rest

end Fields

namespace Schema
variable {a : Aliases} {x y z : Node} {s : Schema} {path : Path} {k k' : Nat}

/-- Whatever is read from an alias is read from the node that it stands for. -/
theorem read_of_standsFor {v : s.Carrier} (stands : a.StandsFor x y) (plain : a.follow y = pure y)
    (done : s.read a path x k = .ok (v, k')) : ∃ l, s.read a path y l = .ok (v, k') := by
  have moved : ∀ {body : Node → Reader s.Carrier}, (∀ x, s.read a path x = a.follow x >>= body) →
      ∃ l, s.read a path y l = .ok (v, k') := by
    intro body opens
    rw [opens] at done
    obtain ⟨l, done⟩ := Aliases.bind_follow_of_standsFor stands plain done
    exact ⟨l, by rw [opens, plain, pure_bind]; exact done⟩
  cases s with
  | json =>
    simp only [Schema.read] at moved ⊢
    generalize Node.depthLimit - 1 - path.length = depth at moved ⊢
    cases depth <;> exact moved fun x => by rw [Node.readFree]; rfl
  | optional _ | nullableText | record _ _ _ => exact moved fun x => by rw [Schema.read]
  | _ => exact moved fun x => by rw [Schema.read]; rfl

/-- A mapping is read entry by entry, and what has been given then makes a record. -/
theorem read_mapping_eq_ok {expected : String} {refusesRepeats : Bool} {fields : Fields} {q : Properties}
    {entries : List (Node × Node)} {m : Mark} {v : fields.Carrier} :
    (record expected refusesRepeats fields).read a path (.mapping q entries m) k = .ok (v, k') ↔
      ∃ slots, entries.foldlM (Fields.readEntry a refusesRepeats fields path) fields.noSlots k = .ok (slots, k') ∧
        fields.finish slots = .ok v := by
  have opened : (record expected refusesRepeats fields).read a path (.mapping q entries m) = located path m
      ((entries.foldlM (Fields.readEntry a refusesRepeats fields path) fields.noSlots) >>= fields.closing) := by
    rw [Schema.read]
    rfl
  rw [opened]
  refine located_eq_ok.trans (bind_reader_eq_ok.trans (exists_congr fun slots => ?_))
  unfold Fields.closing
  constructor
  · rintro ⟨l, filling, closing⟩
    cases finished : fields.finish slots with
    | error cause =>
      rw [finished] at closing
      cases closing
    | ok w =>
      rw [finished] at closing
      cases closing
      exact ⟨filling, rfl⟩
  · rintro ⟨filling, finished⟩
    rw [finished]
    exact ⟨k', filling, rfl⟩

/-- A record has the value that is read from an entry of a field. -/
theorem get?_of_entry {expected name : String} {fields : Fields} {p : Presence} {v : fields.Carrier}
    (known : fields.find? name = some (p, s)) (entry : a.Entry x name y) (plain : a.follow y = pure y)
    (done : (record expected true fields).read a path x k = .ok (v, k')) :
    ∃ w path' l l', s.read a path' y l = .ok (w, l') ∧ fields.get? v name = some ⟨s, w⟩ := by
  obtain ⟨member, named, value⟩ := entry
  obtain ⟨slots, filling, finished⟩ := read_mapping_eq_ok.1 done
  obtain ⟨w, path', m, m', read, filled⟩ := Fields.filled_of_foldlM known member named filling
  obtain ⟨m'', read⟩ := read_of_standsFor value plain read
  exact ⟨w, path', m'', m', read, Fields.get?_of_filled filled finished⟩

/-- Where something stands an option is there. -/
theorem some_of_present {v : Option s.Carrier} (plain : a.follow y = pure y)
    (present : ∀ k b k', y.isAbsent k = .ok (b, k') → b = false)
    (done : (optional s).read a path y k = .ok (v, k')) : ∃ w l, v = some w ∧ s.read a path y l = .ok (w, k') := by
  rw [Schema.read, plain, pure_bind] at done
  obtain ⟨b, l, absent, done⟩ := bind_reader_eq_ok.1 done
  cases present k b l absent
  obtain ⟨w, m, read, done⟩ := bind_reader_eq_ok.1 done
  cases done
  exact ⟨w, l, rfl, read⟩

end Schema

namespace Node
variable {a : Aliases} {x y : Node} {s : Schema} {path : Path} {k k' : Nat} {n : Int}

theorem readItems_getElem? {α : Type} {read : Path → Node → Reader α} {items : List Node} {i j : Nat} {v : List α}
    (item : items[i]? = some x) (done : readItems read path j items k = .ok (v, k')) :
    ∃ w path' l l', read path' x l = .ok (w, l') ∧ v[i]? = some w := by
  induction items generalizing i j v k with
  | nil => cases item
  | cons z items ih =>
    obtain ⟨w, l, first, done⟩ := bind_reader_eq_ok.1 done
    obtain ⟨ws, l', rest, done⟩ := bind_reader_eq_ok.1 done
    cases done
    cases i with
    | zero =>
      cases item
      exact ⟨w, _, _, _, first, rfl⟩
    | succ i =>
      obtain ⟨w', path', m, m', read, listed⟩ := ih (List.getElem?_cons_succ.symm.trans item) rest
      exact ⟨w', path', m, m', read, listed⟩

/-- A list has the values of its items. -/
theorem getElem?_of_item {i : Nat} {v : List s.Carrier} (item : a.Item x i y) (plain : a.follow y = pure y)
    (done : (Schema.listOf s).read a path x k = .ok (v, k')) :
    ∃ w path' l l', s.read a path' y l = .ok (w, l') ∧ v[i]? = some w := by
  obtain ⟨there, value⟩ := item
  rw [Schema.read] at done
  obtain ⟨w, path', l, l', read, listed⟩ := readItems_getElem? there (located_eq_ok.1 done)
  obtain ⟨l'', read⟩ := Schema.read_of_standsFor value plain read
  exact ⟨w, path', l'', l', read, listed⟩

theorem isPresent_of_entry {name : String} (entry : a.Entry y name x) (k : Nat) (b : Bool) (k' : Nat)
    (done : y.isAbsent k = .ok (b, k')) : b = false := by
  cases entry
  cases done
  rfl

theorem follow_of_entry {name : String} (entry : a.Entry y name x) : a.follow y = pure y := by
  cases entry
  rfl

theorem follow_of_item {i : Nat} (item : a.Item y i x) : a.follow y = pure y := by
  cases item
  rfl

theorem follow_of_isNumber (number : y.IsNumber n) : a.follow y = pure y := by
  cases number
  rfl

/-- A number is there, if it is read at all. -/
theorem isPresent_of_isNumber (number : y.IsNumber n) (k : Nat) (b : Bool) (k' : Nat)
    (done : y.isAbsent k = .ok (b, k')) : b = false := by
  obtain @⟨p, text, m, n, writes⟩ := number
  cases tagged : p.tag with
  | none =>
    simp only [isAbsent, tagged, writes.isNull, writes.isEmpty] at done
    cases done
    rfl
  | some tag =>
    by_cases null : tag = nullTag
    · simp only [isAbsent, tagged, null, writes.isNull] at done
      cases done
    · simp only [isAbsent, tagged, ne_eq, null, not_false_iff, if_true] at done
      cases done
      rfl

/-- A number of 64 bits is read as it is. -/
theorem of_readInteger {α : Type} {expected : String} {convert : Int → Reader α} {v : α} (number : y.IsNumber n)
    (done : readInteger a path expected convert y k = .ok (v, k')) :
    Width.fitsInt64 n = true ∧ convert n k = .ok (v, k') := by
  obtain @⟨p, text, m, n, writes⟩ := number
  have whole : ((Plain.integer? text).filter fun i => isPlainOr intTag p .plain && Width.fitsInt64 i) =
      if Width.fitsInt64 n then some n else none := by
    rw [writes.integer?, Option.filter_some]
    rfl
  simp only [readInteger, Aliases.follow, pure_bind, whole] at done
  by_cases fits : Width.fitsInt64 n = true
  · rw [if_pos fits] at done
    exact ⟨fits, located_eq_ok.1 done⟩
  · rw [if_neg fits] at done
    exact absurd done (fails_refuse path expected _ k _)

theorem int32_of_isNumber {v : Int32} (number : y.IsNumber n) (done : Schema.int32.read a path y k = .ok (v, k')) :
    (-2 ^ 31 ≤ n ∧ n ≤ 2 ^ 31 - 1) ∧ v.toInt = n := by
  obtain ⟨_, converted⟩ := of_readInteger number done
  unfold toInt32 at converted
  split at converted
  · next fits =>
    cases converted
    simp only [Width.fitsInt32, Bool.and_eq_true, decide_eq_true_eq] at fits
    exact ⟨by omega, Int32.toInt_ofInt_of_le (by omega) (by omega)⟩
  · cases converted

theorem int64_of_isNumber {v : Int64} (number : y.IsNumber n) (done : Schema.int64.read a path y k = .ok (v, k')) :
    (-2 ^ 63 ≤ n ∧ n ≤ 2 ^ 63 - 1) ∧ v.toInt = n := by
  obtain ⟨fits, converted⟩ := of_readInteger number done
  cases converted
  simp only [Width.fitsInt64, Bool.and_eq_true, decide_eq_true_eq] at fits
  exact ⟨by omega, Int64.toInt_ofInt_of_le (by omega) (by omega)⟩

end Node
end MachineOperator.Yaml
