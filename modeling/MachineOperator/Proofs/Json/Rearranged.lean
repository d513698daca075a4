import MachineOperator.Proofs.Json.Meaning
import MachineOperator.Proofs.Sequence

/-!
Trees that say the same as values of a shape, and trees that say nothing. The members of a record may stand in any order,
and others may stand among them, since no member undoes what another has done. A record that is given a member twice, or not
at all where it needs one, says nothing, and neither does a value of another type.
-/
namespace MachineOperator.Json

namespace Members
variable {members more : Members} {key name : String} {optional : Bool} {s : Shape} {t t' : Tree}

/-- The member of a name: whether it may be left out, and its shape. -/
def find? : Members → String → Option (Bool × Shape)
  | .nil, _ => none
  | .cons key optional s rest, name => if name = key then some (optional, s) else rest.find? name

theorem find?_cons_eq_some {optional' : Bool} {s' : Shape}
    (known : (cons key optional' s' more).find? name = some (optional, s)) :
    (name = key ∧ optional' = optional ∧ s' = s) ∨ (name ≠ key ∧ more.find? name = some (optional, s)) := by
  rw [find?] at known
  by_cases here : name = key
  · cases (if_pos here).symm.trans known
    exact .inl ⟨here, rfl, rfl⟩
  · exact .inr ⟨here, (if_neg here).symm.trans known⟩

/-- The keys of the members, each with whether it may be left out. -/
def keys : Members → List (String × Bool)
  | .nil => []
  | .cons key optional _ rest => (key, optional) :: rest.keys

/-- A member is known if its key is listed, and it may be left out if the list says so. -/
theorem find?_eq_lookup (members : Members) (name : String) :
    (members.find? name).map (·.1) = members.keys.lookup name := by
  match members with
  | .nil => rfl
  | .cons key optional s rest =>
    rw [find?, keys, List.lookup_cons]
    by_cases here : name = key
    · simp [here]
    · rw [if_neg here, beq_false_of_ne here]
      exact rest.find?_eq_lookup name

section Slots
variable {slot : Option s.Carrier} {slots : more.Slots}

theorem put?_self : (cons key optional s more).put? (consSlots key optional slot slots) key t =
    if slot.isSome then none else (s.value? t).map fun v => consSlots key optional (some v) slots := if_pos rfl

theorem put?_other (other : name ≠ key) : (cons key optional s more).put? (consSlots key optional slot slots) name t =
    (more.put? slots name t).map (consSlots key optional slot) := if_neg other

theorem put?_given {v : s.Carrier} :
    (cons key optional s more).put? (consSlots key optional (some v) slots) key t = none := put?_self.trans (if_pos rfl)

theorem put?_self_twice : ((cons key optional s more).put? (consSlots key optional slot slots) key t).bind
    (fun slots => (cons key optional s more).put? slots key t') = none := by
  rw [put?_self]
  cases slot with
  | some v => rfl
  | none =>
    cases s.value? t with
    | none => rfl
    | some v => exact put?_given

theorem put?_self_other (other : name ≠ key) :
    ((cons key optional s more).put? (consSlots key optional slot slots) key t).bind
        (fun slots => (cons key optional s more).put? slots name t') =
      ((cons key optional s more).put? (consSlots key optional slot slots) name t').bind
        (fun slots => (cons key optional s more).put? slots key t) := by
  rw [put?_self, put?_other other]
  cases slot with
  | some v =>
    cases more.put? slots name t' with
    | none => rfl
    | some slots => exact put?_given.symm
  | none =>
    cases here : s.value? t with
    | none =>
      cases more.put? slots name t' with
      | none => rfl
      | some slots =>
        refine Eq.trans ?_ put?_self.symm
        rw [here]
        rfl
    | some v =>
      refine (put?_other other).trans ?_
      cases more.put? slots name t' with
      | none => rfl
      | some slots =>
        refine Eq.trans ?_ put?_self.symm
        rw [here]
        rfl

end Slots

/-- Two members change places, whether they are of the same name or not. -/
theorem put?_comm (members : Members) (slots : members.Slots) (name name' : String) (t t' : Tree) :
    (members.put? slots name t).bind (fun slots => members.put? slots name' t') =
      (members.put? slots name' t').bind (fun slots => members.put? slots name t) := by
  match members, slots with
  | .nil, _ => rfl
  | .cons key optional s more, slots =>
    obtain ⟨slot, slots⟩ := slots
    by_cases here : name = key
    · subst here
      by_cases there : name' = name
      · subst there
        exact put?_self_twice.trans put?_self_twice.symm
      · exact put?_self_other there
    · by_cases there : name' = key
      · subst there
        exact (put?_self_other here).symm
      · have later := congrArg (Option.map (consSlots key optional slot)) (more.put?_comm slots name name' t t')
        have apart {m m' : String} {u u' : Tree} (other : m ≠ key) (other' : m' ≠ key) :
            ((cons key optional s more).put? (consSlots key optional slot slots) m u).bind
                (fun slots => (cons key optional s more).put? slots m' u') =
              ((more.put? slots m u).bind fun slots => more.put? slots m' u').map (consSlots key optional slot) := by
          rw [put?_other other]
          cases more.put? slots m u with
          | none => rfl
          | some slots => exact put?_other other'
        exact (apart here there).trans (later.trans (apart there here).symm)

theorem put?_unknown (members : Members) (unknown : members.find? name = none) (slots : members.Slots) :
    members.put? slots name t = some slots := by
  match members, slots with
  | .nil, _ => rfl
  | .cons key optional s more, slots =>
    obtain ⟨slot, slots⟩ := slots
    rw [find?] at unknown
    have other : name ≠ key := fun same => by simp [same] at unknown
    rw [if_neg other] at unknown
    refine (put?_other other).trans ?_
    rw [more.put?_unknown unknown]
    rfl

/-- A member counts for what it says. -/
theorem put?_congr (members : Members) (known : members.find? name = some (optional, s)) (same : s.value? t = s.value? t')
    (slots : members.Slots) : members.put? slots name t = members.put? slots name t' := by
  match members, slots with
  | .nil, _ => rfl
  | .cons key optional' s' more, slots =>
    obtain ⟨slot, slots⟩ := slots
    obtain ⟨rfl, rfl, rfl⟩ | ⟨other, known⟩ := find?_cons_eq_some known
    · refine put?_self.trans (Eq.trans ?_ put?_self.symm)
      rw [same]
    · refine (put?_other other).trans (Eq.trans ?_ (put?_other other).symm)
      rw [more.put?_congr known same]

theorem put?_eq_none (members : Members) (known : members.find? name = some (optional, s)) (nothing : s.value? t = none)
    (slots : members.Slots) : members.put? slots name t = none := by
  match members, slots with
  | .nil, _ => cases known
  | .cons key optional' s' more, slots =>
    obtain ⟨slot, slots⟩ := slots
    obtain ⟨rfl, rfl, rfl⟩ | ⟨other, known⟩ := find?_cons_eq_some known
    · refine put?_self.trans ?_
      rw [nothing]
      exact ite_self none
    · refine (put?_other other).trans ?_
      rw [more.put?_eq_none known nothing]
      rfl

theorem put?_twice (members : Members) (known : members.find? name = some (optional, s)) (slots : members.Slots) :
    (members.put? slots name t).bind (fun slots => members.put? slots name t') = none := by
  match members, slots with
  | .nil, _ => cases known
  | .cons key optional' s' more, slots =>
    obtain ⟨slot, slots⟩ := slots
    obtain ⟨rfl, rfl, rfl⟩ | ⟨other, known⟩ := find?_cons_eq_some known
    · exact put?_self_twice
    · have later := more.put?_twice known slots
      refine (congrArg (Option.bind · _) (put?_other other)).trans ?_
      cases put : more.put? slots name t with
      | none => rfl
      | some slots =>
        rw [put] at later
        refine (put?_other other).trans ?_
        exact congrArg (Option.map (consSlots key optional' slot)) later

/-! Members that are left out. -/

/-- Whether a member has been given. -/
def isGiven : (members : Members) → members.Slots → String → Bool
  | .nil, _, _ => false
  | .cons key _ _ rest, (slot, slots), name => if name = key then slot.isSome else rest.isGiven slots name

theorem isGiven_noSlots (members : Members) (name : String) : members.isGiven members.noSlots name = false := by
  match members with
  | .nil => rfl
  | .cons key optional s more => exact (congrArg (ite (name = key) false) (more.isGiven_noSlots name)).trans (ite_self _)

/-- A member that is given gives no other. -/
theorem isGiven_of_put? (members : Members) {slots slots' : members.Slots} (put : members.put? slots key t = some slots')
    (other : key ≠ name) : members.isGiven slots' name = members.isGiven slots name := by
  match members, slots with
  | .nil, _ => rfl
  | .cons key' optional s more, slots =>
    obtain ⟨slot, slots⟩ := slots
    by_cases here : key = key'
    · subst here
      rw [show (slot, slots) = consSlots key optional slot slots from rfl, put?_self] at put
      obtain ⟨_, put⟩ := Option.ite_none_left_eq_some.1 put
      obtain ⟨v, _, rfl⟩ := Option.map_eq_some_iff.1 put
      exact (if_neg (Ne.symm other)).trans (if_neg (Ne.symm other)).symm
    · obtain ⟨later, others, rfl⟩ := Option.map_eq_some_iff.1 ((put?_other here).symm.trans put)
      exact congrArg (ite (name = key') slot.isSome) (more.isGiven_of_put? others other)

theorem finish_consSlots (slot : Option s.Carrier) (slots : more.Slots) :
    ((cons key optional s more).finish (consSlots key optional slot slots)).toOption =
      (slot.or (if optional then some s.blank else none)).bind fun v =>
        (more.finish slots).toOption.map (consValues key optional v) := by
  have opened : (cons key optional s more).finish (consSlots key optional slot slots) =
      Except.bind (slot.elim (if optional then .ok s.blank else .error (.missing key)) .ok) fun v =>
        Except.bind (more.finish slots) fun vs => .ok (v, vs) := by
    cases slot <;> cases optional <;> rfl
  rw [opened]
  cases more.finish slots <;> cases slot <;> cases optional <;> rfl

theorem finish_of_not_given (members : Members) {slots : members.Slots} (required : members.find? name = some (false, s))
    (absent : members.isGiven slots name = false) : (members.finish slots).toOption = none := by
  match members, slots with
  | .nil, _ => cases required
  | .cons key optional s' more, slots =>
    obtain ⟨slot, slots⟩ := slots
    refine (finish_consSlots slot slots).trans ?_
    obtain ⟨rfl, rfl, rfl⟩ | ⟨other, required⟩ := find?_cons_eq_some required
    · have vacant : slot.isSome = false := (if_pos rfl).symm.trans absent
      cases slot with
      | none => rfl
      | some v => cases vacant
    · rw [more.finish_of_not_given required ((if_neg other).symm.trans absent)]
      exact Option.bind_fun_none _

end Members

/-! Members of objects. -/

namespace Members
variable {members : Members} {name : String} {optional : Bool} {s : Shape} {key key' : Spelling} {t t' : Tree}
  {before between after ms ms' : List (Spelling × Tree)}

theorem take?_comm (slots : members.Slots) (m m' : Spelling × Tree) :
    (members.take? slots m).bind (members.take? · m') = (members.take? slots m').bind (members.take? · m) := by
  unfold take?
  cases m.1.text? with
  | none => exact (Option.bind_fun_none _).symm
  | some name =>
    cases m'.1.text? with
    | none => exact Option.bind_fun_none _
    | some name' => exact members.put?_comm slots name name' m.2 m'.2

theorem take?_named (spelled : key.text? = some name) (slots : members.Slots) :
    members.take? slots (key, t) = members.put? slots name t := by
  rw [take?, spelled]
  rfl

theorem foldlM_perm (reordered : ms.Perm ms') (slots : members.Slots) :
    ms.foldlM members.take? slots = ms'.foldlM members.take? slots := foldlM_eq_of_perm take?_comm reordered slots

/-- A member counts as if it stood first. -/
theorem foldlM_middle (m : Spelling × Tree) (slots : members.Slots) :
    (before ++ m :: after).foldlM members.take? slots =
      (members.take? slots m).bind fun slots => (before ++ after).foldlM members.take? slots :=
  (foldlM_perm List.perm_middle slots).trans List.foldlM_cons

theorem foldlM_repeated (known : members.find? name = some (optional, s)) (spelled : key.text? = some name)
    (spelled' : key'.text? = some name) (slots : members.Slots) :
    (before ++ (key, t) :: between ++ (key', t') :: after).foldlM members.take? slots = none := by
  rw [foldlM_middle, List.append_assoc, List.cons_append]
  simp only [foldlM_middle, take?_named spelled, take?_named spelled']
  rw [← Option.bind_assoc, members.put?_twice known slots]
  rfl

theorem foldlM_unknown (unknown : ∀ m ∈ ms, ∃ name, m.1.text? = some name ∧ members.find? name = none)
    (slots : members.Slots) : ms.foldlM members.take? slots = some slots := by
  induction ms with
  | nil => rfl
  | cons m ms ih =>
    obtain ⟨name, spelled, other⟩ := unknown m List.mem_cons_self
    rw [List.foldlM_cons, show m = (m.1, m.2) from rfl, take?_named spelled, members.put?_unknown other]
    exact ih fun m member => unknown m (List.mem_cons_of_mem _ member)

theorem isGiven_of_foldlM {slots slots' : members.Slots} (filled : ms.foldlM members.take? slots = some slots')
    (absent : ∀ m ∈ ms, m.1.text? ≠ some name) : members.isGiven slots' name = members.isGiven slots name := by
  induction ms generalizing slots with
  | nil =>
    cases filled
    rfl
  | cons m ms ih =>
    rw [List.foldlM_cons] at filled
    obtain ⟨slots₁, taken, filled⟩ := Option.bind_eq_some_iff.1 filled
    obtain ⟨key, spelled, put⟩ := Option.bind_eq_some_iff.1 taken
    have other : key ≠ name := fun same => absent m List.mem_cons_self (same ▸ spelled)
    rw [ih filled fun m member => absent m (List.mem_cons_of_mem _ member), members.isGiven_of_put? put other]

/-! Values in their order. -/

/-- The shape of the value in a place. -/
def place? : Members → Nat → Option Shape
  | .nil, _ => none
  | .cons _ _ s _, 0 => some s
  | .cons _ _ _ rest, n + 1 => rest.place? n

/-- How many values a list has to have at least. -/
def needed : Members → Nat
  | .nil => 0
  | .cons _ optional _ rest => if rest.needed = 0 && optional then 0 else rest.needed + 1

theorem inOrder?_place (members : Members) {before after : List Tree} (known : members.place? before.length = some s)
    (nothing : s.value? t = none) : members.inOrder? (before ++ t :: after) = none := by
  match members, before with
  | .nil, _ => cases known
  | .cons key optional s' more, [] =>
    cases known
    rw [List.nil_append, inOrder?, nothing]
    rfl
  | .cons key optional s' more, u :: before =>
    rw [List.cons_append, inOrder?, more.inOrder?_place known nothing]
    cases s'.value? u <;> rfl

theorem inOrder?_short (members : Members) {items : List Tree} (short : items.length < members.needed) :
    members.inOrder? items = none := by
  match members, items with
  | .nil, _ => cases short
  | .cons key optional s more, [] =>
    rw [inOrder?]
    cases optional with
    | false => rfl
    | true =>
      have later : 0 < more.needed := by
        rcases Nat.eq_zero_or_pos more.needed with zero | later
        · simp [needed, zero] at short
        · exact later
      have none : more.inOrder? [] = none := more.inOrder?_short later
      rw [none]
      rfl
  | .cons key optional s more, t :: items =>
    have later : items.length < more.needed := by
      rw [needed] at short
      split at short
      · cases short
      · simpa using short
    rw [inOrder?, more.inOrder?_short later]
    cases s.value? t <;> rfl

end Members

mutual
/-- The records of a shape, from the outside in: the name of each, and the keys of its members. -/
def Shape.records : Shape → List (String × List (String × Bool))
  | .text => []
  | .listOf s => s.records
  | .record name members => (name, members.keys) :: members.records

def Members.records : Members → List (String × List (String × Bool))
  | .nil => []
  | .cons _ _ s rest => s.records ++ rest.records
end

/-- One tree comes from another by one change that does not count: in the order of the members of a record, or by a member
more that it does not know; in the tree as a whole, or in a part that the shape reads as a record or as a list of them. -/
inductive Shape.Rearranged : Shape → Tree → Tree → Prop
  | reordered {name members ms ms'} (reordered : List.Perm ms ms') :
      Rearranged (.record name members) (.object ms) (.object ms')
  | inserted {name members} (before after key value) {text} (spelled : Spelling.text? key = some text)
      (unknown : Members.find? members text = none) :
      Rearranged (.record name members) (.object (before ++ after)) (.object (before ++ (key, value) :: after))
  | member {name members} (before after key) {text optional s t t'} (spelled : Spelling.text? key = some text)
      (known : Members.find? members text = some (optional, s)) (inside : Rearranged s t t') :
      Rearranged (.record name members) (.object (before ++ (key, t) :: after)) (.object (before ++ (key, t') :: after))
  | item {s} (before after) {t t'} (inside : Rearranged s t t') :
      Rearranged (.listOf s) (.list (before ++ t :: after)) (.list (before ++ t' :: after))

/-- Somewhere in a tree a member is given twice or is missing, or a value has another type. A record may also be a list of
its values, which is refused if it is too short. -/
inductive Shape.Refused : Shape → Tree → Prop
  | noText {t} (other : ∀ ps, t ≠ .string ps) : Refused .text t
  | noList {s t} (other : ∀ items, t ≠ .list items) : Refused (.listOf s) t
  | repeated {name members} (before between after key key' value value') {text known}
      (spelled : Spelling.text? key = some text) (spelled' : Spelling.text? key' = some text)
      (known : Members.find? members text = some known) :
      Refused (.record name members) (.object (before ++ (key, value) :: between ++ (key', value') :: after))
  | missing {name members ms} (text) {s} (required : Members.find? members text = some (false, s))
      (absent : ∀ m ∈ ms, Spelling.text? m.1 ≠ some text) : Refused (.record name members) (.object ms)
  | short {name members items} (short : List.length items < Members.needed members) :
      Refused (.record name members) (.list items)
  | member {name members} (before after key) {text optional s t} (spelled : Spelling.text? key = some text)
      (known : Members.find? members text = some (optional, s)) (inside : Refused s t) :
      Refused (.record name members) (.object (before ++ (key, t) :: after))
  | place {name members} (before after) {s t} (known : Members.place? members before.length = some s)
      (inside : Refused s t) : Refused (.record name members) (.list (before ++ t :: after))
  | item {s} (before after) {t} (inside : Refused s t) : Refused (.listOf s) (.list (before ++ t :: after))

namespace Shape

/-- A record is refused that lacks a member which the list of its keys requires. -/
theorem Refused.of_missing {name key : String} {members : Members} {ms : List (Spelling × Tree)}
    (required : members.keys.lookup key = some false) (absent : ∀ m ∈ ms, m.1.text? ≠ some key) :
    (record name members).Refused (.object ms) := by
  rw [← members.find?_eq_lookup, Option.map_eq_some_iff] at required
  obtain ⟨⟨_, s⟩, known, rfl⟩ := required
  exact .missing key known absent

theorem Rearranged.value?_eq {s : Shape} {t t' : Tree} (moved : s.Rearranged t t') : s.value? t = s.value? t' := by
  induction moved with
  | reordered reordered => rw [value?_object, value?_object, Members.foldlM_perm reordered]
  | inserted before after key value spelled unknown =>
    rw [value?_object, value?_object, Members.foldlM_middle, Members.take?_named spelled, Members.put?_unknown _ unknown,
      Option.bind_some]
  | member before after key spelled known inside ih =>
    rw [value?_object, value?_object, Members.foldlM_middle, Members.foldlM_middle, Members.take?_named spelled,
      Members.take?_named spelled, Members.put?_congr _ known ih]
  | item before after inside ih =>
    rw [value?_list, value?_list, List.mapM_append, List.mapM_append, List.mapM_cons, List.mapM_cons, ih]

theorem Refused.value?_eq_none {s : Shape} {t : Tree} (refused : s.Refused t) : s.value? t = none := by
  induction refused with
  | @noText t other =>
    cases t with
    | string ps => exact absurd rfl (other ps)
    | _ => rfl
  | @noList s t other =>
    cases t with
    | list items => exact absurd rfl (other items)
    | _ => rfl
  | repeated before between after key key' value value' spelled spelled' known =>
    rw [value?_object, Members.foldlM_repeated known spelled spelled']
    rfl
  | @missing name members ms text s required absent =>
    rw [value?_object]
    cases filled : ms.foldlM members.take? members.noSlots with
    | none => rfl
    | some slots =>
      have notGiven := (Members.isGiven_of_foldlM filled absent).trans (members.isGiven_noSlots text)
      exact members.finish_of_not_given required notGiven
  | short short => exact (value?_inOrder _).trans (Members.inOrder?_short _ short)
  | member before after key spelled known inside ih =>
    rw [value?_object, Members.foldlM_middle, Members.take?_named spelled, Members.put?_eq_none _ known ih]
    rfl
  | place before after known inside ih => exact (value?_inOrder _).trans (Members.inOrder?_place _ known ih)
  | item before after inside ih =>
    rw [value?_list]
    exact mapM_middle_none before after _ ih

end Shape
end MachineOperator.Json
