import MachineOperator.Json.Shape
import MachineOperator.Proofs.Json.Skip

/-!
What a tree says as a value of a shape. Readers read that wherever the tree is written, and fail if it says nothing.
-/
namespace MachineOperator.Json

namespace Tree

def text? : Tree → Option String
  | string ps => ps.text?
  | _ => none

def items? : Tree → Option (List Tree)
  | list items => some items
  | _ => none

def members? : Tree → Option (List (Spelling × Tree))
  | object members => some members
  | _ => none

end Tree

namespace Members
variable (key : String) (optional : Bool) {s : Shape} {rest : Members}

/-- The slots and the values of a record with one member in front of others. -/
def consSlots (slot : Option s.Carrier) (slots : rest.Slots) : (cons key optional s rest).Slots := (slot, slots)

def consValues (v : s.Carrier) (vs : rest.Carrier) : (cons key optional s rest).Carrier := (v, vs)

end Members

mutual

/-- What a tree says as a value of a shape. -/
def Shape.value? : (s : Shape) → Tree → Option s.Carrier
  | .text, t => t.text?
  | .listOf s, t => t.items?.bind fun items => items.mapM s.value?
  | .record _ members, t =>
    (t.items?.bind members.inOrder?).or
      ((t.members?.bind fun ms =>
        ms.foldlM (fun slots m => m.1.text?.bind fun name => members.put? slots name m.2) members.noSlots).bind fun slots =>
          (members.finish slots).toOption)

/-- What items say as the values of a record in their order. -/
def Members.inOrder? : (members : Members) → List Tree → Option members.Carrier
  | .nil, [] => some ()
  | .nil, _ :: _ => none
  | .cons key optional s rest, [] =>
    if optional then (rest.inOrder? []).map (Members.consValues key optional s.blank) else none
  | .cons key optional s rest, t :: items =>
    (s.value? t).bind fun v => (rest.inOrder? items).map (Members.consValues key optional v)

/-- The slots of a record with one member more, which may be given once. -/
def Members.put? : (members : Members) → members.Slots → String → Tree → Option members.Slots
  | .nil, _, _, _ => some ()
  | .cons key optional s rest, (slot, slots), name, t =>
    if name = key then
      if slot.isSome then none else (s.value? t).map fun v => Members.consSlots key optional (some v) slots
    else (rest.put? slots name t).map (Members.consSlots key optional slot)

end

/-- The slots of a record with one member more, whose key has to be text. -/
def Members.take? (members : Members) (slots : members.Slots) (m : Spelling × Tree) : Option members.Slots :=
  m.1.text?.bind fun name => members.put? slots name m.2

/-- An object says what its members say one after another. -/
theorem Shape.value?_object {name : String} {members : Members} (ms : List (Spelling × Tree)) :
    (record name members).value? (.object ms) =
      (ms.foldlM members.take? members.noSlots).bind fun slots => (members.finish slots).toOption := by
  rw [Shape.value?]
  rfl

theorem Shape.value?_list {s : Shape} (items : List Tree) : (listOf s).value? (.list items) = items.mapM s.value? := by
  rw [Shape.value?]
  rfl

theorem Shape.value?_inOrder {name : String} {members : Members} (items : List Tree) :
    (record name members).value? (.list items) = members.inOrder? items := by
  rw [Shape.value?]
  exact Option.or_none

/-! What a value is, by its first byte. -/

namespace Tree
variable {t : Tree}

theorem mark?_of_opening {c : Char} (mark : c ∈ ['"', '[', '\x7b']) (opened : t.opening = ascii c) : t.mark? = some c := by
  have digit (d : Fin 10) : digitByte d ≠ ascii c := by
    simp only [List.mem_cons, List.not_mem_nil, or_false] at mark
    rcases mark with rfl | rfl | rfl <;> exact digitByte_ne d (by decide)
  simp only [List.mem_cons, List.not_mem_nil, or_false] at mark
  unfold opening at opened
  split at opened <;>
    first
    | exact absurd opened (digit _)
    | rcases mark with rfl | rfl | rfl <;> first | rfl | exact absurd opened (by decide)

theorem exists_string (quote : t.opening = ascii '"') : ∃ ps, t = string ps := by
  cases t with
  | string ps => exact ⟨ps, rfl⟩
  | _ => cases mark?_of_opening (by decide) quote

theorem exists_list (bracket : t.opening = ascii '[') : ∃ items, t = list items := by
  cases t with
  | list items => exact ⟨items, rfl⟩
  | _ => cases mark?_of_opening (by decide) bracket

theorem exists_object (brace : t.opening = ascii '\x7b') : ∃ members, t = object members := by
  cases t with
  | object members => exact ⟨members, rfl⟩
  | _ => cases mark?_of_opening (by decide) brace

theorem text?_eq_none (other : t.opening ≠ ascii '"') : t.text? = none := by
  cases t <;> first | rfl | exact absurd rfl other

theorem items?_eq_none (other : t.opening ≠ ascii '[') : t.items? = none := by
  cases t <;> first | rfl | exact absurd rfl other

theorem members?_eq_none (other : t.opening ≠ ascii '\x7b') : t.members? = none := by
  cases t <;> first | rfl | exact absurd rfl other

end Tree

/-! Readers of a part of a text. -/

/-- A reader reads what a tree says, wherever the tree is written. -/
def Reads {α : Type} (read : List UInt8 → Read α) (t : Tree) (x : Option α) : Prop :=
  ∀ ⦃text item rest⦄, Blanks text item → t.Spans item rest → (read text).toOption = x.map (·, rest)

/-- A reader takes a member as what it says, wherever the member is written behind its key. -/
def Takes {σ : Type} (read : String → σ → List UInt8 → Read σ) (put? : σ → String → Tree → Option σ) : Prop :=
  ∀ name slots t ⦃colon value item after⦄, Blanks colon (ascii ':' :: value) → Blanks value item → t.Spans item after →
    EndsNumber after → (read name slots colon).toOption = (put? slots name t).map (·, after)

theorem toOption_refuse {α : Type} (expected : String) (text : List UInt8) :
    (refuse expected text : Except Fault α).toOption = none := by
  have bound {β : Type} (x : Except Fault β) (f : β → Except Fault α) (fails : ∀ b, (f b).toOption = none) :
      (x >>= f).toOption = none := by
    cases x with
    | error e => rfl
    | ok b => exact fails b
  unfold refuse
  split
  · rfl
  · repeat' split
    all_goals first | exact bound _ _ fun _ => rfl | rfl

theorem reads_readText (expected : String) (t : Tree) : Reads (readText expected) t t.text? := by
  intro text item rest blanks written
  obtain ⟨more, rfl⟩ := Tree.opening_of_spans written
  rw [readText, blanks.skipBlanks t.opening_apart.1]
  by_cases quote : t.opening = ascii '"'
  · obtain ⟨ps, rfl⟩ := Tree.exists_string quote
    cases written
    exact readString_spelling ps rest
  · simp only [if_neg quote, toOption_refuse, Tree.text?_eq_none quote]
    rfl

section Parts
variable {first : Bool} {text part item after rest : List UInt8} {t : Tree}

/-! The next part of a collection. -/

theorem nextItem_end (closing : Blanks text (ascii ']' :: rest)) : nextItem first text = .ok (.ended rest) := by
  rw [nextItem, closing.skipBlanks (by decide)]
  rfl

theorem nextItem_item (before : Blanks text (separated first part)) (blanks : Blanks part item)
    (written : t.Spans item after) : nextItem first text = .ok (.item item) := by
  obtain ⟨more, rfl⟩ := Tree.opening_of_spans written
  obtain ⟨noBlank, noEnd⟩ := t.opening_apart
  rw [nextItem]
  cases first with
  | true =>
    rw [(before.trans blanks).skipBlanks noBlank]
    exact if_neg noEnd
  | false =>
    have toComma : skipBlanks text = ascii ',' :: part := Blanks.skipBlanks before (by decide)
    have noBracket : ascii ',' ≠ ascii ']' := by decide
    simp only [toComma, if_neg noBracket, Bool.false_eq_true, if_false, if_true, blanks.skipBlanks noBlank, if_neg noEnd]

theorem nextMember_end (closing : Blanks text (ascii '\x7d' :: rest)) : nextMember first text = .ok (.ended rest) := by
  rw [nextMember, closing.skipBlanks (by decide)]
  rfl

theorem nextMember_member {key : Spelling} {colon : List UInt8} (before : Blanks text (separated first part))
    (named : Blanks part (key.quoted colon)) :
    nextMember first text = .ok (.item (key.bytes ++ ascii '"' :: colon)) := by
  rw [nextMember]
  cases first with
  | true =>
    rw [(before.trans named).skipBlanks (by decide)]
    rfl
  | false =>
    have toComma : skipBlanks text = ascii ',' :: part := Blanks.skipBlanks before (by decide)
    have noBrace : ascii ',' ≠ ascii '\x7d' := by decide
    simp only [toComma, if_neg noBrace, Bool.false_eq_true, if_false, if_true, named.skipBlanks (by decide)]

theorem endList_end (closing : Blanks text (ascii ']' :: rest)) : endList text = .ok rest := by
  rw [endList, closing.skipBlanks (by decide)]
  rfl

theorem endList_item (before : Blanks text (separated first part)) (blanks : Blanks part item)
    (written : t.Spans item after) : (endList text).toOption = none := by
  obtain ⟨more, rfl⟩ := Tree.opening_of_spans written
  obtain ⟨noBlank, noEnd⟩ := t.opening_apart
  rw [endList]
  cases first with
  | true =>
    have toItem : skipBlanks text = t.opening :: more := (Blanks.trans before blanks).skipBlanks noBlank
    simp only [toItem, if_neg noEnd]
    repeat' split
    all_goals rfl
  | false =>
    have toComma : skipBlanks text = ascii ',' :: part := Blanks.skipBlanks before (by decide)
    have noBracket : ascii ',' ≠ ascii ']' := by decide
    simp only [toComma, if_neg noBracket, if_true, blanks.skipBlanks noBlank, if_neg noEnd]
    rfl

theorem expectColon_of_blanks (marked : Blanks text (ascii ':' :: rest)) : expectColon text = .ok rest := by
  rw [expectColon, marked.skipBlanks (by decide)]
  rfl

end Parts

/-- The items of a list are read one by one. -/
theorem toOption_readItems {α : Type} {read : List UInt8 → Read α} {value? : Tree → Option α}
    (reads : ∀ t, Reads read t (value? t)) {fuel : Nat} {first : Bool} {items : List Tree} (as : List α)
    {text rest : List UInt8} (written : Tree.ItemsSpan first items text rest) (enough : items.length < fuel) :
    (readItems read fuel first as text).toOption = (items.mapM value?).map fun bs => (as.reverse ++ bs, rest) := by
  induction items generalizing fuel first as text with
  | nil =>
    obtain ⟨fuel, rfl⟩ := Nat.exists_eq_add_one_of_ne_zero (Nat.ne_zero_of_lt enough)
    rw [readItems, nextItem_end written]
    simp [Except.toOption, pure]
  | cons t items ih =>
    obtain ⟨fuel, rfl⟩ := Nat.exists_eq_add_one_of_ne_zero (Nat.ne_zero_of_lt enough)
    obtain ⟨part, item, after, before, blanks, here, others⟩ := written
    rw [readItems, nextItem_item before blanks here, bind_ok, List.mapM_cons]
    rcases cases_of_toOption (reads t .none here) with ⟨a, said, done⟩ | ⟨nothing, f, failed⟩
    · have later := ih (a :: as) others (by simpa using enough)
      simp only [done, bind_ok, said, later]
      cases items.mapM value? <;> simp
    · simp only [failed, bind_error, nothing]
      rfl

/-- The members of an object are read one by one; what each does is up to the reader of one. -/
theorem toOption_readMembers {σ : Type} {read : String → σ → List UInt8 → Read σ} {put? : σ → String → Tree → Option σ}
    (takes : Takes read put?) {fuel : Nat} {first : Bool} {members : List (Spelling × Tree)} (slots : σ)
    {text rest : List UInt8} (written : Tree.MembersSpan first members text rest) (enough : members.length < fuel) :
    (readMembers read fuel first slots text).toOption =
      (members.foldlM (fun slots (m : Spelling × Tree) => m.1.text?.bind fun name => put? slots name m.2) slots).map
        (·, rest) := by
  induction members generalizing fuel first slots text with
  | nil =>
    obtain ⟨fuel, rfl⟩ := Nat.exists_eq_add_one_of_ne_zero (Nat.ne_zero_of_lt enough)
    rw [readMembers, nextMember_end written]
    rfl
  | cons m members ih =>
    obtain ⟨key, t⟩ := m
    obtain ⟨fuel, rfl⟩ := Nat.exists_eq_add_one_of_ne_zero (Nat.ne_zero_of_lt enough)
    obtain ⟨part, colon, value, item, after, before, named, marked, blanks, here, others⟩ := written
    rw [readMembers, nextMember_member before named, bind_ok, List.foldlM_cons]
    rcases cases_of_toOption (readString_spelling key colon) with ⟨name, spelled, read⟩ | ⟨nothing, f, failed⟩
    · simp only [read, bind_ok, spelled, Option.bind_some]
      rcases cases_of_toOption (takes name slots t marked blanks here (Tree.endsNumber_of_membersSpan others)) with
        ⟨slots, put, done⟩ | ⟨nothing, f, failed⟩
      · have later := ih slots others (by simpa using enough)
        simp only [done, bind_ok, put, Option.bind_eq_bind, Option.bind_some]
        exact later
      · simp only [failed, bind_error, nothing]
        rfl
    · simp only [failed, bind_error, nothing]
      rfl

/-! Records. -/

namespace Members
variable {key name : String} {optional : Bool} {s : Shape} {more : Members} {size index : Nat}
  {text item after rest : List UInt8}

theorem readInOrder_item {v : s.Carrier} (next : nextItem (index = 0) text = .ok (.item item))
    (read : s.read item = .ok (v, after)) :
    (cons key optional s more).readInOrder name size index text =
      (more.readInOrder name size (index + 1) after).map fun p => (consValues key optional v p.1, p.2) := by
  rw [readInOrder]
  simp only [next, read]
  cases more.readInOrder name size (index + 1) after <;> rfl

theorem readInOrder_broken {f : Fault} (next : nextItem (index = 0) text = .ok (.item item))
    (read : s.read item = .error f) : (cons key optional s more).readInOrder name size index text = .error f := by
  rw [readInOrder]
  simp only [next, read]

theorem readInOrder_blank (next : nextItem (index = 0) text = .ok (.ended after)) :
    (cons key true s more).readInOrder name size index text =
      (more.readInOrder name size (index + 1) text).map fun p => (consValues key true s.blank p.1, p.2) := by
  rw [readInOrder]
  simp only [next]
  cases more.readInOrder name size (index + 1) text <;> rfl

/-- Values in their order, up to the end of the list. -/
def closed {α : Type} (read : Read α) : Read α := Except.bind read fun p => (endList p.2).map (p.1, ·)

theorem toOption_closed_map {α β : Type} (f : α → β) (read : Read α) :
    (closed (read.map fun p => (f p.1, p.2))).toOption = (closed read).toOption.map fun p => (f p.1, p.2) := by
  cases read with
  | error e => rfl
  | ok p =>
    show ((endList p.2).map (f p.1, ·)).toOption = ((endList p.2).map (p.1, ·)).toOption.map fun p => (f p.1, p.2)
    cases endList p.2 <;> rfl

theorem toOption_closed_short (next : nextItem (index = 0) text = .ok (.ended after)) :
    (closed ((cons key false s more).readInOrder name size index text)).toOption = none := by
  rw [readInOrder]
  simp only [next]
  rfl

theorem toOption_closed_nil {items : List Tree} {first : Bool} (written : Tree.ItemsSpan first items text rest) :
    (closed (readInOrder name size .nil index text)).toOption = (inOrder? .nil items).map (·, rest) := by
  show ((endList text).map ((), ·)).toOption = _
  cases items with
  | nil =>
    rw [endList_end written, inOrder?]
    rfl
  | cons t items =>
    obtain ⟨part, item, after, before, blanks, here, _⟩ := written
    have more := endList_item before blanks here
    rw [inOrder?]
    cases ended : endList text with
    | error f => rfl
    | ok r =>
      rw [ended] at more
      cases more

variable {slots : more.Slots}

theorem readMember_known {slot : Option s.Carrier} (text : List UInt8) :
    (cons key optional s more).readMember key (consSlots key optional slot slots) text =
      if slot.isSome then fail (.repeated key) (pastObject text)
      else
        Except.bind (expectColon text) fun rest =>
          (s.read rest).map fun p => (consSlots key optional (some p.1) slots, p.2) := by
  refine (if_pos rfl).trans ?_
  cases slot with
  | some v => rfl
  | none =>
    cases expectColon text with
    | error f => rfl
    | ok rest =>
      show _ = (s.read rest).map fun p => (consSlots key optional (some p.1) slots, p.2)
      cases read : s.read rest <;> simp only [read] <;> rfl

theorem readMember_other {slot : Option s.Carrier} (other : name ≠ key) (text : List UInt8) :
    (cons key optional s more).readMember name (consSlots key optional slot slots) text =
      (more.readMember name slots text).map fun p => (consSlots key optional slot p.1, p.2) := by
  refine (if_neg other).trans ?_
  cases more.readMember name slots text <;> rfl

theorem put?_consSlots {slot : Option s.Carrier} {t : Tree} :
    (cons key optional s more).put? (consSlots key optional slot slots) name t =
      if name = key then
        if slot.isSome then none else (s.value? t).map fun v => consSlots key optional (some v) slots
      else (more.put? slots name t).map (consSlots key optional slot) := rfl

end Members

/-! Readers of a shape, if those of its parts read what a tree says. -/

theorem Shape.reads_listOf {s : Shape} (reads : ∀ t, Reads s.read t (s.value? t)) (t : Tree) :
    Reads (listOf s).read t ((listOf s).value? t) := by
  intro text item rest blanks written
  obtain ⟨more, rfl⟩ := Tree.opening_of_spans written
  rw [Shape.read, Shape.value?, blanks.skipBlanks t.opening_apart.1]
  by_cases bracket : t.opening = ascii '['
  · obtain ⟨items, rfl⟩ := Tree.exists_list bracket
    obtain ⟨inside, same, others⟩ := written
    cases same
    have length := Tree.length_of_itemsSpan true items others
    exact toOption_readItems reads [] others (by omega)
  · rw [Tree.items?_eq_none bracket]
    exact (congrArg Except.toOption (if_neg bracket)).trans (toOption_refuse "a sequence" _)

theorem Shape.reads_record {name : String} {members : Members}
    (inOrder : ∀ {items text rest}, Tree.ItemsSpan true items text rest →
      (Members.closed (members.readInOrder name members.count 0 text)).toOption = (members.inOrder? items).map (·, rest))
    (takes : Takes members.readMember members.put?) (t : Tree) :
    Reads (record name members).read t ((record name members).value? t) := by
  intro text item rest blanks written
  obtain ⟨more, rfl⟩ := Tree.opening_of_spans written
  rw [Shape.read, blanks.skipBlanks t.opening_apart.1]
  by_cases bracket : t.opening = ascii '['
  · obtain ⟨items, rfl⟩ := Tree.exists_list bracket
    obtain ⟨inside, same, others⟩ := written
    cases same
    rw [value?_inOrder]
    refine Eq.trans ?_ (inOrder others)
    refine (congrArg Except.toOption (if_pos rfl)).trans ?_
    cases members.readInOrder name members.count 0 more <;> rfl
  by_cases brace : t.opening = ascii '\x7b'
  · obtain ⟨ms, rfl⟩ := Tree.exists_object brace
    obtain ⟨inside, same, others⟩ := written
    cases same
    have length := Tree.length_of_membersSpan true ms others
    have all : (readMembers members.readMember (more.length + 1) true members.noSlots more).toOption =
        (ms.foldlM members.take? members.noSlots).map (·, rest) :=
      toOption_readMembers takes members.noSlots others (by omega)
    refine (congrArg Except.toOption ((if_neg bracket).trans (if_pos rfl))).trans ?_
    rcases cases_of_toOption all with ⟨slots, filled, read⟩ | ⟨nothing, f, failed⟩
    · rw [read, value?_object, filled, Option.bind_some]
      simp only
      cases members.finish slots <;> rfl
    · rw [failed, value?_object, nothing]
      rfl
  · rw [Shape.value?, Tree.items?_eq_none bracket, Tree.members?_eq_none brace]
    exact (congrArg Except.toOption ((if_neg bracket).trans (if_neg brace))).trans (toOption_refuse _ _)

mutual

/-- The reader of a shape reads what a tree says. -/
theorem Shape.reads_value (s : Shape) (t : Tree) : Reads s.read t (s.value? t) := by
  match s with
  | .text =>
    intro text item rest blanks written
    rw [Shape.read, Shape.value?]
    exact reads_readText "a string" t blanks written
  | .listOf s => exact Shape.reads_listOf (fun t => s.reads_value t) t
  | .record name members =>
    exact Shape.reads_record (members.readInOrder_values name members.count 0) members.takes_readMember t

theorem Members.readInOrder_values (members : Members) (name : String) (size index : Nat) {items : List Tree}
    {text rest : List UInt8} (written : Tree.ItemsSpan (index = 0) items text rest) :
    (Members.closed (members.readInOrder name size index text)).toOption = (members.inOrder? items).map (·, rest) := by
  match members, items with
  | .nil, items => exact Members.toOption_closed_nil written
  | .cons key true s more, [] =>
    have later : Tree.ItemsSpan (index + 1 = 0) [] text rest := written
    rw [Members.readInOrder_blank (nextItem_end written), Members.toOption_closed_map,
      more.readInOrder_values name size (index + 1) later, Members.inOrder?]
    simp only [if_true, Option.map_map]
    rfl
  | .cons key false s more, [] =>
    exact Members.toOption_closed_short (nextItem_end written)
  | .cons key optional s more, t :: items =>
    obtain ⟨part, item, after, before, blanks, here, others⟩ := written
    have next := nextItem_item before blanks here
    rcases cases_of_toOption (s.reads_value t .none here) with ⟨v, said, read⟩ | ⟨nothing, f, failed⟩
    · rw [Members.readInOrder_item next read, Members.toOption_closed_map,
        more.readInOrder_values name size (index + 1) others, Members.inOrder?, said]
      simp only [Option.bind_some, Option.map_map]
      rfl
    · rw [Members.readInOrder_broken next failed, Members.inOrder?, nothing]
      rfl

theorem Members.takes_readMember (members : Members) : Takes members.readMember members.put? := by
  intro name slots t colon value item after marked blanks written ends
  match members, slots with
  | .nil, _ =>
    rw [Members.readMember, expectColon_of_blanks marked]
    simp only [Tree.skip_of_spans blanks written ends]
    rfl
  | .cons key optional s more, (slot, slots) =>
    refine Eq.trans ?_ (congrArg (Option.map (·, after)) Members.put?_consSlots.symm)
    by_cases here : name = key
    · subst here
      refine (congrArg Except.toOption (Members.readMember_known colon)).trans ?_
      rw [if_pos rfl]
      cases slot with
      | some v => rfl
      | none =>
        rw [expectColon_of_blanks marked]
        exact toOption_map_left (fun v => Members.consSlots name optional (some v) slots) (s.reads_value t blanks written)
    · refine (congrArg Except.toOption (Members.readMember_other here colon)).trans ?_
      rw [if_neg here]
      exact toOption_map_left _ (more.takes_readMember name slots t marked blanks written ends)

end

/-- A text is decoded as what the tree that is all of it says. -/
theorem Shape.toOption_decode (s : Shape) {t : Tree} {text : List UInt8} (written : t.IsText text) :
    (s.decode text).toOption = s.value? t := by
  obtain ⟨item, rest, blanks, here, ending⟩ := written
  have nothingLeft : skipBlanks rest = [] := ending.skipBlanks_eq
  have whole : (s.readAll text).toOption = s.value? t := by
    rw [Shape.readAll]
    rcases cases_of_toOption (s.reads_value t blanks here) with ⟨v, said, read⟩ | ⟨nothing, f, failed⟩
    · simp only [read, nothingLeft, said]
      rfl
    · simp only [failed, nothing]
      rfl
  rw [Shape.decode, ← whole]
  cases s.readAll text <;> rfl

end MachineOperator.Json
