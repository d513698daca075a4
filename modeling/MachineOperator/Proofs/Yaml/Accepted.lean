import MachineOperator.Proofs.Result
import MachineOperator.Proofs.Yaml.Follows
import MachineOperator.Proofs.Yaml.Meaning

/-!
Values of a schema in documents that are the same apart from numbers. If one document is read, then so is another that has
a number instead which fits wherever the schema has numbers. Options are there in both or in neither, and texts that are no
numbers are the same.
-/
namespace MachineOperator.Yaml

mutual

/-- Whether the numbers of a schema are of the widths for which this is said, and all its fields are named by words. -/
def Schema.takes (int32 int64 free : Bool) : Schema → Bool
  | .int32 => int32 && int64
  | .int64 => int64
  | .json => free
  | .optional s | .listOf s | .mapOf s => s.takes int32 int64 free
  | .record _ _ fields => fields.takes int32 int64 free
  | _ => true

def Fields.takes (int32 int64 free : Bool) : Fields → Bool
  | .nil => true
  | .cons key _ s rest => Plain.Writes.isOther key && s.takes int32 int64 free && rest.takes int32 int64 free

end

/-- Whether a number fits wherever a schema has numbers. -/
def Schema.Suits (s : Schema) (n : Int) : Prop :=
  s.takes (Width.fitsInt32 n) (Width.fitsInt64 n) (Width.fits64 n) = true

def Fields.Suits (fields : Fields) (n : Int) : Prop :=
  fields.takes (Width.fitsInt32 n) (Width.fitsInt64 n) (Width.fits64 n) = true

theorem Fields.suits_cons {n : Int} {key : String} {p : Presence} {s : Schema} {rest : Fields} :
    (cons key p s rest).Suits n ↔ Plain.Writes.isOther key = true ∧ s.Suits n ∧ rest.Suits n := by
  simp [Fields.Suits, Schema.Suits, Fields.takes, and_assoc]

mutual

/-- Values with the same options, whose texts may vary. -/
def Schema.Akin (n : Int) : (s : Schema) → s.Carrier → s.Carrier → Prop
  | .text, t, t' => Varies n t t'
  | .optional s, x, y => Option.Rel (α := s.Carrier) (β := s.Carrier) (s.Akin n) x y
  | .record _ _ fields, x, y => fields.Akin n x y
  | _, _, _ => True

def Fields.Akin (n : Int) : (fields : Fields) → fields.Carrier → fields.Carrier → Prop
  | .nil, _, _ => True
  | .cons _ _ s rest, (x, xs), (y, ys) => s.Akin n x y ∧ rest.Akin n xs ys

end

mutual

theorem Schema.Akin.refl (n : Int) (s : Schema) (x : s.Carrier) : s.Akin n x x := by
  match s, x with
  | .text, t => exact Varies.refl n t
  | .optional s, none => exact .none
  | .optional s, some y => exact .some (Schema.Akin.refl n s y)
  | .record _ _ fields, x => exact Fields.Akin.refl n fields x
  | .int32, _ | .int64, _ | .boolean, _ | .time, _ | .json, _ | .nullableText, _ | .listOf _, _ | .mapOf _, _ => trivial

theorem Fields.Akin.refl (n : Int) (fields : Fields) (x : fields.Carrier) : fields.Akin n x x := by
  match fields, x with
  | .nil, _ => trivial
  | .cons _ _ s rest, (x, xs) => exact ⟨Schema.Akin.refl n s x, Fields.Akin.refl n rest xs⟩

end

namespace Fields
variable {n : Int}

/-- Slots that are filled alike. -/
def SlotsAkin (n : Int) : (fields : Fields) → fields.Slots → fields.Slots → Prop
  | .nil, _, _ => True
  | .cons _ _ s rest, (x, xs), (y, ys) => Option.Rel (s.Akin n) x y ∧ rest.SlotsAkin n xs ys

theorem slotsAkin_noSlots (n : Int) (fields : Fields) : fields.SlotsAkin n fields.noSlots fields.noSlots := by
  match fields with
  | .nil => trivial
  | .cons key p s rest => exact ⟨.none, slotsAkin_noSlots n rest⟩

/-- A record is closed field by field. -/
theorem finish_cons_eq_ok {key : String} {p : Presence} {s : Schema} {rest : Fields} {slot : Option s.Carrier}
    {slots : rest.Slots} {v : (cons key p s rest).Carrier} :
    finish (.cons key p s rest) (consSlots key p slot slots) = .ok v ↔
      ∃ w ws, p.settle? s slot = some w ∧ rest.finish slots = .ok ws ∧ v = consValues key p w ws := by
  rw [← toOption_eq_some, finish_consSlots, Option.bind_eq_some_iff]
  constructor
  · rintro ⟨w, settled, closed⟩
    obtain ⟨ws, others, rfl⟩ := Option.map_eq_some_iff.1 closed
    exact ⟨w, ws, settled, toOption_eq_some.1 others, rfl⟩
  · rintro ⟨w, ws, settled, others, rfl⟩
    exact ⟨w, settled, Option.map_eq_some_iff.2 ⟨ws, toOption_eq_some.2 others, rfl⟩⟩

theorem settle?_akin {p : Presence} {s : Schema} {x y : Option s.Carrier} {v : s.Carrier}
    (akin : Option.Rel (s.Akin n) x y) (settled : p.settle? s x = some v) :
    ∃ w, p.settle? s y = some w ∧ s.Akin n v w := by
  cases akin with
  | none => exact ⟨v, settled, .refl n s v⟩
  | some related =>
    cases settled
    exact ⟨_, rfl, related⟩

/-- A record from slots that are filled alike. -/
theorem finish_akin {fields : Fields} {xs ys : fields.Slots} {v : fields.Carrier} (akin : fields.SlotsAkin n xs ys)
    (finished : fields.finish xs = .ok v) : ∃ w, fields.finish ys = .ok w ∧ fields.Akin n v w := by
  match fields, xs, ys with
  | .nil, _, _ => exact ⟨(), rfl, trivial⟩
  | .cons key p s rest, (x, xs), (y, ys) =>
    obtain ⟨w, ws, settled, others, rfl⟩ := finish_cons_eq_ok.1 finished
    obtain ⟨w', settled', here⟩ := settle?_akin akin.1 settled
    obtain ⟨ws', others', later⟩ := finish_akin akin.2 others
    exact ⟨(w', ws'), finish_cons_eq_ok.2 ⟨w', ws', settled', others', rfl⟩, here, later⟩

theorem follows_closing {fields : Fields} {xs ys : fields.Slots} (akin : fields.SlotsAkin n xs ys) :
    Follows (fields.Akin n) (fields.closing xs) (fields.closing ys) := by
  unfold closing
  cases finished : fields.finish xs with
  | error cause => exact .of_fails (.mismatch cause)
  | ok v =>
    obtain ⟨w, finished', akin⟩ := finish_akin akin finished
    rw [finished']
    exact .pure akin

end Fields

/-- What nobody needs is passed over alike. -/
theorem Node.follows_pass {n : Int} {x y : Node} (varied : Varied n x y) : Follows Any x.pass y.pass := by
  obtain ⟨whole, whole'⟩ := fault?_of_varied x varied
  rw [pass, pass, whole, whole']
  exact .pure trivial

mutual

theorem Schema.follows_read {n : Int} {a a' : Aliases} (aliases : a.Varied n a') (s : Schema) (suits : s.Suits n)
    (path path' : Path) (level : path.length = path'.length) {x y : Node} (varied : x.Varied n y) :
    Follows (s.Akin n) (s.read a path x) (s.read a' path' y) := by
  match s with
  | .text =>
    rw [Schema.read, Schema.read]
    exact Node.follows_readText aliases path path' _ _ varied
  | .int32 =>
    obtain ⟨fits32, fits64⟩ := Bool.and_eq_true_iff.1 suits
    rw [Schema.read, Schema.read]
    have read := Node.follows_readInteger aliases path path' "i32" (Node.follows_toInt32 fits32) fits64 varied
    exact read.mono fun _ _ _ => trivial
  | .int64 =>
    rw [Schema.read, Schema.read]
    exact (Node.follows_readInteger aliases path path' "i64" (fun i => .pure trivial) suits varied).mono fun _ _ _ => trivial
  | .boolean =>
    rw [Schema.read, Schema.read]
    exact (Node.follows_readBoolean aliases path path' varied).mono fun _ _ _ => trivial
  | .time =>
    rw [Schema.read, Schema.read]
    exact (Node.follows_readTime aliases path path' varied).mono fun _ _ _ => trivial
  | .json =>
    rw [Schema.read, Schema.read, level]
    exact (Node.follows_readFree aliases suits _ path path' varied).mono fun _ _ _ => trivial
  | .optional s =>
    simp only [Schema.read]
    refine (Node.follows_follow aliases varied).bind fun z z' varied => ?_
    refine (Node.follows_isAbsent varied).bind fun absent absent' same => ?_
    subst same
    refine .ite Iff.rfl (fun _ => .pure .none) fun _ => ?_
    exact (Schema.follows_read aliases s suits path path' level varied).map fun _ _ related => .some related
  | .nullableText =>
    simp only [Schema.read]
    refine (Node.follows_follow aliases varied).bind fun z z' varied => ?_
    refine (Node.follows_isAbsent varied).bind fun absent absent' same => ?_
    subst same
    refine .ite Iff.rfl (fun _ => .pure trivial) fun _ => ?_
    exact (Node.follows_readText aliases path path' _ _ varied).mono fun _ _ _ => trivial
  | .listOf s =>
    have reads : ∀ step step' x y, Node.Varied n x y →
        Follows (s.Akin n) (s.read a (step :: path) x) (s.read a' (step' :: path') y) :=
      fun step step' x y varied => Schema.follows_read aliases s suits _ _ (congrArg (· + 1) level) varied
    simp only [Schema.read]
    exact (Node.follows_readList aliases reads varied).mono fun _ _ _ => trivial
  | .mapOf s =>
    have reads : ∀ step step' x y, Node.Varied n x y →
        Follows (s.Akin n) (s.read a (step :: path) x) (s.read a' (step' :: path') y) :=
      fun step step' x y varied => Schema.follows_read aliases s suits _ _ (congrArg (· + 1) level) varied
    simp only [Schema.read]
    exact (Node.follows_readMap aliases reads varied).mono fun _ _ _ => trivial
  | .record expected refusesRepeats fields =>
    simp only [Schema.read]
    refine (Node.follows_follow aliases varied).bind fun z z' varied => ?_
    cases varied with
    | mapping p m m' each =>
      refine .located path path' m m' (.bind ?_ fun _ _ => Fields.follows_closing)
      refine Follows.foldlM (fun slots slots' e e' akin both => ?_) each (Fields.slotsAkin_noSlots n fields)
      obtain ⟨name, value⟩ := both
      refine (Node.follows_readText aliases path path' _ _ name).bind fun t t' varies => ?_
      exact Fields.follows_readField aliases refusesRepeats fields suits _ _ (congrArg (· + 1) level) varies value akin
    | scalar p style text m m' =>
      dsimp only
      split
      · exact .located path path' m m' (Fields.follows_closing (Fields.slotsAkin_noSlots n fields))
      · exact .of_fails (Node.fails_refuse path expected _)
    | number m m' untagged before after =>
      dsimp only
      rw [Node.isEmptyPlain_of_writes before .plain, if_neg Bool.false_ne_true]
      exact .of_fails (Node.fails_refuse path expected _)
    | _ => exact .of_fails (Node.fails_refuse path expected _)

theorem Fields.follows_readField {n : Int} {a a' : Aliases} (aliases : a.Varied n a') (refusesRepeats : Bool) (fields : Fields)
    (suits : fields.Suits n) (path path' : Path) (level : path.length = path'.length) {name name' : String}
    (varies : Varies n name name') {x y : Node} (varied : x.Varied n y) {slots slots' : fields.Slots}
    (akin : fields.SlotsAkin n slots slots') :
    Follows (fields.SlotsAkin n) (fields.readField a refusesRepeats path name x slots)
      (fields.readField a' refusesRepeats path' name' y slots') := by
  match fields, slots, slots' with
  | .nil, _, _ =>
    simp only [Fields.readField]
    exact (Node.follows_pass varied).bind fun _ _ _ => .pure trivial
  | .cons key p s rest, (slot, slots), (slot', slots') =>
    obtain ⟨word, here, others⟩ := Fields.suits_cons.1 suits
    simp only [Fields.readField]
    refine .ite (varies.eq_word_iff word) (fun _ => ?_) fun _ => ?_
    · have filled : slot.isSome = slot'.isSome := by cases akin.1 <;> rfl
      refine .ite (by rw [filled]) (fun _ => .of_fails (.mismatch _)) fun _ => ?_
      exact (Schema.follows_read aliases s here path path' level varied).map fun _ _ related => ⟨.some related, akin.2⟩
    · exact (Fields.follows_readField aliases refusesRepeats rest others path path' level varies varied akin.2).map
        fun _ _ related => ⟨akin.1, related⟩

end

end MachineOperator.Yaml
