import MachineOperator.Proofs.Sequence
import MachineOperator.Proofs.Yaml.Meaning

/-!
Trees that say the same as values of a schema. The entries of a record may stand in any order, entries that it does not
know may stand among them, and a null may be left out where nothing needs to stand. A record that refuses repeats says
nothing when a field is given twice.
-/
namespace MachineOperator.Yaml

/-- Entries with distinct keys may stand in any order. -/
theorem filter_eq_of_perm {α : Type} {es es' : List (String × α)} (reordered : es.Perm es')
    (distinct : (es.map (·.1)).Nodup) (key : String) : es.filter (·.1 = key) = es'.filter (·.1 = key) := by
  have few : (es.filter (·.1 = key)).length ≤ 1 := by
    have counted := List.nodup_iff_count_le_one.1 distinct key
    rwa [List.count_eq_countP, List.countP_map, List.countP_eq_length_filter] at counted
  have same := reordered.filter (·.1 = key)
  generalize es.filter (·.1 = key) = found at few same ⊢
  rcases found with _ | ⟨e, _ | ⟨f, others⟩⟩
  · exact (List.nil_perm.1 same).symm
  · exact (List.perm_singleton.1 same.symm).symm
  · simp at few

/-- Whether a null stands for a value that is absent. -/
def Schema.isOptional : Schema → Bool
  | .optional _ => true
  | _ => false

namespace Fields
variable {refusesRepeats : Bool} {level : Nat} {fields rest : Fields} {key name : String} {p : Presence} {s : Schema}
  {entries entries' : List (String × Content)}

/-- The field of a name. -/
def find? : Fields → String → Option (Presence × Schema)
  | .nil, _ => none
  | .cons key p s rest, name => if key = name then some (p, s) else rest.find? name

theorem find?_cons_self : (cons name p s rest).find? name = some (p, s) := if_pos rfl

theorem find?_cons_ne (other : key ≠ name) : (cons key p s rest).find? name = rest.find? name := if_neg other

theorem mem_names_of_find? {fields : Fields} (known : fields.find? name = some (p, s)) : name ∈ fields.names := by
  match fields with
  | .nil => cases known
  | .cons key p' s' rest =>
    by_cases here : key = name
    · exact here ▸ List.mem_cons_self
    · exact List.mem_cons_of_mem _ (mem_names_of_find? ((find?_cons_ne here).symm.trans known))

theorem exists_find?_of_mem_names {fields : Fields} (known : name ∈ fields.names) : ∃ p s, fields.find? name = some (p, s) := by
  match fields with
  | .nil => cases known
  | .cons key p' s' rest =>
    by_cases here : key = name
    · exact ⟨p', s', if_pos here⟩
    · obtain ⟨p, s, found⟩ := exists_find?_of_mem_names ((List.mem_cons.1 known).resolve_left (Ne.symm here))
      exact ⟨p, s, (find?_cons_ne here).trans found⟩

/-- The keys of the fields, each with its presence and whether a null may stand for what is absent. -/
def keys : Fields → List (String × Presence × Bool)
  | .nil => []
  | .cons key p s rest => (key, p, s.isOptional) :: rest.keys

/-- A field is known if its key is listed, and it may be left out or be null if the list says so. -/
theorem find?_eq_lookup (fields : Fields) (name : String) :
    (fields.find? name).map (fun (p, s) => (p, s.isOptional)) = fields.keys.lookup name := by
  match fields with
  | .nil => rfl
  | .cons key p s rest =>
    rw [find?, keys, List.lookup_cons]
    by_cases here : key = name
    · simp [here]
    · rw [if_neg here, beq_false_of_ne (Ne.symm here)]
      exact rest.find?_eq_lookup name

/-- The value of a field, from the entries that are given for it. -/
def pick? (refusesRepeats : Bool) (level : Nat) (p : Presence) (s : Schema) (given : List (String × Content)) :
    Option s.Carrier :=
  (given.mapM fun e => s.value? level e.2).bind fun vs =>
    if refusesRepeats && 1 < vs.length then none else p.settle? s vs.getLast?

theorem values?_cons : (cons key p s rest).values? refusesRepeats level entries =
    (pick? refusesRepeats level p s (entries.filter (·.1 = key))).bind fun v =>
      (rest.values? refusesRepeats level (entries.filter (·.1 ≠ key))).map (consValues key p v) := by
  rw [values?, pick?]
  cases (entries.filter (·.1 = key)).mapM fun e => s.value? level e.2 with
  | none => rfl
  | some vs =>
    rw [Option.bind_some, Option.bind_some]
    split <;> rfl

theorem filter_filter_self : (entries.filter (·.1 ≠ key)).filter (·.1 = key) = [] := by
  simp [List.filter_filter]

theorem filter_filter_other (other : key ≠ name) :
    (entries.filter (·.1 ≠ key)).filter (·.1 = name) = entries.filter (·.1 = name) := by
  rw [List.filter_filter]
  refine List.filter_congr fun e _ => ?_
  by_cases here : e.1 = name
  · simp [here, Ne.symm other]
  · simp [here]

/-- Entries say the same as others if they do so for each field. -/
theorem values?_mono {fields : Fields} {entries entries' : List (String × Content)} {vs : fields.Carrier}
    (each : ∀ name p s v, fields.find? name = some (p, s) →
      pick? refusesRepeats level p s (entries.filter (·.1 = name)) = some v →
      pick? refusesRepeats level p s (entries'.filter (·.1 = name)) = some v)
    (said : fields.values? refusesRepeats level entries = some vs) :
    fields.values? refusesRepeats level entries' = some vs := by
  match fields with
  | .nil => exact said
  | .cons key p s rest =>
    rw [values?_cons] at said ⊢
    obtain ⟨v, here, said⟩ := Option.bind_eq_some_iff.1 said
    obtain ⟨others, later, rfl⟩ := Option.map_eq_some_iff.1 said
    have each_later : ∀ name p' s' v, rest.find? name = some (p', s') →
        pick? refusesRepeats level p' s' ((entries.filter (·.1 ≠ key)).filter (·.1 = name)) = some v →
        pick? refusesRepeats level p' s' ((entries'.filter (·.1 ≠ key)).filter (·.1 = name)) = some v := by
      intro name p' s' v known picked
      by_cases shadowed : key = name
      · subst shadowed
        rw [filter_filter_self] at picked ⊢
        exact picked
      · rw [filter_filter_other shadowed] at picked ⊢
        exact each name p' s' v ((find?_cons_ne shadowed).trans known) picked
    rw [each key p s v find?_cons_self here, Option.bind_some, values?_mono each_later later]
    rfl

/-- Entries that say nothing for a field say nothing. -/
theorem values?_eq_none {fields : Fields} {entries : List (String × Content)} (known : fields.find? name = some (p, s))
    (nothing : pick? refusesRepeats level p s (entries.filter (·.1 = name)) = none) :
    fields.values? refusesRepeats level entries = none := by
  match fields with
  | .nil => cases known
  | .cons key p' s' rest =>
    rw [values?_cons]
    by_cases here : key = name
    · subst here
      cases find?_cons_self.symm.trans known
      rw [nothing]
      rfl
    · have later := values?_eq_none ((find?_cons_ne here).symm.trans known)
        ((congrArg _ (filter_filter_other here)).trans nothing)
      rw [later]
      cases pick? refusesRepeats level p' s' (entries.filter (·.1 = key)) <;> rfl

/-- A field may be given once where repeats are refused. -/
theorem pick?_of_repeated (repeated : 1 < entries.length) : pick? true level p s entries = none := by
  rw [pick?]
  cases values : entries.mapM fun e => s.value? level e.2 with
  | none => rfl
  | some vs => simp [length_of_mapM_eq_some values, repeated]

/-- A null where nothing needs to stand says what nothing says. -/
theorem pick?_of_absent {c : Content} (optional : p ≠ .required) (absent : c.isAbsent = true) :
    pick? true level p (.optional s) [(name, c)] = pick? true level p (.optional s) [] := by
  have null : (Schema.optional s).value? level c = some none := by
    rw [Schema.value?, if_pos absent]
    rfl
  rw [pick?, List.mapM_cons, null]
  cases p with
  | required => exact absurd rfl optional
  | _ => rfl

end Fields

mutual
/-- The records of a schema, from the outside in: how each is called, whether it refuses repeats, and the keys of its
fields. -/
def Schema.records : Schema → List (String × Bool × List (String × Presence × Bool))
  | .optional s | .listOf s | .mapOf s => s.records
  | .record expected refusesRepeats fields => (expected, refusesRepeats, fields.keys) :: fields.records
  | _ => []

def Fields.records : Fields → List (String × Bool × List (String × Presence × Bool))
  | .nil => []
  | .cons _ _ s rest => s.records ++ rest.records
end

/-- One tree comes from another by one change that does not count: in the order of a record, by an entry more that it does
not know, or by a null less; in the tree as a whole, or in a part that the schema reads as a record or as a list of them. -/
inductive Schema.Rearranged : Schema → Content → Content → Prop
  | reordered {expected refusesRepeats fields} {entries entries' : List (Content × Content)}
      (reordered : entries.Perm entries') (distinct : (entries.filterMap (·.1.text?)).Nodup) :
      Rearranged (.record expected refusesRepeats fields) (.mapping entries) (.mapping entries')
  | inserted {expected refusesRepeats fields} (before after style name value) (unknown : name ∉ Fields.names fields) :
      Rearranged (.record expected refusesRepeats fields) (.mapping (before ++ after))
        (.mapping (before ++ (.scalar style name, value) :: after))
  | omitted {expected fields} (before after style name value) {p s} (known : Fields.find? fields name = some (p, .optional s))
      (optional : p ≠ .required) (absent : value.isAbsent = true) :
      Rearranged (.record expected true fields) (.mapping (before ++ (.scalar style name, value) :: after))
        (.mapping (before ++ after))
  | field {expected refusesRepeats fields} (before after style name) {p s c c'} (known : Fields.find? fields name = some (p, s))
      (inside : Rearranged s c c') :
      Rearranged (.record expected refusesRepeats fields) (.mapping (before ++ (.scalar style name, c) :: after))
        (.mapping (before ++ (.scalar style name, c') :: after))
  | item {s} (before after) {c c'} (inside : Rearranged s c c') :
      Rearranged (.listOf s) (.sequence (before ++ c :: after)) (.sequence (before ++ c' :: after))
  | present {s c c'} (inside : Rearranged s c c') : Rearranged (.optional s) c c'

/-- A null may be left out where the list of the keys allows for one. -/
theorem Schema.Rearranged.of_null {expected name : String} {fields : Fields} {p : Presence} {value : Content}
    (before after : List (Content × Content)) (style : ScalarStyle) (listed : fields.keys.lookup name = some (p, true))
    (optional : p ≠ .required) (absent : value.isAbsent = true) :
    Rearranged (.record expected true fields) (.mapping (before ++ (.scalar style name, value) :: after))
      (.mapping (before ++ after)) := by
  rw [← fields.find?_eq_lookup, Option.map_eq_some_iff] at listed
  obtain ⟨⟨p, s⟩, known, same⟩ := listed
  cases s with
  | optional s =>
    cases same
    exact .omitted before after style name value known optional absent
  | _ => cases same

/-- Somewhere in a tree a field is given twice to a record that refuses repeats. -/
inductive Schema.Repeats : Schema → Content → Prop
  | here {expected fields} (before between after style style' name value value') (known : name ∈ Fields.names fields) :
      Repeats (.record expected true fields)
        (.mapping (before ++ (.scalar style name, value) :: between ++ (.scalar style' name, value') :: after))
  | field {expected refusesRepeats fields} (before after style name) {p s c} (known : Fields.find? fields name = some (p, s))
      (inside : Repeats s c) :
      Repeats (.record expected refusesRepeats fields) (.mapping (before ++ (.scalar style name, c) :: after))
  | item {s} (before after) {c} (inside : Repeats s c) : Repeats (.listOf s) (.sequence (before ++ c :: after))
  | present {s c} (inside : Repeats s c) : Repeats (.optional s) c

namespace Content
variable {e e' : Content × Content} {entries before after : List (Content × Content)}

theorem keys_of_areNamed (named : areNamed entries = true) :
    (entries.map Content.named).map (·.1) = entries.filterMap (·.1.text?) := by
  induction entries with
  | nil => rfl
  | cons e r ih =>
    obtain ⟨here, others⟩ := Bool.and_eq_true_iff.1 named
    obtain ⟨text, key⟩ := Option.isSome_iff_exists.1 here
    rw [List.filterMap_cons, key, List.map_cons, List.map_cons, ih others]
    simp [Content.named, key]

theorem areNamed_insert {style : ScalarStyle} {name : String} {value : Content} :
    areNamed (before ++ (.scalar style name, value) :: after) = areNamed (before ++ after) := by
  simp [areNamed, text?]

/-- The entries of a field, among which there is one more or not. -/
theorem filter_named_insert {style : ScalarStyle} {name key : String} {value : Content} :
    ((before ++ (.scalar style name, value) :: after).map named).filter (·.1 = key) =
      (before.map named).filter (·.1 = key) ++
        (if name = key then [(name, value)] else []) ++ (after.map named).filter (·.1 = key) := by
  by_cases here : name = key <;> simp [named, text?, here]

end Content

namespace Schema
variable {expected : String} {refusesRepeats : Bool} {fields : Fields} {level : Nat}
  {entries entries' : List (Content × Content)}

theorem value?_mapping : (record expected refusesRepeats fields).value? level (.mapping entries) =
    if Content.areNamed entries then fields.values? refusesRepeats (level + 1) (entries.map Content.named) else none := by
  rw [value?]
  rfl

/-- A mapping says the same as another if it does so for each field. -/
theorem value?_mapping_mono {vs : fields.Carrier} (named : Content.areNamed entries → Content.areNamed entries')
    (each : ∀ name p s v, fields.find? name = some (p, s) →
      Fields.pick? refusesRepeats (level + 1) p s ((entries.map Content.named).filter (·.1 = name)) = some v →
      Fields.pick? refusesRepeats (level + 1) p s ((entries'.map Content.named).filter (·.1 = name)) = some v)
    (said : (record expected refusesRepeats fields).value? level (.mapping entries) = some vs) :
    (record expected refusesRepeats fields).value? level (.mapping entries') = some vs := by
  rw [value?_mapping] at said ⊢
  obtain ⟨areNamed, said⟩ := Option.ite_none_right_eq_some.1 said
  rw [if_pos (named areNamed)]
  exact Fields.values?_mono each said

theorem value?_mapping_eq_none {name : String} {p : Presence} {s : Schema} (known : fields.find? name = some (p, s))
    (nothing : Fields.pick? refusesRepeats (level + 1) p s ((entries.map Content.named).filter (·.1 = name)) = none) :
    (record expected refusesRepeats fields).value? level (.mapping entries) = none := by
  rw [value?_mapping, Fields.values?_eq_none known nothing]
  exact ite_self none

theorem value?_sequence {s : Schema} (items : List Content) :
    (listOf s).value? level (.sequence items) = items.mapM (s.value? (level + 1)) := by
  rw [value?]
  rfl

namespace Rearranged

theorem isAbsent {s : Schema} {c c' : Content} (moved : s.Rearranged c c') : c.isAbsent = false ∧ c'.isAbsent = false := by
  induction moved with
  | present inside ih => exact ih
  | _ => exact ⟨rfl, rfl⟩

/-- A change that does not count leaves what a tree says. -/
theorem value?_eq_some {s : Schema} {c c' : Content} (moved : s.Rearranged c c') (level : Nat) {v : s.Carrier}
    (said : s.value? level c = some v) : s.value? level c' = some v := by
  induction moved generalizing level with
  | @reordered _ _ _ entries entries' reordered distinct =>
    have all : Content.areNamed entries = true := by
      rw [value?_mapping] at said
      exact (Option.ite_none_right_eq_some.1 said).1
    rw [← Content.keys_of_areNamed all] at distinct
    refine value?_mapping_mono (fun _ => ?_) (fun name p s v _ picked => ?_) said
    · exact List.all_eq_true.2 fun e member => List.all_eq_true.1 all e (reordered.symm.subset member)
    · exact filter_eq_of_perm (reordered.map Content.named) distinct name ▸ picked
  | inserted before after style name value unknown =>
    refine value?_mapping_mono (fun named => Content.areNamed_insert.trans named) (fun key p s v known picked => ?_) said
    have other : name ≠ key := fun same => unknown (same ▸ Fields.mem_names_of_find? known)
    rw [Content.filter_named_insert, if_neg other, List.append_nil]
    rwa [List.map_append, List.filter_append] at picked
  | omitted before after style name value known optional absent =>
    refine value?_mapping_mono (fun named => Content.areNamed_insert.symm.trans named)
      (fun key p s v known' picked => ?_) said
    rw [Content.filter_named_insert] at picked
    rw [List.map_append, List.filter_append]
    by_cases here : name = key
    · subst here
      cases known.symm.trans known'
      rw [if_pos rfl] at picked
      -- Nothing else is given for the field, or it would be repeated.
      rcases before_of : (before.map Content.named).filter (·.1 = name) with _ | ⟨e, others⟩
      · rcases after_of : (after.map Content.named).filter (·.1 = name) with _ | ⟨e, others⟩
        · rw [before_of, after_of] at picked ⊢
          exact (Fields.pick?_of_absent optional absent).symm.trans picked
        · rw [before_of, after_of, Fields.pick?_of_repeated (by simp)] at picked
          cases picked
      · rw [before_of, Fields.pick?_of_repeated (by simp)] at picked
        cases picked
    · rwa [if_neg here, List.append_nil] at picked
  | field before after style name known inside ih =>
    refine value?_mapping_mono (fun named => Content.areNamed_insert.trans (Content.areNamed_insert.symm.trans named))
      (fun key p s v known' picked => ?_) said
    rw [Content.filter_named_insert] at picked ⊢
    by_cases here : name = key
    · subst here
      cases known.symm.trans known'
      rw [if_pos rfl, List.append_assoc, List.singleton_append] at picked ⊢
      obtain ⟨vs, all, picked⟩ := Option.bind_eq_some_iff.1 picked
      have same := fun v => ih (level + 1) (v := v)
      rw [Fields.pick?, mapM_middle _ _ (name, _) (name, _) same all]
      exact picked
    · rwa [if_neg here] at picked ⊢
  | item before after inside ih =>
    rw [value?_sequence] at said ⊢
    exact mapM_middle before after _ _ (fun v => ih (level + 1) (v := v)) said
  | @present s c c' inside ih =>
    obtain ⟨absent, absent'⟩ := inside.isAbsent
    rw [Schema.value?, absent, if_neg Bool.false_ne_true] at said
    rw [Schema.value?, absent', if_neg Bool.false_ne_true]
    obtain ⟨w, there, rfl⟩ := Option.map_eq_some_iff.1 said
    rw [ih level there]
    rfl

end Rearranged

namespace Repeats

theorem isAbsent {s : Schema} {c : Content} (repeated : s.Repeats c) : c.isAbsent = false := by
  induction repeated with
  | present inside ih => exact ih
  | _ => rfl

/-- No choice is made between the values of a field that is given twice. -/
theorem value?_eq_none {s : Schema} {c : Content} (repeated : s.Repeats c) (level : Nat) : s.value? level c = none := by
  induction repeated generalizing level with
  | here before between after style style' name value value' known =>
    obtain ⟨p, s, found⟩ := Fields.exists_find?_of_mem_names known
    refine value?_mapping_eq_none found (Fields.pick?_of_repeated ?_)
    rw [List.append_assoc, List.cons_append, Content.filter_named_insert, if_pos rfl, Content.filter_named_insert, if_pos rfl]
    simp
    omega
  | field before after style name known inside ih =>
    refine value?_mapping_eq_none known ?_
    rw [Content.filter_named_insert, if_pos rfl, List.append_assoc, List.singleton_append, Fields.pick?,
      mapM_middle_none _ _ (name, _) (ih (level + 1))]
    rfl
  | item before after inside ih =>
    rw [value?_sequence]
    exact mapM_middle_none before after _ (ih (level + 1))
  | present inside ih =>
    rw [Schema.value?, inside.isAbsent, if_neg Bool.false_ne_true, ih level]
    rfl

end Repeats

end Schema
end MachineOperator.Yaml
