/-!
Finite maps, as lists of entries with increasing keys. Two of them are equal exactly when they hold the same
entries.
-/
namespace MachineOperator

/-- Keys have an order, in which of two different ones one comes first. -/
class OrderedKey (κ : Type) [LT κ] : Prop where
  irrefl (a : κ) : ¬a < a
  trans {a b c : κ} : a < b → b < c → a < c
  connected {a b : κ} : ¬a < b → ¬b < a → a = b

instance : OrderedKey String where
  irrefl := String.lt_irrefl
  trans := String.lt_trans
  connected h h' := String.le_antisymm (String.not_lt.1 h') (String.not_lt.1 h)

instance {κ : Type} [LT κ] [DecidableLT κ] [OrderedKey κ] : OrderedKey (List κ) where
  irrefl := @List.lt_irrefl κ _ ⟨OrderedKey.irrefl⟩
  trans h h' := @List.lt_trans κ _ ⟨OrderedKey.trans⟩ _ _ _ h h'
  connected h h' := @List.le_antisymm κ _ ⟨fun _ _ => OrderedKey.connected⟩ _ _ (List.not_lt.1 h') (List.not_lt.1 h)

structure Dict (κ α : Type) [LT κ] where
  entries : List (κ × α)
  sorted : entries.Pairwise (·.1 < ·.1)

namespace Dict

theorem lookup_cons {κ α : Type} [DecidableEq κ] (key k : κ) (w : α) (r : List (κ × α)) :
    ((k, w) :: r).lookup key = if key = k then some w else r.lookup key := by
  by_cases h : key = k
  · simp [h]
  · have h' : (key == k) = false := by simpa using h
    simp [List.lookup_cons, h, h']

variable {κ α : Type} [LT κ]

theorem ext {a b : Dict κ α} (h : a.entries = b.entries) : a = b := by
  cases a; cases b; cases h; rfl

def empty : Dict κ α := ⟨[], .nil⟩

instance : Inhabited (Dict κ α) := ⟨empty⟩

def isEmpty (d : Dict κ α) : Bool := d.entries.isEmpty

instance [BEq κ] [BEq α] : BEq (Dict κ α) := ⟨fun a b => a.entries == b.entries⟩

instance [DecidableEq κ] [DecidableEq α] : DecidableEq (Dict κ α) := fun a b =>
  decidable_of_iff (a.entries = b.entries) ⟨ext, fun h => h ▸ rfl⟩

def get? [DecidableEq κ] (d : Dict κ α) (key : κ) : Option α := d.entries.lookup key

section
variable [OrderedKey κ] [DecidableEq κ]

theorem lookup_of_above {key : κ} {es : List (κ × α)} (above : ∀ e ∈ es, key < e.1) : es.lookup key = none := by
  apply List.lookup_eq_none_iff.2
  intro e member
  have apart : key ≠ e.1 := fun same => OrderedKey.irrefl key (by simpa [← same] using above e member)
  simpa using apart

/-- A key that is there is not less than the least one. -/
theorem not_lt_of_lookup {key k : κ} {v w : α} {es : List (κ × α)} (above : ∀ e ∈ es, k < e.1)
    (there : ((k, w) :: es).lookup key = some v) : ¬key < k := by
  intro less
  have others : ∀ e ∈ (k, w) :: es, key < e.1 := by
    intro e member
    rcases List.mem_cons.1 member with rfl | later
    · exact less
    · exact OrderedKey.trans less (above e later)
  rw [lookup_of_above others] at there
  cases there

theorem entries_eq_of_lookup {es fs : List (κ × α)} (sorted : es.Pairwise (·.1 < ·.1))
    (sorted' : fs.Pairwise (·.1 < ·.1)) (same : ∀ key, es.lookup key = fs.lookup key) : es = fs := by
  have first (k : κ) (v : α) (r : List (κ × α)) : ((k, v) :: r).lookup k = some v := by simp
  induction es generalizing fs with
  | nil =>
    cases fs with
    | nil => rfl
    | cons f fs =>
      have here := (same f.1).trans (first f.1 f.2 fs)
      cases here
  | cons e es ih =>
    obtain ⟨k, v⟩ := e
    obtain ⟨above, rest⟩ := List.pairwise_cons.1 sorted
    cases fs with
    | nil =>
      have here := (same k).symm.trans (first k v es)
      cases here
    | cons f fs =>
      obtain ⟨k', v'⟩ := f
      obtain ⟨above', rest'⟩ := List.pairwise_cons.1 sorted'
      have keys : k = k' :=
        OrderedKey.connected (not_lt_of_lookup above' ((same k).symm.trans (first k v es)))
          (not_lt_of_lookup above ((same k').trans (first k' v' fs)))
      subst keys
      have values : v = v' := by simpa [lookup_cons] using same k
      have others : ∀ key, es.lookup key = fs.lookup key := by
        intro key
        by_cases here : key = k
        · rw [here, lookup_of_above above, lookup_of_above above']
        · simpa [lookup_cons, here] using same key
      rw [ih rest rest' others, values]

/-- Maps that give the same for every key are equal. -/
theorem ext_get? {d d' : Dict κ α} (same : ∀ key, d.get? key = d'.get? key) : d = d' :=
  ext (entries_eq_of_lookup d.sorted d'.sorted same)

end

variable [DecidableLT κ]

def insertEntry (key : κ) (v : α) : List (κ × α) → List (κ × α)
  | [] => [(key, v)]
  | (k, w) :: r =>
    if key < k then (key, v) :: (k, w) :: r
    else if k < key then (k, w) :: insertEntry key v r
    else (key, v) :: r

theorem mem_insertEntry {key : κ} {v : α} {e : κ × α} {l : List (κ × α)}
    (h : e ∈ insertEntry key v l) : e = (key, v) ∨ e ∈ l := by
  induction l with
  | nil => simpa [insertEntry] using h
  | cons a r ih =>
    obtain ⟨k, w⟩ := a
    simp only [insertEntry] at h
    split at h
    · simpa using h
    · split at h
      · rcases List.mem_cons.1 h with h | h
        · exact .inr (h ▸ List.mem_cons_self)
        · exact (ih h).imp_right (List.mem_cons_of_mem _)
      · rcases List.mem_cons.1 h with h | h
        · exact .inl h
        · exact .inr (List.mem_cons_of_mem _ h)

variable [OrderedKey κ]

theorem lookup_insertEntry [DecidableEq κ] (key key' : κ) (v : α) (l : List (κ × α)) :
    (insertEntry key v l).lookup key' = if key' = key then some v else l.lookup key' := by
  induction l with
  | nil => simp [insertEntry, lookup_cons]
  | cons a r ih =>
    obtain ⟨k, w⟩ := a
    simp only [insertEntry]
    split
    · simp [lookup_cons]
    · rename_i nlt
      split
      · rename_i gt
        have distinct : ¬k = key := fun h => OrderedKey.irrefl k (by rw [← h] at gt; exact gt)
        simp only [lookup_cons, ih]
        by_cases h : key' = k
        · subst h; simp [distinct]
        · simp [h]
      · rename_i ngt
        have same : key = k := OrderedKey.connected nlt ngt
        subst same
        by_cases h : key' = key <;> simp [lookup_cons, h]

theorem sorted_insertEntry (key : κ) (v : α) (l : List (κ × α)) (h : l.Pairwise (·.1 < ·.1)) :
    (insertEntry key v l).Pairwise (·.1 < ·.1) := by
  induction l with
  | nil => simp [insertEntry]
  | cons a r ih =>
    obtain ⟨k, w⟩ := a
    have ⟨hk, hr⟩ := List.pairwise_cons.1 h
    simp only [insertEntry]
    split
    · rename_i lt
      refine List.pairwise_cons.2 ⟨fun e he => ?_, h⟩
      rcases List.mem_cons.1 he with rfl | he
      · exact lt
      · exact OrderedKey.trans lt (hk e he)
    · rename_i nlt
      split
      · rename_i gt
        refine List.pairwise_cons.2 ⟨fun e he => ?_, ih hr⟩
        rcases mem_insertEntry he with rfl | he
        · exact gt
        · exact hk e he
      · rename_i ngt
        have same : key = k := OrderedKey.connected nlt ngt
        subst same
        exact List.pairwise_cons.2 ⟨fun e he => hk e he, hr⟩

/-- The map with this entry; it takes the place of an entry with the same key. -/
def insert (d : Dict κ α) (key : κ) (v : α) : Dict κ α :=
  ⟨insertEntry key v d.entries, sorted_insertEntry key v d.entries d.sorted⟩

/-- Of entries with one key the last counts. -/
def ofList (l : List (κ × α)) : Dict κ α := l.foldl (fun d e => d.insert e.1 e.2) empty

variable [DecidableEq κ]

theorem get?_insert (d : Dict κ α) (key key' : κ) (v : α) :
    (d.insert key v).get? key' = if key' = key then some v else d.get? key' :=
  lookup_insertEntry key key' v d.entries

@[simp] theorem get?_insert_self (d : Dict κ α) (key : κ) (v : α) : (d.insert key v).get? key = some v := by
  simp [get?_insert]

end Dict
end MachineOperator
