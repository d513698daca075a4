import MachineOperator.Proofs.File.Alike

/-!
Trees of one shape: files and directories have the same places in them, whatever the files hold. Nothing is written and no
directory is made in one of them that would not be in the other, and a failure has the same reason in both.
-/
namespace MachineOperator.File

def Node.isDirectory : Node → Bool
  | .file _ => false
  | .directory => true

namespace Tree
variable {t u : Tree} {p : Path} {l : Location}

structure SameShape (t u : Tree) : Prop where
  start : u.workingDirectory = t.workingDirectory
  kind : ∀ l, (u.node? l).map Node.isDirectory = (t.node? l).map Node.isDirectory

/-- Both fail for one reason, or both succeed with trees of one shape. -/
def SameOutcome (x y : Except Error Tree) : Prop :=
  (∃ e, x = .error e ∧ y = .error e) ∨ ∃ t u, x = .ok t ∧ y = .ok u ∧ SameShape t u

theorem SameOutcome.failed (e : Error) : SameOutcome (.error e) (.error e) := .inl ⟨e, rfl, rfl⟩

theorem SameOutcome.done (same : SameShape t u) : SameOutcome (.ok t) (.ok u) := .inr ⟨t, u, rfl, rfl, same⟩

/-- Trees that differ only in what one file holds. -/
theorem AlikeBut.sameShape (alike : AlikeBut l t u) {data data' : ByteArray} (here : t.node? l = some (.file data))
    (there : u.node? l = some (.file data')) : SameShape t u where
  start := alike.start
  kind k := by
    by_cases same : k = l
    · subst same
      rw [here, there]
      rfl
    · rw [alike.node?_eq same]

namespace SameShape

/-- What may be at a location of both trees. -/
theorem node?_cases (same : SameShape t u) (l : Location) :
    (t.node? l = none ∧ u.node? l = none) ∨ (t.node? l = some .directory ∧ u.node? l = some .directory) ∨
      ∃ data data', t.node? l = some (.file data) ∧ u.node? l = some (.file data') := by
  have kind := same.kind l
  revert kind
  rcases t.node? l with _ | data | _ <;> rcases u.node? l with _ | data' | _
  case none.none => exact fun _ => .inl ⟨rfl, rfl⟩
  case some.directory.some.directory => exact fun _ => .inr (.inl ⟨rfl, rfl⟩)
  case some.file.some.file => exact fun _ => .inr (.inr ⟨data, data', rfl, rfl⟩)
  all_goals nofun

theorem expectDirectory (same : SameShape t u) (l : Location) : u.expectDirectory l = t.expectDirectory l := by
  rw [Tree.expectDirectory, Tree.expectDirectory]
  rcases same.node?_cases l with ⟨here, there⟩ | ⟨here, there⟩ | ⟨data, data', here, there⟩ <;> rw [here, there]

theorem follow (same : SameShape t u) (here : Location) (names : List String) :
    u.follow here names = t.follow here names := by
  induction names generalizing here with
  | nil => rfl
  | cons name r ih => rw [follow_cons, follow_cons, same.expectDirectory, ih]

theorem findPlace (same : SameShape t u) (p : Path) : u.findPlace p = t.findPlace p := by
  simp only [Tree.findPlace, same.follow, same.expectDirectory, start_congr same.start]

theorem findFile (same : SameShape t u) (p : Path) : u.findFile p = t.findFile p := by
  unfold Tree.findFile
  rw [same.findPlace]
  rcases t.findPlace p with e | ⟨above, last, ended⟩
  · rfl
  · rw [bind_ok, bind_ok]
    split
    · next name here =>
      cases here
      rcases same.node?_cases (above ++ [name]) with ⟨here, there⟩ | ⟨here, there⟩ | ⟨data, data', here, there⟩ <;>
        rw [here, there]
    · rfl

theorem isDirectory (same : SameShape t u) (p : Path) : u.isDirectory p = t.isDirectory p := by
  rw [Tree.isDirectory, Tree.isDirectory, Tree.find, Tree.find, start_congr same.start, same.follow]
  rcases check p with e | _
  · rfl
  · rw [bind_ok, bind_ok]
    rcases t.follow (t.start p) p.parts with e | l
    · rfl
    · rw [bind_ok, bind_ok]
      rcases same.node?_cases l with ⟨here, there⟩ | ⟨here, there⟩ | ⟨data, data', here, there⟩
      · rw [here, there]
      · rw [here, there]
      · rw [here, there]
        rfl

theorem put (same : SameShape t u) (l : Location) {n m : Node} (kind : m.isDirectory = n.isDirectory) :
    SameShape (t.put l n) (u.put l m) where
  start := same.start
  kind k := by
    by_cases apart : k = l
    · subst apart
      cases k with
      | nil => rfl
      | cons name r =>
        have holds (x : Tree) (n : Node) : (x.put (name :: r) n).node? (name :: r) = some n := Dict.get?_insert_self ..
        rw [holds, holds]
        exact congrArg some kind
    · rw [node?_put_of_ne apart, node?_put_of_ne apart, same.kind]

/-- A file is written in both trees, whatever it holds then. -/
theorem write (same : SameShape t u) (p : Path) (data data' : ByteArray) :
    SameOutcome (t.write p data) (u.write p data') := by
  unfold Tree.write
  rw [same.findFile]
  rcases t.findFile p with e | l
  · exact .failed e
  · exact .done (same.put l rfl)

theorem createDirectory (same : SameShape t u) (p : Path) :
    SameOutcome (t.createDirectory p) (u.createDirectory p) := by
  unfold Tree.createDirectory
  rw [same.findPlace]
  rcases t.findPlace p with e | ⟨above, last, ended⟩
  · exact .failed e
  · rw [bind_ok, bind_ok]
    cases last with
    | none => exact .failed .exists
    | some name =>
      dsimp only
      by_cases long : longestName < name.utf8ByteSize
      · rw [if_pos long, if_pos long]
        exact .failed .nameTooLong
      · rw [if_neg long, if_neg long]
        rcases same.node?_cases (above ++ [name]) with ⟨here, there⟩ | ⟨here, there⟩ | ⟨data, data', here, there⟩
        · rw [here, there]
          exact .done (same.put _ rfl)
        · rw [here, there]
          exact .failed .exists
        · rw [here, there]
          exact .failed .exists

theorem createUnlessThere (same : SameShape t u) (p : Path) :
    SameOutcome (t.createUnlessThere p) (u.createUnlessThere p) := by
  unfold Tree.createUnlessThere
  rw [same.isDirectory]
  rcases same.createDirectory p with ⟨e, here, there⟩ | ⟨t', u', here, there, new⟩
  · rw [here, there]
    dsimp only
    by_cases isThere : t.isDirectory p = true
    · rw [if_pos isThere, if_pos isThere]
      exact .done same
    · rw [if_neg isThere, if_neg isThere]
      exact .failed e
  · rw [here, there]
    exact .done new

theorem createDirectories (same : SameShape t u) (p : Path) (above : List Path) :
    (u.createDirectories p above).1 = (t.createDirectories p above).1 ∧
      SameShape (t.createDirectories p above).2 (u.createDirectories p above).2 := by
  induction above generalizing p with
  | nil => exact ⟨rfl, same⟩
  | cons parent others ih =>
    obtain ⟨result, higher⟩ := ih parent
    rw [Tree.createDirectories, Tree.createDirectories, same.isDirectory]
    rcases same.createDirectory p with ⟨e, here, there⟩ | ⟨t', u', here, there, new⟩
    · rw [here, there]
      by_cases absent : e = .notFound
      · subst absent
        rcases first : t.createDirectories parent others with ⟨r, t'⟩
        rcases second : u.createDirectories parent others with ⟨r', u'⟩
        rw [first, second] at result higher
        dsimp only at result higher ⊢
        subst result
        rcases r' with e | _
        · exact ⟨rfl, higher⟩
        · dsimp only
          rcases higher.createUnlessThere p with ⟨e, here, there⟩ | ⟨t₁, u₁, here, there, new⟩
          · rw [here, there]
            exact ⟨rfl, higher⟩
          · rw [here, there]
            exact ⟨rfl, new⟩
      · by_cases isThere : t.isDirectory p = true
        · simp [isThere, same]
        · simp [isThere, same]
    · rw [here, there]
      exact ⟨rfl, new⟩

theorem createAll (same : SameShape t u) (p : Path) :
    (u.createAll p).1 = (t.createAll p).1 ∧ SameShape (t.createAll p).2 (u.createAll p).2 := by
  unfold Tree.createAll
  by_cases blank : p.text = ""
  · rw [if_pos blank, if_pos blank]
    exact ⟨rfl, same⟩
  · rw [if_neg blank, if_neg blank]
    exact same.createDirectories p p.ancestors

/-- What a path leads to is read alike, unless it is the file that the trees differ in. -/
theorem read (same : SameShape t u) (elsewhere : ∀ k, k ≠ l → u.node? k = t.node? k)
    (apart : ∀ n, t.find p ≠ .ok (l, n)) : u.read p = t.read p := by
  have found : u.find p = t.find p := by
    rw [find, find, start_congr same.start, same.follow]
    rcases valid : check p with e | _
    · rfl
    · rcases led : t.follow (t.start p) p.parts with e | k
      · rfl
      · rw [bind_ok, bind_ok, bind_ok, bind_ok]
        by_cases other : k = l
        · subst other
          rcases here : t.node? k with _ | n
          · have there : u.node? k = none := by simpa [here] using same.kind k
            rw [there]
          · exact absurd (find_eq_ok.2 ⟨valid, led, here⟩) (apart n)
        · rw [elsewhere k other]
  rw [Tree.read, Tree.read, found]

end SameShape

/-- A path leads to one location, whichever tree it leads anywhere in. -/
theorem eq_of_find (start : u.workingDirectory = t.workingDirectory) {k : Location} {n m : Node}
    (here : t.find p = .ok (l, n)) (there : u.find p = .ok (k, m)) : k = l := by
  obtain ⟨_, led, _⟩ := find_eq_ok.1 here
  obtain ⟨_, led', _⟩ := find_eq_ok.1 there
  rw [eq_of_follow led, eq_of_follow led', start_congr start]

end Tree
end MachineOperator.File
