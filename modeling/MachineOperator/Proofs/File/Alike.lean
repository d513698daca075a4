import MachineOperator.Proofs.File.Ancestors
import MachineOperator.Proofs.File.Directories

/-!
Trees that differ in one file. Directories are made in them alike, as long as the file is in no directory's place, and
once the file is written they are the same.
-/
namespace MachineOperator.File.Tree
variable {t u t' whole : Tree} {p : Path} {here l : Location}

/-- Trees that are the same but for one location, where no directory is. -/
structure AlikeBut (l : Location) (t u : Tree) : Prop where
  start : u.workingDirectory = t.workingDirectory
  elsewhere : ∀ k, k ≠ l → u.nodes.get? k = t.nodes.get? k
  left : t.node? l ≠ some .directory
  right : u.node? l ≠ some .directory

namespace AlikeBut

theorem node?_eq (alike : AlikeBut l t u) {k : Location} (apart : k ≠ l) : u.node? k = t.node? k := by
  cases k with
  | nil => rfl
  | cons name r => exact alike.elsewhere (name :: r) apart

theorem kept (alike : AlikeBut l t u) (k : Location) (there : t.node? k = some .directory) :
    u.node? k = some .directory := by
  rw [alike.node?_eq (ne_of_directory there alike.left), there]

/-- The same is put elsewhere. -/
theorem put (alike : AlikeBut l t u) {k : Location} (apart : k ≠ l) (n : Node) :
    AlikeBut l (t.put k n) (u.put k n) where
  start := alike.start
  elsewhere x other := by
    simp only [Tree.put, Dict.get?_insert, alike.elsewhere x other]
  left := by rw [node?_put_of_ne apart.symm]; exact alike.left
  right := by rw [node?_put_of_ne apart.symm]; exact alike.right

/-- With the same at the location the trees are the same. -/
theorem put_eq (alike : AlikeBut l t u) (n : Node) : u.put l n = t.put l n := by
  have nodes : u.nodes.insert l n = t.nodes.insert l n := by
    apply Dict.ext_get?
    intro k
    rw [Dict.get?_insert, Dict.get?_insert]
    by_cases same : k = l
    · rw [if_pos same, if_pos same]
    · rw [if_neg same, if_neg same, alike.elsewhere k same]
  rw [Tree.put, Tree.put, nodes, alike.start]

/-- What is found elsewhere is found. -/
theorem find (alike : AlikeBut l t u) {k : Location} {n : Node} (found : t.find p = .ok (k, n)) (apart : k ≠ l) :
    u.find p = .ok (k, n) := by
  apply find_of_directories alike.kept alike.start found
  rw [alike.node?_eq apart]
  exact (find_eq_ok.1 found).2.2

theorem read (alike : AlikeBut l t u) {data : ByteArray} (held : t.read p = .ok data)
    (apart : ∀ n, t.find p ≠ .ok (l, n)) : u.read p = .ok data := by
  obtain ⟨k, found⟩ := read_eq_ok.1 held
  have other : k ≠ l := by
    rintro rfl
    exact apart _ found
  exact read_eq_ok.2 ⟨k, alike.find found other⟩

/-- A file is written to the location, whatever was there. -/
theorem write (alike : AlikeBut l t u) {data : ByteArray} (written : t.write p data = .ok t')
    (there : t'.find p = .ok (l, .file data)) : u.write p data = .ok t' := by
  obtain ⟨above, name, place, free, rfl⟩ := write_eq_ok.1 written
  cases place.eq_of_find there rfl
  obtain ⟨before, parts, followed⟩ := place.way
  have placed : u.Place p 0 above name :=
    { place with
      way := ⟨before, parts, start_congr alike.start p ▸ follow_of_directories alike.kept followed⟩
      inside := alike.kept above place.inside }
  rw [← alike.put_eq]
  exact write_eq_ok.2 ⟨above, name, placed, alike.right, rfl⟩

end AlikeBut

/-- A file that is written is found, and all else is as it was. -/
theorem alike_write {data : ByteArray} (written : t.write p data = .ok t') :
    ∃ l, t'.find p = .ok (l, .file data) ∧ AlikeBut l t t' := by
  obtain ⟨above, name, place, free, rfl⟩ := write_eq_ok.1 written
  have there := node?_put_self t above name (.file data)
  refine ⟨above ++ [name], place.find (fun _ => node?_put_file free) rfl there (.inl rfl), rfl, ?_, free, ?_⟩
  · intro k other
    exact (Dict.get?_insert ..).trans (if_neg other)
  · rw [there]
    nofun

/-! A third tree has the directories that are made in the end, and none of them is at the location. -/

section
variable (alike : AlikeBut l t u) (apart : whole.node? l ≠ some .directory)
include alike apart

theorem follow_congr {names : List String} {k : Location} (followed : whole.follow here names = .ok k) :
    u.follow here names = t.follow here names := by
  induction names generalizing here with
  | nil => rfl
  | cons name r ih =>
    obtain ⟨there, _, rest⟩ := follow_cons_eq_ok.1 followed
    have same := alike.node?_eq (ne_of_directory there apart)
    rw [follow_cons, follow_cons, expectDirectory, expectDirectory, same, ih rest]

variable (start : whole.workingDirectory = t.workingDirectory) {k : Location}
  (found : whole.find p = .ok (k, .directory))
include start found

theorem findPlace_congr : u.findPlace p = t.findPlace p := by
  unfold findPlace
  cases parts : splitLast p.parts with
  | mk before rest =>
    obtain ⟨last, ended⟩ := rest
    obtain ⟨above, led, inside⟩ := follow_before parts found
    have same := alike.node?_eq (ne_of_directory inside apart)
    dsimp only
    rw [start_congr alike.start, ← start_congr start, follow_congr alike apart led]
    rcases followed : t.follow (whole.start p) before with e | above'
    · rfl
    · cases (eq_of_follow followed).trans (eq_of_follow led).symm
      rw [bind_ok, bind_ok, expectDirectory, expectDirectory, same]

theorem find_congr : u.find p = t.find p := by
  obtain ⟨_, led, there⟩ := find_eq_ok.1 found
  have same := alike.node?_eq (ne_of_directory there apart)
  rw [Tree.find, Tree.find, start_congr alike.start, ← start_congr start, follow_congr alike apart led]
  rcases followed : t.follow (whole.start p) p.parts with e | k'
  · rfl
  · cases (eq_of_follow followed).trans (eq_of_follow led).symm
    rw [bind_ok, bind_ok, same]

/-- The directory is made in both trees or, for the same reason, in none. -/
theorem createDirectory_congr :
    (∃ e, t.createDirectory p = .error e ∧ u.createDirectory p = .error e) ∨
      ∃ t' u', t.createDirectory p = .ok t' ∧ u.createDirectory p = .ok u' ∧ AlikeBut l t' u' := by
  have placed' := findPlace_congr alike apart start found
  unfold createDirectory
  rw [placed']
  rcases placed : t.findPlace p with e | ⟨above, last, ended⟩
  · exact .inl ⟨e, rfl, rfl⟩
  · rw [bind_ok, bind_ok]
    cases last with
    | none => exact .inl ⟨.exists, rfl, rfl⟩
    | some name =>
      dsimp only
      by_cases long : longestName < name.utf8ByteSize
      · rw [if_pos long, if_pos long]
        exact .inl ⟨.nameTooLong, rfl, rfl⟩
      · obtain ⟨slashes, place, _⟩ := place_of_findPlace placed (Nat.not_lt.1 long)
        cases place.eq_of_find found start
        have other := ne_of_directory (find_eq_ok.1 found).2.2 apart
        rw [if_neg long, if_neg long, alike.node?_eq other]
        cases t.node? (above ++ [name]) with
        | some n => exact .inl ⟨.exists, rfl, rfl⟩
        | none => exact .inr ⟨_, _, rfl, rfl, alike.put other .directory⟩

theorem createDirectory_error_congr {e : Error} (failed : t.createDirectory p = .error e) :
    u.createDirectory p = .error e := by
  rcases createDirectory_congr alike apart start found with ⟨e', left, right⟩ | ⟨_, _, left, _⟩
  · cases left.symm.trans failed
    exact right
  · cases left.symm.trans failed

theorem createDirectory_ok_congr (made : t.createDirectory p = .ok t') :
    ∃ u', u.createDirectory p = .ok u' ∧ AlikeBut l t' u' := by
  rcases createDirectory_congr alike apart start found with ⟨_, left, _⟩ | ⟨t₁, u₁, left, right, alike'⟩
  · cases left.symm.trans made
  · cases left.symm.trans made
    exact ⟨u₁, right, alike'⟩

theorem isDirectory_congr : u.isDirectory p = t.isDirectory p := by
  rw [isDirectory, isDirectory, find_congr alike apart start found]

theorem createUnlessThere_congr (made : t.createUnlessThere p = .ok t') :
    ∃ u', u.createUnlessThere p = .ok u' ∧ AlikeBut l t' u' := by
  rcases createUnlessThere_eq_ok.1 made with new | ⟨e, failed, there, rfl⟩
  · obtain ⟨u', new', alike'⟩ := createDirectory_ok_congr alike apart start found new
    exact ⟨u', createUnlessThere_eq_ok.2 (.inl new'), alike'⟩
  · have failed' := createDirectory_error_congr alike apart start found failed
    rw [← isDirectory_congr alike apart start found] at there
    exact ⟨u, createUnlessThere_eq_ok.2 (.inr ⟨e, failed', there, rfl⟩), alike⟩

end

/-- Directories that can be made in one tree can be made in the other. -/
theorem createDirectories_congr (alike : AlikeBut l t u) (apart : whole.node? l ≠ some .directory)
    (start : whole.workingDirectory = t.workingDirectory) {above : List Path}
    (made : t.createDirectories p above = (.ok (), t'))
    (all : ∀ q k, t'.find q = .ok (k, .directory) → whole.find q = .ok (k, .directory)) :
    ∃ u', u.createDirectories p above = (.ok (), u') ∧ AlikeBut l t' u' := by
  -- The third tree stays the same through the induction: a directory that is made on the way is found in it.
  induction above generalizing p t' with
  | nil =>
    cases made
    exact ⟨u, rfl, alike⟩
  | cons parent others ih =>
    obtain ⟨k, there⟩ := find_createDirectories made
    have found := all p k there
    rcases createDirectories_eq_ok.1 made with new | ⟨absent, t₁, higher, last⟩ | ⟨e, failed, other, isThere, rfl⟩
    · obtain ⟨u', new', alike'⟩ := createDirectory_ok_congr alike apart start found new
      exact ⟨u', createDirectories_eq_ok.2 (.inl new'), alike'⟩
    · have absent' := createDirectory_error_congr alike apart start found absent
      have grows := (find_createUnlessThere last).1
      obtain ⟨u₁, higher', alike₁⟩ := ih higher fun q k there => all q k (grows.find there)
      have start₁ : whole.workingDirectory = t₁.workingDirectory := by
        have kept := (makes_createDirectories t parent others).start
        rw [higher] at kept
        exact start.trans kept.symm
      obtain ⟨u₂, last', alike₂⟩ := createUnlessThere_congr alike₁ apart start₁ found last
      exact ⟨u₂, createDirectories_eq_ok.2 (.inr (.inl ⟨absent', u₁, higher', last'⟩)), alike₂⟩
    · have failed' := createDirectory_error_congr alike apart start found failed
      rw [← isDirectory_congr alike apart start found] at isThere
      exact ⟨u, createDirectories_eq_ok.2 (.inr (.inr ⟨e, failed', other, isThere, rfl⟩)), alike⟩

theorem createAll_congr (alike : AlikeBut l t u) (made : t.createAll p = (.ok (), t'))
    (apart : t'.node? l ≠ some .directory) : ∃ u', u.createAll p = (.ok (), u') ∧ AlikeBut l t' u' := by
  have start := (makes_createAll t p).start
  rw [made] at start
  unfold createAll at made ⊢
  by_cases blank : p.text = ""
  · rw [if_pos blank] at made ⊢
    cases made
    exact ⟨u, rfl, alike⟩
  · rw [if_neg blank] at made ⊢
    exact createDirectories_congr alike apart start made fun q k there => there

/-- With directories made, all that is new is directories on the way. -/
theorem node?_createAll (t : Tree) (p : Path) (k : Location) :
    (t.createAll p).2.node? k = t.node? k ∨ (t.node? k = none ∧ (t.createAll p).2.node? k = some .directory ∧
      ∃ names, names <+: p.parts ∧ (t.createAll p).2.follow ((t.createAll p).2.start p) names = .ok k) := by
  have makes := makes_createAll t p
  cases before : t.node? k with
  | some n => exact .inl (makes.kept k n before)
  | none =>
    cases after : (t.createAll p).2.node? k with
    | none => exact .inl rfl
    | some n =>
      have taken : (t.createAll p).2.node? k ≠ none := by
        rw [after]
        nofun
      obtain ⟨q, member, found⟩ := makes.found k before taken
      obtain ⟨names, first, led⟩ := way_of_ancestor member found
      rw [← after, (find_eq_ok.1 found).2.2]
      exact .inr ⟨rfl, rfl, names, first, led⟩

/-- The same once one file is changed. -/
theorem kept_or_made (alike : AlikeBut l (t.createAll p).2 t') {k : Location} (apart : k ≠ l) :
    t'.node? k = t.node? k ∨ (t.node? k = none ∧ t'.node? k = some .directory ∧
      ∃ names, names <+: p.parts ∧ t'.follow (t'.start p) names = .ok k) := by
  rw [alike.node?_eq apart]
  rcases node?_createAll t p k with same | ⟨free, made, names, first, led⟩
  · exact .inl same
  · refine .inr ⟨free, made, names, first, ?_⟩
    rw [start_congr alike.start]
    exact follow_of_directories alike.kept led

end MachineOperator.File.Tree
