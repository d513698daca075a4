import MachineOperator.Proofs.File.Tree

/-!
Making directories. However far it goes, it only adds directories, each under a name of the path: all that was there
stays as it is. A directory that is there already is made without any change.
-/
namespace MachineOperator.File.Tree
variable {t t' : Tree} {p : Path} {l : Location}

/-- A tree has all that another has, and otherwise only directories. -/
structure Extends (t t' : Tree) : Prop where
  kept : ∀ l n, t.node? l = some n → t'.node? l = some n
  new : ∀ l n, t'.node? l = some n → t.node? l = some n ∨ n = .directory

namespace Extends

theorem refl (t : Tree) : Extends t t := ⟨fun _ _ there => there, fun _ _ there => .inl there⟩

theorem trans {t u v : Tree} (first : Extends t u) (second : Extends u v) : Extends t v where
  kept l n there := second.kept l n (first.kept l n there)
  new l n there := by
    rcases second.new l n there with before | made
    · exact first.new l n before
    · exact .inr made

/-- The files are the same. -/
theorem file_iff (extends' : Extends t t') {data : ByteArray} :
    t'.node? l = some (.file data) ↔ t.node? l = some (.file data) := by
  constructor
  · intro there
    rcases extends'.new l _ there with before | made
    · exact before
    · cases made
  · exact extends'.kept l _

end Extends

/-- A tree extends another by directories that are found under some of the paths. -/
structure Makes (paths : List Path) (t t' : Tree) : Prop extends Extends t t' where
  start : t'.workingDirectory = t.workingDirectory
  found : ∀ l, t.node? l = none → t'.node? l ≠ none → ∃ q ∈ paths, t'.find q = .ok (l, .directory)

namespace Makes
variable {paths others : List Path}

/-- What was found is found. -/
theorem find (makes : Makes paths t t') {n : Node} (there : t.find p = .ok (l, n)) : t'.find p = .ok (l, n) := by
  have stays := makes.kept l n (find_eq_ok.1 there).2.2
  exact find_of_directories (fun k => makes.kept k _) makes.start there stays

theorem refl (t : Tree) : Makes paths t t where
  toExtends := .refl t
  start := rfl
  found _l free taken := absurd free taken

theorem trans {t u v : Tree} (first : Makes paths t u) (second : Makes paths u v) : Makes paths t v where
  toExtends := first.toExtends.trans second.toExtends
  start := second.start.trans first.start
  found l free taken := by
    by_cases between : u.node? l = none
    · exact second.found l between taken
    · obtain ⟨q, member, there⟩ := first.found l free between
      exact ⟨q, member, second.find there⟩

theorem mono (makes : Makes paths t t') (more : ∀ q ∈ paths, q ∈ others) : Makes others t t' where
  toExtends := makes.toExtends
  start := makes.start
  found l free taken := by
    obtain ⟨q, member, there⟩ := makes.found l free taken
    exact ⟨q, more q member, there⟩

end Makes

/-- A directory is put where nothing was. -/
theorem extends_put_directory {above : Location} {name : String} (free : t.node? (above ++ [name]) = none) :
    Extends t (t.put (above ++ [name]) .directory) where
  kept l n there := by
    have apart : l ≠ above ++ [name] := by
      rintro rfl
      rw [free] at there
      cases there
    rw [node?_put_of_ne apart, there]
  new l n there := by
    by_cases same : l = above ++ [name]
    · subst same
      rw [node?_put_self] at there
      cases there
      exact .inr rfl
    · rw [node?_put_of_ne same] at there
      exact .inl there

/-! A single directory. -/

/-- A directory is new. -/
theorem place_of_createDirectory (made : t.createDirectory p = .ok t') :
    ∃ slashes above name, t.Place p slashes above name ∧ t.node? (above ++ [name]) = none ∧
      t' = t.put (above ++ [name]) .directory := by
  unfold createDirectory at made
  obtain ⟨⟨above, last, ended⟩, placed, made⟩ := bind_eq_ok.1 made
  cases last with
  | none => cases made
  | some name =>
    dsimp only at made
    by_cases long : longestName < name.utf8ByteSize
    · rw [if_pos long] at made
      cases made
    · rw [if_neg long] at made
      obtain ⟨slashes, place, _⟩ := place_of_findPlace placed (Nat.not_lt.1 long)
      cases free : t.node? (above ++ [name]) with
      | some n =>
        rw [free] at made
        cases made
      | none =>
        rw [free] at made
        cases made
        exact ⟨slashes, above, name, place, free, rfl⟩

/-- A directory that is made is found. -/
theorem find_createDirectory (made : t.createDirectory p = .ok t') :
    Makes [p] t t' ∧ ∃ l, t'.find p = .ok (l, .directory) := by
  obtain ⟨slashes, above, name, place, free, rfl⟩ := place_of_createDirectory made
  have grown := extends_put_directory free
  have there : (t.put (above ++ [name]) .directory).find p = .ok (above ++ [name], .directory) :=
    place.find (fun l => grown.kept l _) rfl (node?_put_self t above name _) (.inr rfl)
  refine ⟨⟨grown, rfl, ?_⟩, above ++ [name], there⟩
  intro l absent taken
  by_cases same : l = above ++ [name]
  · exact ⟨p, List.mem_singleton_self p, same ▸ there⟩
  · rw [node?_put_of_ne same] at taken
    exact absurd absent taken

/-- The names before the last one lead to a directory if all names do. -/
theorem follow_before {before : List String} {last : Option String} {slashes : Bool}
    (split : splitLast p.parts = (before, last, slashes)) (found : t.find p = .ok (l, .directory)) :
    ∃ above, t.follow (t.start p) before = .ok above ∧ t.node? above = some .directory := by
  obtain ⟨_, followed, there⟩ := find_eq_ok.1 found
  obtain ⟨rest, whole⟩ : ∃ rest, p.parts = before ++ rest := by
    cases last with
    | none =>
      obtain ⟨rfl, _⟩ := blank_of_splitLast split
      exact ⟨p.parts, rfl⟩
    | some name =>
      obtain ⟨k, whole, _⟩ := parts_of_splitLast split
      exact ⟨_, whole⟩
  rw [whole] at followed
  obtain ⟨above, first, second⟩ := follow_append_eq_ok.1 followed
  exact ⟨above, first, directory_of_follow second there⟩

/-- In whatever tree something is found at the path, it is there. -/
theorem Place.eq_of_find {u : Tree} {n : Node} {above : Location} {name : String} {slashes : Nat}
    (place : t.Place p slashes above name) (found : u.find p = .ok (l, n))
    (start : u.workingDirectory = t.workingDirectory) : l = above ++ [name] := by
  obtain ⟨before, whole, followed⟩ := place.way
  obtain ⟨_, led, _⟩ := find_eq_ok.1 found
  -- Slashes after the name lead nowhere else.
  have blanks : (List.replicate slashes "").foldl onward (above ++ [name]) = above ++ [name] := by
    clear place whole
    induction slashes with
    | zero => rfl
    | succ k ih => exact ih
  rw [eq_of_follow led, whole, start_congr start, List.foldl_append, ← eq_of_follow followed, List.foldl_cons,
    onward_of_name place.named, blanks]

/-- A directory that is there cannot be made again. -/
theorem createDirectory_of_find (found : t.find p = .ok (l, .directory)) : t.createDirectory p = .error .exists := by
  obtain ⟨valid, followed, there⟩ := find_eq_ok.1 found
  cases parts : splitLast p.parts with
  | mk before rest =>
    obtain ⟨last, ended⟩ := rest
    obtain ⟨above, first, inside⟩ := follow_before parts found
    have placed : t.findPlace p = .ok (above, last.filter fun name => name ≠ "." && name ≠ "..", ended) := by
      rw [findPlace, valid, bind_ok, parts]
      dsimp only
      rw [first, bind_ok, expectDirectory_eq_ok (u := ()).2 inside]
      rfl
    unfold createDirectory
    rw [placed, bind_ok]
    cases kept : last.filter fun name => name ≠ "." && name ≠ ".." with
    | none => rfl
    | some name =>
      obtain ⟨rfl, _⟩ := Option.filter_eq_some_iff.1 kept
      obtain ⟨k, whole, _⟩ := parts_of_splitLast parts
      rw [whole] at followed
      obtain ⟨_, _, last⟩ := follow_append_eq_ok.1 followed
      have short := (follow_cons_eq_ok.1 last).2.1
      rw [kept] at placed
      obtain ⟨slashes, place, _⟩ := place_of_findPlace placed short
      cases place.eq_of_find found rfl
      dsimp only
      rw [if_neg (Nat.not_lt.2 short), there]
      rfl

/-! All directories of a path. -/

theorem isDirectory_eq_true : t.isDirectory p = true ↔ ∃ l, t.find p = .ok (l, .directory) := by
  unfold isDirectory
  constructor
  · intro there
    split at there
    · next l found => exact ⟨l, found⟩
    · cases there
  · rintro ⟨l, found⟩
    rw [found]

theorem createUnlessThere_eq_ok :
    t.createUnlessThere p = .ok t' ↔
      t.createDirectory p = .ok t' ∨ ∃ e, t.createDirectory p = .error e ∧ t.isDirectory p = true ∧ t' = t := by
  rw [createUnlessThere]
  rcases t.createDirectory p with e | u
  · by_cases there : t.isDirectory p = true
    · simp [there, eq_comm]
    · simp [there]
  · simp

theorem find_createUnlessThere (made : t.createUnlessThere p = .ok t') :
    Makes [p] t t' ∧ ∃ l, t'.find p = .ok (l, .directory) := by
  rcases createUnlessThere_eq_ok.1 made with new | ⟨e, _, there, rfl⟩
  · exact find_createDirectory new
  · exact ⟨.refl t', isDirectory_eq_true.1 there⟩

theorem makes_createDirectories (t : Tree) (p : Path) (above : List Path) :
    Makes (p :: above) t (t.createDirectories p above).2 := by
  have here : ∀ q ∈ [p], q ∈ p :: above := by simp
  induction above generalizing p with
  | nil => exact .refl t
  | cons parent others ih =>
    have higher : ∀ q ∈ parent :: others, q ∈ p :: parent :: others := fun q => List.mem_cons_of_mem p
    have first := (ih parent (by simp)).mono higher
    unfold createDirectories
    rcases done : t.createDirectory p with e | u
    · cases e with
      | notFound =>
        rcases missing : t.createDirectories parent others with ⟨e | _, u⟩
        · rw [missing] at first
          exact first
        · rw [missing] at first
          dsimp only
          rcases last : u.createUnlessThere p with e | v
          · exact first
          · exact first.trans ((find_createUnlessThere last).1.mono here)
      | _ =>
        dsimp only
        split <;> exact .refl t
    · exact (find_createDirectory done).1.mono here

/-- Directories are there in the end if the last one can be made, if it can be made after those above it, or if it is
there already. -/
theorem createDirectories_eq_ok {parent : Path} {others : List Path} :
    t.createDirectories p (parent :: others) = (.ok (), t') ↔
      t.createDirectory p = .ok t' ∨
        (t.createDirectory p = .error .notFound ∧
          ∃ u, t.createDirectories parent others = (.ok (), u) ∧ u.createUnlessThere p = .ok t') ∨
        ∃ e, t.createDirectory p = .error e ∧ e ≠ .notFound ∧ t.isDirectory p = true ∧ t' = t := by
  rw [createDirectories]
  rcases t.createDirectory p with e | u
  · by_cases absent : e = .notFound
    · subst absent
      rcases t.createDirectories parent others with ⟨e | _, u⟩
      · simp
      · dsimp only
        cases made : u.createUnlessThere p with
        | error e => simp [made]
        | ok v => simp [made]
    · by_cases there : t.isDirectory p = true
      · simp [absent, there, eq_comm]
      · simp [absent, there]
  · simp

/-- A path whose directories are made is found. -/
theorem find_createDirectories {parent : Path} {others : List Path}
    (made : t.createDirectories p (parent :: others) = (.ok (), t')) : ∃ l, t'.find p = .ok (l, .directory) := by
  rcases createDirectories_eq_ok.1 made with last | ⟨_, u, _, last⟩ | ⟨e, _, _, there, rfl⟩
  · exact (find_createDirectory last).2
  · exact (find_createUnlessThere last).2
  · exact isDirectory_eq_true.1 there

theorem makes_createAll (t : Tree) (p : Path) : Makes (p :: p.ancestors) t (t.createAll p).2 := by
  unfold createAll
  split
  · exact .refl t
  · exact makes_createDirectories t p p.ancestors

/-- Directories that are made are not made again, as long as they stay. -/
theorem createAll_of_made {u : Tree} (made : t.createAll p = (.ok (), t'))
    (kept : ∀ l, t'.node? l = some .directory → u.node? l = some .directory)
    (start : u.workingDirectory = t'.workingDirectory) : u.createAll p = (.ok (), u) := by
  unfold createAll at made ⊢
  by_cases blank : p.text = ""
  · rw [if_pos blank]
  · rw [if_neg blank] at made ⊢
    cases above : p.ancestors with
    | nil => rfl
    | cons parent others =>
      rw [above] at made
      obtain ⟨l, found⟩ := find_createDirectories made
      have there := find_of_directories kept start found (kept l (find_eq_ok.1 found).2.2)
      refine createDirectories_eq_ok.2 (.inr (.inr ⟨.exists, createDirectory_of_find there, nofun, ?_, rfl⟩))
      exact isDirectory_eq_true.2 ⟨l, there⟩

theorem extends_createAll (t : Tree) (p : Path) : Extends t (t.createAll p).2 := (makes_createAll t p).toExtends

end MachineOperator.File.Tree
