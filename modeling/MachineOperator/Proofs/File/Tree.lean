import MachineOperator.File.Tree
import MachineOperator.Proofs.Result

/-!
What is written to a file is read from it. A path leads to the same location as long as the directories on its way stay,
and a new file takes no directory's place.
-/
namespace MachineOperator.File.Tree
variable {t t' : Tree} {p : Path} {here l : Location}

theorem expectDirectory_eq_ok {u : Unit} : t.expectDirectory l = .ok u ↔ t.node? l = some .directory := by
  unfold expectDirectory
  split
  · next there => simp [there]
  · next there => simp [there]
  · next there => simp [there]

theorem start_congr (same : t'.workingDirectory = t.workingDirectory) (p : Path) : t'.start p = t.start p := by
  rw [File.Tree.start, File.Tree.start, same]

theorem ne_of_directory {k : Location} (there : t.node? k = some .directory) (free : t.node? l ≠ some .directory) :
    k ≠ l := by
  rintro rfl
  exact free there

/-- Whether a name leads anywhere else. -/
def moves (name : String) : Bool := name ≠ "" && name ≠ "."

theorem moves_eq_false {name : String} : moves name = false ↔ name = "" ∨ name = "." := by
  simp [moves, Decidable.imp_iff_not_or]

/-- Where a name leads from a directory. -/
def onward (here : Location) (name : String) : Location :=
  if moves name = false then here else if name = ".." then here.dropLast else here ++ [name]

theorem short_of_not_moves {name : String} (stays : moves name = false) : name.utf8ByteSize ≤ longestName := by
  rcases moves_eq_false.1 stays with rfl | rfl <;> decide

/-- One name is followed from a directory, unless it is too long for one. -/
theorem follow_cons (t : Tree) (here : Location) (name : String) (names : List String) :
    t.follow here (name :: names) = t.expectDirectory here >>= fun _ =>
      if longestName < name.utf8ByteSize then .error .nameTooLong else t.follow (onward here name) names := by
  rw [follow]
  cases t.expectDirectory here with
  | error e => rfl
  | ok u =>
    simp only [bind_ok, onward, moves_eq_false, Bool.or_eq_true, decide_eq_true_eq]
    by_cases stays : name = "" ∨ name = "."
    · rw [if_pos stays, if_pos stays, if_neg (Nat.not_lt.2 (short_of_not_moves (moves_eq_false.2 stays)))]
    · rw [if_neg stays, if_neg stays]
      by_cases up : name = ".."
      · subst up
        rfl
      · rw [if_neg up, if_neg up]

theorem follow_cons_eq_ok {name : String} {names : List String} :
    t.follow here (name :: names) = .ok l ↔
      t.node? here = some .directory ∧ name.utf8ByteSize ≤ longestName ∧
        t.follow (onward here name) names = .ok l := by
  rw [follow_cons, bind_eq_ok]
  constructor
  · rintro ⟨u, there, followed⟩
    by_cases long : longestName < name.utf8ByteSize
    · rw [if_pos long] at followed
      cases followed
    · rw [if_neg long] at followed
      exact ⟨expectDirectory_eq_ok.1 there, Nat.not_lt.1 long, followed⟩
  · rintro ⟨there, short, followed⟩
    exact ⟨(), expectDirectory_eq_ok.2 there, (if_neg (Nat.not_lt.2 short)).trans followed⟩

theorem follow_append (t : Tree) (here : Location) (names others : List String) :
    t.follow here (names ++ others) = t.follow here names >>= fun l => t.follow l others := by
  induction names generalizing here with
  | nil => rfl
  | cons name r ih =>
    rw [List.cons_append, follow_cons, follow_cons]
    cases t.expectDirectory here with
    | error e => rfl
    | ok u =>
      simp only [bind_ok]
      split
      · rfl
      · exact ih (onward here name)

theorem follow_append_eq_ok {names others : List String} :
    t.follow here (names ++ others) = .ok l ↔ ∃ k, t.follow here names = .ok k ∧ t.follow k others = .ok l := by
  rw [follow_append]
  exact bind_eq_ok

/-- Whatever tree it is in, the names alone say where they lead. -/
theorem eq_of_follow {names : List String} (followed : t.follow here names = .ok l) : l = names.foldl onward here := by
  induction names generalizing here with
  | nil =>
    cases followed
    rfl
  | cons name r ih =>
    obtain ⟨_, _, rest⟩ := follow_cons_eq_ok.1 followed
    exact ih rest

/-- A way that ends in a directory starts in one. -/
theorem directory_of_follow {names : List String} (followed : t.follow here names = .ok l)
    (last : t.node? l = some .directory) : t.node? here = some .directory := by
  cases names with
  | nil =>
    cases followed
    exact last
  | cons name r => exact (follow_cons_eq_ok.1 followed).1

/-- A tree that keeps the directories of another leads to the same locations. -/
theorem follow_of_directories (kept : ∀ l, t.node? l = some .directory → t'.node? l = some .directory)
    {names : List String} (followed : t.follow here names = .ok l) : t'.follow here names = .ok l := by
  induction names generalizing here with
  | nil => exact followed
  | cons name r ih =>
    obtain ⟨there, short, rest⟩ := follow_cons_eq_ok.1 followed
    exact follow_cons_eq_ok.2 ⟨kept here there, short, ih rest⟩

/-- On the way to a directory the names that lead nowhere else say nothing. -/
theorem follow_filter (names : List String) (last : t.node? l = some .directory) :
    t.follow here (names.filter moves) = .ok l ↔ t.follow here names = .ok l := by
  induction names generalizing here with
  | nil => rfl
  | cons name r ih =>
    cases goes : moves name with
    | true => rw [List.filter_cons_of_pos goes, follow_cons_eq_ok, follow_cons_eq_ok, ih]
    | false =>
      have back : onward here name = here := if_pos goes
      rw [List.filter_cons_of_neg (by simp [goes]), follow_cons_eq_ok, back, ih]
      constructor
      · intro followed
        exact ⟨directory_of_follow followed last, short_of_not_moves goes, followed⟩
      · rintro ⟨_, _, followed⟩
        exact followed

theorem find_eq_ok {n : Node} :
    t.find p = .ok (l, n) ↔ check p = .ok () ∧ t.follow (t.start p) p.parts = .ok l ∧ t.node? l = some n := by
  unfold find
  constructor
  · intro found
    obtain ⟨_, valid, found⟩ := bind_eq_ok.1 found
    obtain ⟨k, followed, found⟩ := bind_eq_ok.1 found
    cases there : t.node? k with
    | none =>
      rw [there] at found
      cases found
    | some n' =>
      rw [there] at found
      cases found
      exact ⟨valid, followed, there⟩
  · rintro ⟨valid, followed, there⟩
    rw [valid, bind_ok, followed, bind_ok, there]
    rfl

/-- What a path leads to is found as long as it stays and the directories do. -/
theorem find_of_directories {n : Node} (kept : ∀ l, t.node? l = some .directory → t'.node? l = some .directory)
    (start : t'.workingDirectory = t.workingDirectory) (found : t.find p = .ok (l, n)) (there : t'.node? l = some n) :
    t'.find p = .ok (l, n) := by
  obtain ⟨valid, followed, _⟩ := find_eq_ok.1 found
  rw [← start_congr start] at followed
  exact find_eq_ok.2 ⟨valid, follow_of_directories kept followed, there⟩

theorem read_eq_ok {data : ByteArray} : t.read p = .ok data ↔ ∃ l, t.find p = .ok (l, .file data) := by
  unfold read
  constructor
  · intro held
    obtain ⟨⟨l, n⟩, found, held⟩ := bind_eq_ok.1 held
    cases n with
    | file data' =>
      cases held
      exact ⟨l, found⟩
    | directory => cases held
  · rintro ⟨l, found⟩
    rw [found]
    rfl

theorem node?_put_self (t : Tree) (above : Location) (name : String) (n : Node) :
    (t.put (above ++ [name]) n).node? (above ++ [name]) = some n := by
  obtain ⟨first, rest, same⟩ : ∃ first rest, above ++ [name] = first :: rest := by
    cases above with
    | nil => exact ⟨_, _, rfl⟩
    | cons first rest => exact ⟨_, _, rfl⟩
  rw [same]
  exact Dict.get?_insert_self t.nodes (first :: rest) n

theorem node?_put_of_ne {other : Location} (apart : other ≠ l) (n : Node) :
    (t.put l n).node? other = t.node? other := by
  cases other with
  | nil => rfl
  | cons first rest =>
    refine (Dict.get?_insert t.nodes l (first :: rest) n).trans ?_
    rw [if_neg apart]
    rfl

/-- Blank parts come off a list of parts until one is left that is not blank. -/
theorem exists_blanks (parts : List String) :
    ∃ k, parts = List.replicate k "" ++ parts.dropWhile (· = "") ∧ (parts.head? ≠ some "" → k = 0) ∧
      ∀ last others, parts.dropWhile (· = "") = last :: others → last ≠ "" := by
  induction parts with
  | nil => exact ⟨0, rfl, fun _ => rfl, nofun⟩
  | cons part r ih =>
    by_cases blank : part = ""
    · subst blank
      obtain ⟨k, whole, _, filled⟩ := ih
      have same : ("" :: r).dropWhile (· = "") = r.dropWhile (· = "") := rfl
      rw [same]
      exact ⟨k + 1, congrArg ("" :: ·) whole, fun unlike => absurd rfl unlike, filled⟩
    · have same : (part :: r).dropWhile (· = "") = part :: r := by simp [blank]
      rw [same]
      refine ⟨0, rfl, fun _ => rfl, ?_⟩
      intro last others here
      cases here
      exact blank

/-- After the last name of a path there are only slashes. -/
theorem parts_of_splitLast {parts before : List String} {name : String} {slashes : Bool}
    (split : splitLast parts = (before, some name, slashes)) :
    ∃ k, parts = before ++ name :: List.replicate k "" ∧ name ≠ "" ∧ (slashes = false → k = 0) := by
  obtain ⟨k, whole, noSlash, filled⟩ := exists_blanks parts.reverse
  unfold splitLast at split
  cases left : parts.reverse.dropWhile (· = "") with
  | nil =>
    rw [left] at split
    cases split
  | cons last r =>
    rw [left] at split whole
    cases split
    refine ⟨k, ?_, filled _ _ left, ?_⟩
    · rw [← List.reverse_inj, whole]
      simp
    · intro ended
      apply noSlash
      rw [List.head?_reverse]
      simpa using ended

/-- A path without a name of its own consists of slashes. -/
theorem blank_of_splitLast {parts before : List String} {slashes : Bool}
    (split : splitLast parts = (before, none, slashes)) : before = [] ∧ parts = List.replicate parts.length "" := by
  obtain ⟨k, whole, _, _⟩ := exists_blanks parts.reverse
  unfold splitLast at split
  cases left : parts.reverse.dropWhile (· = "") with
  | nil =>
    rw [left] at split whole
    cases split
    have blanks : parts = List.replicate k "" := by
      rw [← List.reverse_inj, whole]
      simp
    refine ⟨rfl, ?_⟩
    rw [blanks, List.length_replicate]
  | cons last r =>
    rw [left] at split
    cases split

theorem splitLast_concat {name : String} (before : List String) (filled : name ≠ "") :
    splitLast (before ++ [name]) = (before, some name, false) := by
  simp [splitLast, filled]

theorem onward_of_name {name : String} (named : name ≠ "" ∧ name ≠ "." ∧ name ≠ "..") :
    onward here name = here ++ [name] := by
  have goes : ¬moves name = false := by
    intro stays
    rcases moves_eq_false.1 stays with empty | dot
    · exact named.1 empty
    · exact named.2.1 dot
  rw [onward, if_neg goes, if_neg named.2.2]

/-- Where something new at a path is: under a name in a directory. Slashes can follow the name. -/
structure Place (t : Tree) (p : Path) (slashes : Nat) (above : Location) (name : String) : Prop where
  valid : check p = .ok ()
  way : ∃ before, p.parts = before ++ name :: List.replicate slashes "" ∧ t.follow (t.start p) before = .ok above
  inside : t.node? above = some .directory
  named : name ≠ "" ∧ name ≠ "." ∧ name ≠ ".."
  short : name.utf8ByteSize ≤ longestName

variable {above : Location} {name : String} {slashes : Nat}

theorem place_of_findPlace {ended : Bool} (placed : t.findPlace p = .ok (above, some name, ended))
    (short : name.utf8ByteSize ≤ longestName) :
    ∃ slashes, t.Place p slashes above name ∧ (ended = false → slashes = 0) := by
  unfold findPlace at placed
  obtain ⟨_, valid, placed⟩ := bind_eq_ok.1 placed
  obtain ⟨above', followed, placed⟩ := bind_eq_ok.1 placed
  obtain ⟨_, inside, placed⟩ := bind_eq_ok.1 placed
  simp only [pure, Except.pure, Except.ok.injEq, Prod.mk.injEq] at placed
  obtain ⟨rfl, kept, rfl⟩ := placed
  obtain ⟨there, proper⟩ := Option.filter_eq_some_iff.1 kept
  obtain ⟨slashes, whole, filled, ended⟩ := parts_of_splitLast (Prod.ext rfl (Prod.ext there rfl))
  have named : name ≠ "." ∧ name ≠ ".." := by simpa using proper
  exact ⟨slashes, ⟨valid, ⟨_, whole, followed⟩, expectDirectory_eq_ok.1 inside, ⟨filled, named⟩, short⟩, ended⟩

/-- The path of something new leads to it. -/
theorem Place.find {n : Node} (place : t.Place p slashes above name)
    (kept : ∀ l, t.node? l = some .directory → t'.node? l = some .directory)
    (start : t'.workingDirectory = t.workingDirectory) (there : t'.node? (above ++ [name]) = some n)
    (fits : slashes = 0 ∨ n = .directory) : t'.find p = .ok (above ++ [name], n) := by
  obtain ⟨before, whole, followed⟩ := place.way
  have ended : t'.follow (above ++ [name]) (List.replicate slashes "") = .ok (above ++ [name]) := by
    rcases fits with rfl | rfl
    · rfl
    · apply (follow_filter _ there).1
      rw [List.filter_replicate_of_neg (by decide)]
      rfl
  refine find_eq_ok.2 ⟨place.valid, ?_, there⟩
  rw [whole, start_congr start]
  refine follow_append_eq_ok.2 ⟨above, follow_of_directories kept followed, ?_⟩
  refine follow_cons_eq_ok.2 ⟨kept above place.inside, place.short, ?_⟩
  rw [onward_of_name place.named]
  exact ended

/-- A file is new, or takes the place of a file. -/
theorem findFile_eq_ok :
    t.findFile p = .ok l ↔
      ∃ above name, t.Place p 0 above name ∧ t.node? (above ++ [name]) ≠ some .directory ∧ l = above ++ [name] := by
  unfold findFile
  constructor
  · intro found
    obtain ⟨⟨above, last, ended⟩, placed, found⟩ := bind_eq_ok.1 found
    split at found
    · next name same =>
      cases same
      by_cases long : longestName < name.utf8ByteSize
      · rw [if_pos long] at found
        cases found
      · rw [if_neg long] at found
        obtain ⟨slashes, place, none_left⟩ := place_of_findPlace placed (Nat.not_lt.1 long)
        rw [none_left rfl] at place
        dsimp only at found
        split at found
        · cases found
        · next free =>
          cases found
          exact ⟨above, name, place, free, rfl⟩
    · cases found
  · rintro ⟨above, name, place, free, rfl⟩
    obtain ⟨before, whole, followed⟩ := place.way
    have there : t.expectDirectory above = .ok () := expectDirectory_eq_ok.2 place.inside
    have placed : t.findPlace p = .ok (above, some name, false) := by
      rw [findPlace, place.valid, bind_ok, whole, List.replicate_zero, splitLast_concat before place.named.1]
      dsimp only
      rw [followed, bind_ok, there, bind_ok]
      simp [place.named.2.1, place.named.2.2, pure, Except.pure]
    rw [placed, bind_ok]
    dsimp only
    rw [if_neg (Nat.not_lt.2 place.short)]
    split
    · next taken => exact absurd taken free
    · rfl

/-- A new file takes no directory's place. -/
theorem node?_put_file {data : ByteArray} (free : t.node? (above ++ [name]) ≠ some .directory)
    (there : t.node? l = some .directory) : (t.put (above ++ [name]) (.file data)).node? l = some .directory := by
  rw [node?_put_of_ne (ne_of_directory there free), there]

theorem write_eq_ok {data : ByteArray} :
    t.write p data = .ok t' ↔
      ∃ above name, t.Place p 0 above name ∧ t.node? (above ++ [name]) ≠ some .directory ∧
        t' = t.put (above ++ [name]) (.file data) := by
  unfold write
  constructor
  · intro written
    obtain ⟨l, found, put⟩ := bind_eq_ok.1 written
    obtain ⟨above, name, place, free, rfl⟩ := findFile_eq_ok.1 found
    cases put
    exact ⟨above, name, place, free, rfl⟩
  · rintro ⟨above, name, place, free, rfl⟩
    rw [findFile_eq_ok.2 ⟨above, name, place, free, rfl⟩]
    rfl

/-- What is written is read. -/
theorem read_write {data : ByteArray} (written : t.write p data = .ok t') : t'.read p = .ok data := by
  obtain ⟨above, name, place, free, rfl⟩ := write_eq_ok.1 written
  have there := node?_put_self t above name (.file data)
  exact read_eq_ok.2 ⟨above ++ [name], place.find (fun _ => node?_put_file free) rfl there (.inl rfl)⟩

/-- Writing goes wrong only where a place for the file is looked for. -/
theorem error?_write (t : Tree) (p : Path) (data : ByteArray) : error? (t.write p data) = error? (t.findFile p) := by
  unfold write
  cases t.findFile p <;> rfl

end MachineOperator.File.Tree
