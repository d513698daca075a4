import MachineOperator.Proofs.File.Alike
import MachineOperator.Proofs.OutputDirectory
import Mathlib.Data.List.Induction

/-!
Writing several files. They are written one after another, so that of those whose paths lead to the same place the last
one stays. One that cannot be written ends the series, and the earlier ones are then written as if they were all.
-/
namespace MachineOperator

namespace File.Tree
variable {t u : Tree} {p : Path} {l k : Location}

/-- Whether a path leads to a location. -/
def leadsTo (t : Tree) (l : Location) (p : Path) : Bool :=
  match t.find p with
  | .ok (k, _) => k = l
  | .error _ => false

theorem leadsTo_of_find {n : Node} (found : t.find p = .ok (k, n)) : t.leadsTo l p = decide (k = l) := by
  rw [leadsTo, found]

theorem leadsTo_eq_true : t.leadsTo l p = true ↔ ∃ n, t.find p = .ok (l, n) := by
  unfold leadsTo
  rcases t.find p with e | ⟨k, n⟩ <;> simp

/-- A path that leads somewhere leads there also when one file is changed. -/
theorem AlikeBut.leads (alike : AlikeBut l t u) {n m : Node} (there : u.node? l = some m)
    (found : t.find p = .ok (k, n)) : ∃ n', u.find p = .ok (k, n') := by
  by_cases same : k = l
  · subst same
    obtain ⟨valid, followed, _⟩ := find_eq_ok.1 found
    rw [← start_congr alike.start] at followed
    exact ⟨m, find_eq_ok.2 ⟨valid, follow_of_directories alike.kept followed, there⟩⟩
  · exact ⟨n, alike.find found same⟩

end File.Tree

namespace OutputDirectory
open File (Tree Location)

variable {w w' : World} {d : OutputDirectory} {files : List AssetFile} {t u v : Tree}

/-- The path that a file is written to. -/
def pathOf (d : OutputDirectory) (f : AssetFile) : File.Path := d.path.join f.filename

/-- The last of some files whose path leads to a location. -/
def lastAt (d : OutputDirectory) (t : Tree) (l : Location) (files : List AssetFile) : Option AssetFile :=
  (files.filter fun f => t.leadsTo l (d.pathOf f)).getLast?

/-- A file that no later one is written over is the last at its location. -/
theorem lastAt_eq_some {before after : List AssetFile} {f : AssetFile} {l : Location}
    (leads : t.leadsTo l (d.pathOf f)) (alone : ∀ g ∈ after, ¬t.leadsTo l (d.pathOf g)) :
    d.lastAt t l (before ++ f :: after) = some f := by
  have none_after : after.filter (fun g => t.leadsTo l (d.pathOf g)) = [] := List.filter_eq_nil_iff.2 alone
  simp [lastAt, leads, none_after]

theorem lastAt_concat (d : OutputDirectory) (t : Tree) (l : Location) (files : List AssetFile) (f : AssetFile) :
    d.lastAt t l (files ++ [f]) = if t.leadsTo l (d.pathOf f) then some f else d.lastAt t l files := by
  rw [lastAt, List.filter_append]
  cases leads : t.leadsTo l (d.pathOf f) <;> simp [lastAt, leads]

/-- What a tree holds after files are written into it: where paths lead, the file that was last, and elsewhere what was
there before. -/
structure Holds (d : OutputDirectory) (files : List AssetFile) (t v : Tree) : Prop where
  start : v.workingDirectory = t.workingDirectory
  kept : ∀ l, t.node? l = some .directory → v.node? l = some .directory
  found : ∀ f ∈ files, ∃ l n, v.find (d.pathOf f) = .ok (l, n)
  node : ∀ l, v.node? l = ((d.lastAt v l files).map fun f => .file f.data).or (t.node? l)

namespace Holds

theorem nil (t : Tree) : d.Holds [] t t where
  start := rfl
  kept _ there := there
  found := nofun
  node _ := rfl

/-- One file more. -/
theorem write {f : AssetFile} (holds : d.Holds files t u) (written : u.write (d.pathOf f) f.data = .ok v) :
    d.Holds (files ++ [f]) t v := by
  obtain ⟨l, here, alike⟩ := Tree.alike_write written
  have there : v.node? l = some (.file f.data) := (Tree.find_eq_ok.1 here).2.2
  -- The earlier paths lead where they led before.
  have leads : ∀ g ∈ files, ∀ k, v.leadsTo k (d.pathOf g) = u.leadsTo k (d.pathOf g) := by
    intro g member k
    obtain ⟨x, n, before⟩ := holds.found g member
    obtain ⟨n', after⟩ := alike.leads there before
    rw [Tree.leadsTo_of_find before, Tree.leadsTo_of_find after]
  have last (k : Location) : d.lastAt v k files = d.lastAt u k files := by
    rw [lastAt, lastAt, List.filter_congr fun g member => leads g member k]
  refine ⟨alike.start.trans holds.start, fun k inside => alike.kept k (holds.kept k inside), ?_, ?_⟩
  · intro g member
    rcases List.mem_append.1 member with earlier | new
    · obtain ⟨x, n, before⟩ := holds.found g earlier
      obtain ⟨n', after⟩ := alike.leads there before
      exact ⟨x, n', after⟩
    · cases List.mem_singleton.1 new
      exact ⟨l, _, here⟩
  · intro k
    rw [lastAt_concat, Tree.leadsTo_of_find here, last]
    by_cases same : l = k
    · subst same
      simpa using there
    · rw [alike.node?_eq (Ne.symm same), holds.node k]
      simp [same]

/-- Every path leads to the file that was last of those whose paths lead to the same location. -/
theorem exists_lastAt (holds : d.Holds files t v) {f : AssetFile} (member : f ∈ files) :
    ∃ l g, v.find (d.pathOf f) = .ok (l, .file g.data) ∧ d.lastAt v l files = some g := by
  obtain ⟨l, n, found⟩ := holds.found f member
  have some_last : d.lastAt v l files ≠ none := by
    rw [lastAt, Ne, List.getLast?_eq_none_iff, List.filter_eq_nil_iff]
    exact fun none_leads => none_leads f member (Tree.leadsTo_eq_true.2 ⟨n, found⟩)
  obtain ⟨g, last⟩ := Option.ne_none_iff_exists'.1 some_last
  have there := (Tree.find_eq_ok.1 found).2.2
  rw [holds.node l, last] at there
  cases there
  exact ⟨l, g, found, last⟩

end Holds

/-- One file more is written once the others are. -/
theorem runFrom_mapM_concat (w : World) (d : OutputDirectory) (files : List AssetFile) (f : AssetFile) :
    runFrom w ((files ++ [f]).mapM d.writeFile) =
      match runFrom w (files.mapM d.writeFile) with
      | (.error e, u) => (.error e, u)
      | (.ok paths, u) =>
        match runFrom u (d.writeFile f) with
        | (.error e, v) => (.error e, v)
        | (.ok path, v) => (.ok (paths ++ [path]), v) := by
  rw [List.mapM_append, runFrom_bind]
  rcases runFrom w (files.mapM d.writeFile) with ⟨e | paths, u⟩
  · rfl
  · dsimp only
    rw [List.mapM_cons, List.mapM_nil, runFrom_bind, runFrom_bind]
    rcases runFrom u (d.writeFile f) with ⟨e | path, v⟩ <;> rfl

theorem runFrom_writeFile_eq_ok {f : AssetFile} {path : File.Path} (done : runFrom w (d.writeFile f) = (.ok path, w')) :
    path = d.pathOf f ∧ w.files.write (d.pathOf f) f.data = .ok w'.files := by
  rw [runFrom_writeFile] at done
  rcases written : w.files.write (d.path.join f.filename) f.data with cause | files
  · rw [written] at done
    cases done
  · rw [written] at done
    cases done
    exact ⟨rfl, written⟩

theorem runFrom_writeFile_eq_error {f : AssetFile} {e : WriteError} (failed : runFrom w (d.writeFile f) = (.error e, w')) :
    w' = w ∧ ∃ cause, e = .file (d.pathOf f) cause ∧ w.files.write (d.pathOf f) f.data = .error cause := by
  rw [runFrom_writeFile] at failed
  rcases written : w.files.write (d.path.join f.filename) f.data with cause | files
  · rw [written] at failed
    cases failed
    exact ⟨rfl, cause, rfl, written⟩
  · rw [written] at failed
    cases failed

/-- Files that are written are held. -/
theorem holds_of_mapM {paths : List File.Path} (done : runFrom w (files.mapM d.writeFile) = (.ok paths, w')) :
    paths = files.map d.pathOf ∧ d.Holds files w.files w'.files := by
  induction files using List.reverseRecOn generalizing paths w' with
  | nil =>
    cases done
    exact ⟨rfl, .nil _⟩
  | append_singleton files f ih =>
    rw [runFrom_mapM_concat] at done
    rcases before : runFrom w (files.mapM d.writeFile) with ⟨e | earlier, u⟩
    · rw [before] at done
      cases done
    · rw [before] at done
      rcases last : runFrom u (d.writeFile f) with ⟨e | path, v⟩
      · simp [last] at done
      · simp only [last] at done
        cases done
        obtain ⟨rfl, holds⟩ := ih before
        obtain ⟨rfl, written⟩ := runFrom_writeFile_eq_ok last
        exact ⟨by simp, holds.write written⟩

/-- The first file that cannot be written is reported, and all is as if there were only those before it. -/
theorem first_of_mapM {e : WriteError} (failed : runFrom w (files.mapM d.writeFile) = (.error e, w')) :
    ∃ before f after cause, files = before ++ f :: after ∧ e = .file (d.pathOf f) cause ∧
      w'.files.write (d.pathOf f) f.data = .error cause ∧
      runFrom w (before.mapM d.writeFile) = (.ok (before.map d.pathOf), w') := by
  induction files using List.reverseRecOn generalizing w' with
  | nil => cases failed
  | append_singleton files f ih =>
    rw [runFrom_mapM_concat] at failed
    rcases earlier : runFrom w (files.mapM d.writeFile) with ⟨e' | paths, u⟩
    · rw [earlier] at failed
      cases failed
      obtain ⟨before, g, after, cause, rfl, reported⟩ := ih earlier
      exact ⟨before, g, after ++ [f], cause, by simp, reported⟩
    · rw [earlier] at failed
      rcases last : runFrom u (d.writeFile f) with ⟨e' | path, v⟩
      · simp only [last] at failed
        cases failed
        obtain ⟨rfl, _⟩ := holds_of_mapM earlier
        obtain ⟨rfl, cause, rfl, refused⟩ := runFrom_writeFile_eq_error last
        exact ⟨files, f, [], cause, rfl, rfl, refused, earlier⟩
      · simp [last] at failed

/-- Files that are written into a directory are held, once that is made. -/
theorem holds_of_write {paths : List File.Path} (done : runFrom w (d.write files) = (.ok paths, w')) :
    paths = files.map d.pathOf ∧ d.Holds files (w.files.createAll d.path).2 w'.files := by
  rw [runFrom_write] at done
  rcases made : (w.files.createAll d.path).1 with cause | u
  · rw [made] at done
    cases done
  · rw [made] at done
    exact holds_of_mapM done

/-- Files are written in their order. When all are written, each path leads to the bytes of the last file whose path leads
to the same location, and all else is as it was, apart from directories that are new on the way to the output directory.
A file that cannot be written is reported, and everything is as if there were only the files before it; when the directory
cannot be made, no file is changed or added. -/
theorem write_in_order (w : World) (d : OutputDirectory) (files : List AssetFile) :
    match runFrom w (d.write files) with
    | (.ok paths, v) =>
      paths = files.map d.pathOf ∧ v.files.workingDirectory = w.files.workingDirectory ∧
        (∀ f ∈ files, ∃ l g, v.files.find (d.pathOf f) = .ok (l, .file g.data) ∧ d.lastAt v.files l files = some g) ∧
        ∀ l, d.lastAt v.files l files = none →
          v.files.node? l = w.files.node? l ∨ (w.files.node? l = none ∧ v.files.node? l = some .directory ∧
            ∃ names, names <+: d.path.parts ∧ v.files.follow (v.files.start d.path) names = .ok l)
    | (.error (.file path cause), v) =>
      ∃ before f after, files = before ++ f :: after ∧ path = d.pathOf f ∧ v.files.write path f.data = .error cause ∧
        runFrom w (d.write before) = (.ok (before.map d.pathOf), v)
    | (.error (.directory path cause), v) =>
      path = d.path ∧ (w.files.createAll d.path).1 = .error cause ∧
        ∀ l data, v.files.node? l = some (.file data) ↔ w.files.node? l = some (.file data) := by
  have makes := Tree.makes_createAll w.files d.path
  rcases made : (w.files.createAll d.path).1 with cause | u
  · rw [runFrom_write, made]
    exact ⟨rfl, rfl, fun l data => makes.file_iff⟩
  · have through (files : List AssetFile) :
        runFrom w (d.write files) = runFrom (making w d) (files.mapM d.writeFile) := by
      rw [runFrom_write, made]
    rcases done : runFrom w (d.write files) with ⟨e | paths, v⟩
    · rw [through] at done
      obtain ⟨before, f, after, cause, whole, rfl, refused, earlier⟩ := first_of_mapM done
      exact ⟨before, f, after, whole, rfl, refused, (through before).trans earlier⟩
    · obtain ⟨rfl, holds⟩ := holds_of_write done
      refine ⟨rfl, holds.start.trans makes.start, fun f member => holds.exists_lastAt member, ?_⟩
      intro l unused
      have same : v.files.node? l = (w.files.createAll d.path).2.node? l := by
        rw [holds.node l, unused]
        rfl
      rw [same]
      rcases Tree.node?_createAll w.files d.path l with before | ⟨free, new, names, first, led⟩
      · exact .inl before
      · refine .inr ⟨free, new, names, first, ?_⟩
        rw [Tree.start_congr holds.start]
        exact Tree.follow_of_directories holds.kept led

/-- A name and the same one after a dot lead to one file, which then holds what was written under the later one. -/
theorem write_in_order_sample :
    let w : World := .empty
    let d : OutputDirectory := ⟨⟨"o"⟩⟩
    let earlier : AssetFile := ⟨"a", "first".toUTF8⟩
    let later : AssetFile := ⟨"./a", "second".toUTF8⟩
    let after := runFrom w (d.write [earlier, later])
    after.1 = .ok [⟨"o/a"⟩, ⟨"o/./a"⟩] ∧
      (∃ l g, after.2.files.find (d.pathOf earlier) = .ok (l, .file g.data) ∧
        d.lastAt after.2.files l [earlier, later] = some g) ∧
      after.2.files.read ⟨"o/a"⟩ = .ok later.data := by
  intro w d earlier later after
  have paths : after.1 = .ok [⟨"o/a"⟩, ⟨"o/./a"⟩] := by decide +kernel
  have done : runFrom w (d.write [earlier, later]) = (.ok [⟨"o/a"⟩, ⟨"o/./a"⟩], after.2) := Prod.ext paths rfl
  have whole := write_in_order w d [earlier, later]
  rw [done] at whole
  obtain ⟨_, _, held, _⟩ := whole
  exact ⟨paths, held earlier List.mem_cons_self, by decide +kernel⟩

end OutputDirectory
end MachineOperator
