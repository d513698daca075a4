import MachineOperator.Proofs.File.Stops
import MachineOperator.Proofs.OutputDirectory.Written

/-!
Reading files back. A file that was written is fetched under its own name, unless a later one was written over it. What is
fetched under any name is what the path of that name leads to.
-/
namespace MachineOperator.OutputDirectory
variable {w : World} {d : OutputDirectory}

/-- What is fetched is what is read, under the name that was asked for. -/
theorem runFrom_fetch (w : World) (d : OutputDirectory) (name : String) :
    runFrom w (d.fetch name) =
      (match w.files.read (d.path.join name) with
        | .ok data => .ok (some ⟨name, data⟩)
        | .error .notFound => .ok none
        | .error cause => .error (.unreadable (d.path.join name) cause), w) := by
  unfold fetch
  rw [runFrom_bind, runFrom_lift, World.run_read]
  rcases w.files.read (d.path.join name) with cause | data
  · cases cause <;> rfl
  · rfl

theorem fetch_eq_some {name : String} {f : AssetFile} :
    (runFrom w (d.fetch name)).1 = .ok (some f) ↔
      f.filename = name ∧ ∃ l, w.files.find (d.path.join name) = .ok (l, .file f.data) := by
  rw [← File.Tree.read_eq_ok, runFrom_fetch]
  obtain ⟨filename, data⟩ := f
  split
  · next data' held => simp [held, eq_comm, and_comm]
  · next failed => simp [failed]
  · next failed => simp [failed]

theorem fetch_eq_none {name : String} :
    (runFrom w (d.fetch name)).1 = .ok none ↔ w.files.find (d.path.join name) = .error .notFound := by
  have failed : w.files.read (d.path.join name) = .error .notFound ↔ w.files.find (d.path.join name) = .error .notFound := by
    rw [File.Tree.read_eq_error]
    simp
  rw [← failed, runFrom_fetch]
  split
  · next held => simp [held]
  · next none_held => simp [none_held]
  · next other failed => simpa [failed] using other

theorem fetch_eq_error {name : String} {e : FetchError} :
    (runFrom w (d.fetch name)).1 = .error e ↔ ∃ cause, e = .unreadable (d.path.join name) cause ∧ cause ≠ .notFound ∧
      (w.files.find (d.path.join name) = .error cause ∨
        cause = .isDirectory ∧ ∃ l, w.files.find (d.path.join name) = .ok (l, .directory)) := by
  simp only [← File.Tree.read_eq_error, runFrom_fetch]
  split
  · next held => simp [held]
  · next none_held => simp [none_held]
  · next cause other failed =>
    constructor
    · intro same
      cases same
      exact ⟨cause, rfl, other, failed⟩
    · rintro ⟨cause', rfl, _, failed'⟩
      cases failed.symm.trans failed'
      rfl

/-- A path that goes on from a file is reported. -/
theorem fetch_beyond_file {name part : String} {before r : List String} {l : File.Location} {data : ByteArray}
    (valid : File.Tree.check (d.path.join name) = .ok ()) (whole : (d.path.join name).parts = before ++ part :: r)
    (led : w.files.follow (w.files.start (d.path.join name)) before = .ok l)
    (there : w.files.node? l = some (.file data)) :
    (runFrom w (d.fetch name)).1 = .error (.unreadable (d.path.join name) .notDirectory) := by
  have stopped := File.Tree.find_eq_error.2 (.inr ⟨valid, before, part :: r, l, whole, led, .file there⟩)
  exact fetch_eq_error.2 ⟨.notDirectory, rfl, nofun, .inl stopped⟩

/-- What is written is fetched, under its own name, unless a later path leads to the same location. Whatever name is asked
for, what its path leads to is fetched if that is a file, and nothing if nothing is there. Every other failure is reported
with the path, as for a directory and for a path that goes on from a file. -/
theorem fetch_written (d : OutputDirectory) :
    (∀ (w v : World) paths before f after, runFrom w (d.write (before ++ f :: after)) = (.ok paths, v) →
      (∀ g ∈ after, ∀ l, v.files.leadsTo l (d.pathOf f) → ¬v.files.leadsTo l (d.pathOf g)) →
      runFrom v (d.fetch f.filename) = (.ok (some f), v)) ∧
    ∀ (w : World) name, (runFrom w (d.fetch name)).2 = w ∧
      ((runFrom w (d.fetch name)).1 = .ok none ↔ w.files.find (d.path.join name) = .error .notFound) ∧
      (∀ f, (runFrom w (d.fetch name)).1 = .ok (some f) ↔
        f.filename = name ∧ ∃ l, w.files.find (d.path.join name) = .ok (l, .file f.data)) ∧
      (∀ e, (runFrom w (d.fetch name)).1 = .error e ↔
        ∃ cause, e = .unreadable (d.path.join name) cause ∧ cause ≠ .notFound ∧
          (w.files.find (d.path.join name) = .error cause ∨
            cause = .isDirectory ∧ ∃ l, w.files.find (d.path.join name) = .ok (l, .directory))) ∧
      ∀ before part r l data, File.Tree.check (d.path.join name) = .ok () →
        (d.path.join name).parts = before ++ part :: r →
        w.files.follow (w.files.start (d.path.join name)) before = .ok l → w.files.node? l = some (.file data) →
        (runFrom w (d.fetch name)).1 = .error (.unreadable (d.path.join name) .notDirectory) := by
  refine ⟨?_, fun w name => ⟨?_, fetch_eq_none, fun f => fetch_eq_some, fun e => fetch_eq_error, ?_⟩⟩
  · intro w v paths before f after done alone
    obtain ⟨_, holds⟩ := holds_of_write done
    obtain ⟨l, g, found, last⟩ := holds.exists_lastAt (f := f) (by simp)
    have leads := File.Tree.leadsTo_eq_true.2 ⟨_, found⟩
    cases (lastAt_eq_some leads fun g member => alone g member l leads).symm.trans last
    have held : v.files.read (d.path.join f.filename) = .ok f.data := File.Tree.read_eq_ok.2 ⟨l, found⟩
    rw [runFrom_fetch, held]
  · rw [runFrom_fetch]
  · intro before part r l data valid whole led there
    exact fetch_beyond_file valid whole led there

/-- The second of two files at one place is fetched, and a third one elsewhere changes nothing about that. -/
theorem fetch_written_sample :
    let w : World := .empty
    let d : OutputDirectory := ⟨⟨"o"⟩⟩
    let f : AssetFile := ⟨"./a", "second".toUTF8⟩
    let after := runFrom w (d.write [⟨"a", "first".toUTF8⟩, f, ⟨"b", "third".toUTF8⟩])
    after.1 = .ok [⟨"o/a"⟩, ⟨"o/./a"⟩, ⟨"o/b"⟩] ∧ runFrom after.2 (d.fetch "./a") = (.ok (some f), after.2) ∧
      (runFrom after.2 (d.fetch "a/b")).1 = .error (.unreadable (d.path.join "a/b") .notDirectory) := by
  intro w d f after
  have paths : after.1 = .ok [⟨"o/a"⟩, ⟨"o/./a"⟩, ⟨"o/b"⟩] := by decide +kernel
  have here : after.2.files.find (d.pathOf f) = .ok (["o", "a"], .file f.data) := by decide +kernel
  have there : after.2.files.find (d.pathOf ⟨"b", "third".toUTF8⟩) = .ok (["o", "b"], .file "third".toUTF8) := by
    decide +kernel
  obtain ⟨fetched, _⟩ := fetch_written d
  refine ⟨paths, ?_, ?_⟩
  · apply fetched w after.2 _ [⟨"a", "first".toUTF8⟩] f [⟨"b", "third".toUTF8⟩] (Prod.ext paths rfl)
    intro g member l leads
    cases List.mem_singleton.1 member
    rw [File.Tree.leadsTo_of_find here, decide_eq_true_eq] at leads
    cases leads
    rw [File.Tree.leadsTo_of_find there]
    decide
  · obtain ⟨_, _, _, _, beyond⟩ := (fetch_written d).2 after.2 "a/b"
    exact beyond ["o", "a"] "b" [] ["o", "a"] "second".toUTF8 (by decide +kernel) (by decide +kernel) (by decide +kernel)
      (by decide +kernel)

end MachineOperator.OutputDirectory
