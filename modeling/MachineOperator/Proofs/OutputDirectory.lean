import MachineOperator.OutputDirectory
import MachineOperator.Proofs.File.Tree
import MachineOperator.Proofs.World

/-!
Writing generated files. The directory is made first, and a file that is written is reported with its size and digest.
-/
namespace MachineOperator.OutputDirectory
variable {w w' : World}

theorem runFrom_writeFile (w : World) (d : OutputDirectory) (f : AssetFile) :
    runFrom w (d.writeFile f) =
      match w.files.write (d.path.join f.filename) f.data with
      | .error cause => (.error (.file (d.path.join f.filename) cause), w)
      | .ok files => (.ok (d.path.join f.filename), { w with files }.reporting
          (.fileWritten (d.path.join f.filename) f.data.size (Digest.short f.digest))) := by
  unfold writeFile
  rw [runFrom_bind, runFrom_lift, World.run_write]
  cases w.files.write (d.path.join f.filename) f.data <;> rfl

/-- The world after the directory is made, as far as that went. -/
def making (w : World) (d : OutputDirectory) : World := { w with files := (w.files.createAll d.path).2 }

theorem runFrom_write (w : World) (d : OutputDirectory) (files : List AssetFile) :
    runFrom w (d.write files) =
      match (w.files.createAll d.path).1 with
      | .error cause => (.error (.directory d.path cause), making w d)
      | .ok () => runFrom (making w d) (files.mapM d.writeFile) := by
  unfold write
  rw [runFrom_bind, runFrom_lift, World.run_createAll]
  dsimp only [making]
  cases (w.files.createAll d.path).1 <;> rfl

/-- A single file is written into its directory, once that is made. -/
theorem runFrom_write_singleton (w : World) (d : OutputDirectory) (f : AssetFile) :
    runFrom w (d.write [f]) =
      match (w.files.createAll d.path).1 with
      | .error cause => (.error (.directory d.path cause), making w d)
      | .ok () =>
        match (making w d).files.write (d.path.join f.filename) f.data with
        | .error cause => (.error (.file (d.path.join f.filename) cause), making w d)
        | .ok files => (.ok [d.path.join f.filename], { w with files }.reporting
            (.fileWritten (d.path.join f.filename) f.data.size (Digest.short f.digest))) := by
  rw [runFrom_write]
  rcases (w.files.createAll d.path).1 with cause | u
  · rfl
  · dsimp only
    rw [List.mapM_cons, List.mapM_nil, runFrom_bind, runFrom_writeFile]
    cases (making w d).files.write (d.path.join f.filename) f.data <;> rfl

/-- A single file is written when its directory can be made and the file can be put into it. -/
theorem runFrom_write_singleton_eq_ok {d : OutputDirectory} {f : AssetFile} {paths : List File.Path} :
    runFrom w (d.write [f]) = (.ok paths, w') ↔
      ∃ files, (w.files.createAll d.path).1 = .ok () ∧
        (w.files.createAll d.path).2.write (d.path.join f.filename) f.data = .ok files ∧
        paths = [d.path.join f.filename] ∧
        w' = { w with files }.reporting
          (.fileWritten (d.path.join f.filename) f.data.size (Digest.short f.digest)) := by
  have same : (making w d).files = (w.files.createAll d.path).2 := rfl
  rw [runFrom_write_singleton, same]
  rcases (w.files.createAll d.path).1 with cause | u
  · simp
  · dsimp only
    rcases (w.files.createAll d.path).2.write (d.path.join f.filename) f.data with cause | files
    · simp
    · constructor
      · intro done
        cases done
        exact ⟨files, rfl, rfl, rfl, rfl⟩
      · rintro ⟨_, _, written, rfl, rfl⟩
        cases written
        rfl

/-- A single file is not written when there is no directory for it, or no place in that. -/
theorem error?_write (w : World) (d : OutputDirectory) (f : AssetFile) :
    error? (runFrom w (d.write [f])).1 =
      ((error? (w.files.createAll d.path).1).map (.directory d.path)).or
        ((error? ((w.files.createAll d.path).2.findFile (d.path.join f.filename))).map
          (.file (d.path.join f.filename))) := by
  have same : (making w d).files = (w.files.createAll d.path).2 := rfl
  have failed := File.Tree.error?_write (w.files.createAll d.path).2 (d.path.join f.filename) f.data
  rw [runFrom_write_singleton, same, ← failed]
  rcases (w.files.createAll d.path).1 with cause | u
  · rfl
  · dsimp only
    cases (w.files.createAll d.path).2.write (d.path.join f.filename) f.data <;> rfl

/-- A single file that is not written leaves the directory, as far as that is made. -/
theorem making_of_error {d : OutputDirectory} {f : AssetFile} {e : WriteError}
    (failed : runFrom w (d.write [f]) = (.error e, w')) : w' = making w d := by
  rw [runFrom_write_singleton] at failed
  rcases made : (w.files.createAll d.path).1 with cause | u
  · rw [made] at failed
    cases failed
    rfl
  · rw [made] at failed
    dsimp only at failed
    rcases written : (making w d).files.write (d.path.join f.filename) f.data with cause | files
    · rw [written] at failed
      cases failed
      rfl
    · rw [written] at failed
      cases failed

theorem requests_write (w : World) (d : OutputDirectory) (f : AssetFile) :
    (runFrom w (d.write [f])).2.requests = w.requests := by
  rw [runFrom_write_singleton]
  rcases (w.files.createAll d.path).1 with cause | u
  · rfl
  · dsimp only
    cases (making w d).files.write (d.path.join f.filename) f.data <;> rfl

/-- What comes of writing depends on the files alone. -/
theorem write_congr {v : World} (same : v.files = w.files) (d : OutputDirectory) (f : AssetFile) :
    (runFrom v (d.write [f])).1 = (runFrom w (d.write [f])).1 ∧
      (runFrom v (d.write [f])).2.files = (runFrom w (d.write [f])).2.files := by
  have made : (making v d).files = (making w d).files := by rw [making, making, same]
  rw [runFrom_write_singleton, runFrom_write_singleton, made, same]
  rcases (w.files.createAll d.path).1 with cause | u
  · exact ⟨rfl, made⟩
  · dsimp only
    rcases (making w d).files.write (d.path.join f.filename) f.data with cause | files
    · exact ⟨rfl, made⟩
    · exact ⟨rfl, rfl⟩

end MachineOperator.OutputDirectory
