import MachineOperator.Proofs.OutputDirectory.Written

/-!
What is reported of files that are written: for each of them, in their order, its path, its size and its digest. Of a file
that cannot be written nothing is reported, and of none after it.
-/
namespace MachineOperator.OutputDirectory
variable {w w' : World} {d : OutputDirectory} {files : List AssetFile}

/-- What is reported of a file once it is written. -/
def written (d : OutputDirectory) (f : AssetFile) : Event := .fileWritten (d.pathOf f) f.data.size (Digest.short f.digest)

theorem events_of_writeFile {f : AssetFile} {path : File.Path} (done : runFrom w (d.writeFile f) = (.ok path, w')) :
    w'.events = w.events ++ [d.written f] := by
  rw [runFrom_writeFile] at done
  rcases put : w.files.write (d.path.join f.filename) f.data with cause | files
  · rw [put] at done
    cases done
  · rw [put] at done
    cases done
    rfl

/-- One event for each file, by induction on the files that are written so far. -/
theorem events_of_mapM {paths : List File.Path} (done : runFrom w (files.mapM d.writeFile) = (.ok paths, w')) :
    w'.events = w.events ++ files.map d.written := by
  induction files using List.reverseRecOn generalizing paths w' with
  | nil =>
    cases done
    exact (List.append_nil _).symm
  | append_singleton files f ih =>
    rw [runFrom_mapM_concat] at done
    rcases before : runFrom w (files.mapM d.writeFile) with ⟨e | earlier, u⟩
    · rw [before] at done
      cases done
    · rw [before] at done
      rcases last : runFrom u (d.writeFile f) with ⟨e | path, v⟩
      · simp [last] at done
      · simp only [last] at done
        cases done
        rw [events_of_writeFile last, ih before, List.map_append, List.append_assoc]
        rfl

/-- Exactly the files that are written are reported: all of them, or those before the first that cannot be written, or none
when there is no directory for them. -/
theorem write_reports (w : World) (d : OutputDirectory) (files : List AssetFile) :
    match runFrom w (d.write files) with
    | (.ok paths, v) => paths = files.map d.pathOf ∧ v.events = w.events ++ files.map d.written
    | (.error (.file path _), v) =>
      ∃ before f after, files = before ++ f :: after ∧ path = d.pathOf f ∧ v.events = w.events ++ before.map d.written
    | (.error (.directory ..), v) => v.events = w.events := by
  rcases made : (w.files.createAll d.path).1 with cause | u
  · rw [runFrom_write, made]
    rfl
  · have through : runFrom w (d.write files) = runFrom (making w d) (files.mapM d.writeFile) := by
      rw [runFrom_write, made]
    rcases done : runFrom w (d.write files) with ⟨e | paths, v⟩
    · rw [through] at done
      obtain ⟨before, f, after, cause, whole, rfl, _, earlier⟩ := first_of_mapM done
      have reported := events_of_mapM earlier
      exact ⟨before, f, after, whole, rfl, reported⟩
    · have reported := events_of_mapM (through.symm.trans done)
      exact ⟨(holds_of_write done).1, reported⟩

end MachineOperator.OutputDirectory
