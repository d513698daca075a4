import MachineOperator.AssetFile
import MachineOperator.Proofs.Text.Quoted

/-!
What logs show of a generated file. Its name, its size and its digest can be read from what is shown, on one line and on
several, and nothing else of the file can be.
-/
namespace MachineOperator.AssetFile
open Text (quoted)

/-- What is shown of a file as characters, with what stands before its name, between its values and behind its digest.
The size is followed by a comma. -/
def shownIn (before between behind last : List Char) (f : AssetFile) : List Char :=
  before ++ ((quoted f.filename).toList ++ (between ++ ((toString f.data.size).toList ++
    ',' :: (behind ++ ((quoted f.digest).toList ++ last)))))

theorem toList_line (f : AssetFile) :
    f.line.toList = shownIn "AssetFile \x7b filename: ".toList ", bytes: ".toList " digest: ".toList " \x7d".toList f := by
  simp [line, shown, Text.outline, Text.outlineFields, shownIn, String.intercalate_cons_cons]

theorem toList_lines (f : AssetFile) :
    f.lines.toList = shownIn "AssetFile \x7b\n    filename: ".toList ",\n    bytes: ".toList "\n    digest: ".toList
      ",\n\x7d".toList f := by
  simp [lines, shown, shownIn]

/-- Whatever the values are surrounded by, they say which files are shown alike. -/
theorem shownIn_inj {before between behind last : List Char} {f g : AssetFile} :
    shownIn before between behind last f = shownIn before between behind last g ↔
      f.filename = g.filename ∧ f.data.size = g.data.size ∧ f.digest = g.digest := by
  have ends : Char.isDigit ',' = false := by decide
  simp only [shownIn, List.append_cancel_left_eq, Text.quoted_append_inj, Text.number_append_inj ends, and_true]

/-- Two files are shown alike exactly when they have the same name, size and digest, on one line and on several. -/
theorem shown_alike_iff (f g : AssetFile) :
    (f.line = g.line ↔ f.filename = g.filename ∧ f.data.size = g.data.size ∧ f.digest = g.digest) ∧
    (f.lines = g.lines ↔ f.filename = g.filename ∧ f.data.size = g.data.size ∧ f.digest = g.digest) := by
  constructor
  · rw [← String.toList_inj, toList_line, toList_line]
    exact shownIn_inj
  · rw [← String.toList_inj, toList_lines, toList_lines]
    exact shownIn_inj

/-- On one line, each character shows as itself. -/
theorem isConcealed_line {f : AssetFile} {c : Char} (member : c ∈ f.line.toList) : Text.isConcealed c = false := by
  have surrounding {text : String} (plain : ∀ d ∈ text.toList, 0x20 ≤ d.toNat ∧ d.toNat ≤ 0x7e)
      (fixed : c ∈ text.toList) : Text.isConcealed c = false := Text.isConcealed_ascii (plain c fixed)
  rw [toList_line, shownIn] at member
  simp only [List.mem_append, List.mem_cons] at member
  rcases member with fixed | name | fixed | size | rfl | fixed | digest | fixed
  · exact surrounding (by simp) fixed
  · exact Text.isConcealed_quoted name
  · exact surrounding (by simp) fixed
  · exact Text.isConcealed_number size
  · exact Text.isConcealed_ascii (by decide)
  · exact surrounding (by simp) fixed
  · exact Text.isConcealed_quoted digest
  · exact surrounding (by simp) fixed

end MachineOperator.AssetFile
