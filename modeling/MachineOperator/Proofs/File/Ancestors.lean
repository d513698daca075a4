import MachineOperator.Proofs.File.Tree

/-!
The directories that a path leads through. Where one of them is, the first parts of the path alone lead, however the
path is written.
-/
namespace MachineOperator.File

theorem not_mem_of_mem_splitOn {sep : Char} {text part : List Char} (member : part ∈ text.splitOn sep) :
    sep ∉ part := by
  induction text generalizing part with
  | nil =>
    cases List.mem_singleton.1 member
    exact List.not_mem_nil
  | cons c r ih =>
    rw [List.splitOn_cons_eq_if_modifyHead] at member
    by_cases here : (c == sep) = true
    · rw [if_pos here] at member
      rcases List.mem_cons.1 member with rfl | later
      · exact List.not_mem_nil
      · exact ih later
    · rw [if_neg here] at member
      cases rest : r.splitOn sep with
      | nil => exact absurd rest (List.splitOn_ne_nil sep r)
      | cons first others =>
        rw [rest] at ih member
        rcases List.mem_cons.1 member with rfl | later
        · intro inside
          rcases List.mem_cons.1 inside with same | inside
          · exact here (beq_iff_eq.2 same.symm)
          · exact ih List.mem_cons_self inside
        · exact ih (List.mem_cons_of_mem first later)

namespace Path
open MachineOperator.File.Tree (moves)

theorem mem_parts {p : Path} {part : String} (member : part ∈ p.parts) : '/' ∉ part.toList := by
  obtain ⟨cs, inside, rfl⟩ := List.mem_map.1 member
  rw [String.toList_ofList]
  exact not_mem_of_mem_splitOn inside

/-- The names of a path are some of its parts, and the ones that lead elsewhere are all of them. -/
theorem names_cases (p : Path) :
    (∃ r, p.parts = "." :: r ∧ p.names = "." :: r.filter moves) ∨ p.names = p.parts.filter moves := by
  have same : (fun s : String => decide (s ≠ "") && decide (s ≠ ".")) = moves := rfl
  unfold names
  split
  · next r parts =>
    rw [same]
    exact .inl ⟨r, parts, rfl⟩
  · rw [same]
    exact .inr rfl

theorem mem_names {p : Path} {name : String} (member : name ∈ p.names) : name ≠ "" ∧ '/' ∉ name.toList := by
  have filtered {ps : List String} (inside : name ∈ ps.filter moves) : name ∈ ps ∧ name ≠ "" := by
    obtain ⟨there, goes⟩ := List.mem_filter.1 inside
    refine ⟨there, ?_⟩
    rintro rfl
    cases goes
  rcases names_cases p with ⟨r, parts, names⟩ | names
  · rw [names] at member
    rcases List.mem_cons.1 member with rfl | later
    · exact ⟨by decide, by decide⟩
    · have whole : name ∈ p.parts := parts ▸ List.mem_cons_of_mem "." (filtered later).1
      exact ⟨(filtered later).2, mem_parts whole⟩
  · rw [names] at member
    exact ⟨(filtered member).2, mem_parts (filtered member).1⟩

theorem filter_names (p : Path) : p.names.filter moves = p.parts.filter moves := by
  rcases names_cases p with ⟨r, parts, names⟩ | names
  · rw [parts, names, List.filter_cons_of_neg (by decide), List.filter_cons_of_neg (by decide), List.filter_filter]
    simp
  · rw [names, List.filter_filter]
    simp

theorem parts_intercalate {names : List String} (some_names : names ≠ []) (proper : ∀ name ∈ names, '/' ∉ name.toList) :
    parts ⟨String.intercalate "/" names⟩ = names := by
  have split : (['/'].intercalate (names.map String.toList)).splitOn '/' = names.map String.toList :=
    List.splitOn_intercalate '/' (by simpa using proper) (by simpa using some_names)
  have slash : "/".toList = ['/'] := rfl
  rw [parts, String.toList_intercalate, slash, split, List.map_map]
  simp

theorem parts_slash (text : String) : parts ⟨"/" ++ text⟩ = "" :: parts ⟨text⟩ := by
  have slash : ("/" ++ text).toList = '/' :: text.toList := String.toList_append
  rw [parts, slash, List.splitOn_cons_eq_if_modifyHead, if_pos (beq_self_eq_true '/')]
  rfl

theorem ofNames_false (names : List String) : ofNames false names = ⟨String.intercalate "/" names⟩ :=
  congrArg Path.mk (String.empty_append ..)

/-- Names that are put together to a path are its parts again, as far as they count. -/
theorem filter_ofNames (absolute : Bool) {names : List String} (proper : ∀ name ∈ names, '/' ∉ name.toList) :
    (ofNames absolute names).parts.filter moves = names.filter moves := by
  have relative : (parts ⟨String.intercalate "/" names⟩).filter moves = names.filter moves := by
    by_cases none_left : names = []
    · subst none_left
      rfl
    · rw [parts_intercalate none_left proper]
  cases absolute with
  | true =>
    have slash : ofNames true names = ⟨"/" ++ String.intercalate "/" names⟩ := rfl
    rw [slash, parts_slash, List.filter_cons_of_neg (by decide), relative]
  | false =>
    rw [ofNames_false, relative]

theorem isAbsolute_ofNames (absolute : Bool) {names : List String}
    (proper : ∀ name ∈ names, name ≠ "" ∧ '/' ∉ name.toList) : (ofNames absolute names).isAbsolute = absolute := by
  cases absolute with
  | true => simp [ofNames, isAbsolute]
  | false =>
    cases names with
    | nil => rfl
    | cons name r =>
      obtain ⟨filled, noSlash⟩ := proper name List.mem_cons_self
      cases text : name.toList with
      | nil => exact absurd (String.toList_eq_nil_iff.1 text) filled
      | cons c cs =>
        have first : (String.intercalate "/" (name :: r)).toList.head? = some c := by
          rw [String.toList_intercalate, List.map_cons, text]
          cases r <;> simp [List.intercalate]
        rw [text] at noSlash
        have other : c ≠ '/' := fun same => noSlash (same ▸ List.mem_cons_self)
        rw [ofNames_false, isAbsolute, first]
        simpa using other

end Path

/-- Where a directory is that a path leads through, the first parts of the path lead. -/
theorem Tree.way_of_ancestor {t : Tree} {p q : Path} {l : Location} (above : q ∈ p :: p.ancestors)
    (found : t.find q = .ok (l, .directory)) : ∃ before, before <+: p.parts ∧ t.follow (t.start p) before = .ok l := by
  obtain ⟨_, followed, there⟩ := find_eq_ok.1 found
  rcases List.mem_cons.1 above with rfl | higher
  · exact ⟨q.parts, List.prefix_refl _, followed⟩
  · obtain ⟨n, _, rfl⟩ := List.mem_map.1 higher
    have proper : ∀ name ∈ p.names.take n, name ≠ "" ∧ '/' ∉ name.toList :=
      fun name member => Path.mem_names (List.mem_of_mem_take member)
    have start : t.start (.ofNames p.isAbsolute (p.names.take n)) = t.start p := by
      rw [Tree.start, Tree.start, Path.isAbsolute_ofNames _ proper]
    -- Names leave out parts that lead nowhere else, so the ways are compared without these.
    have first : (p.names.take n).filter moves <+: p.parts.filter moves := by
      rw [← Path.filter_names]
      exact (List.take_prefix n p.names).filter moves
    obtain ⟨before, inside, same⟩ := List.prefix_filter_iff.1 first
    have counted := Path.filter_ofNames p.isAbsolute fun name member => (proper name member).2
    rw [start, ← follow_filter _ there, counted, same] at followed
    exact ⟨before, inside, (follow_filter before there).1 followed⟩

end MachineOperator.File
