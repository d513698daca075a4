import MachineOperator.Proofs.Result
import MachineOperator.Timestamp

/-!
Texts of instants. A date is followed by a mark and a time, so that an instant is never written with digits and signs
alone.
-/
namespace MachineOperator.Timestamp
variable {bs r : List UInt8}

theorem number_suffix {part : Part} {size : String} {count : Nat} {low high : Int} {n : Nat}
    (read : number part size count low high bs = .ok (n, r)) : r <:+ bs := by
  unfold number at read
  dsimp only at read
  split at read
  · cases read
  · split at read
    · cases read
    · split at read
      · cases read
        exact List.drop_suffix count bs
      · cases read

theorem readYear_suffix {y : Int} (read : readYear bs = .ok (y, r)) : r <:+ bs := by
  unfold readYear at read
  split at read
  · next b rest =>
    split at read
    · obtain ⟨⟨n, left⟩, digits, read⟩ := bind_eq_ok.1 read
      have here := number_suffix digits
      dsimp only at read
      split at read
      · cases read
      · cases read
        exact here.trans (List.suffix_cons b rest)
    · obtain ⟨⟨n, left⟩, digits, read⟩ := bind_eq_ok.1 read
      cases read
      exact number_suffix digits
  · cases read

theorem readSeparator_suffix {extended : Bool} (read : readSeparator extended bs = .ok r) : r <:+ bs := by
  cases bs with
  | nil =>
    cases extended <;> cases read
    exact List.suffix_refl []
  | cons b rest =>
    unfold readSeparator at read
    dsimp only at read
    split at read <;> split at read <;> cases read
    · exact List.suffix_cons b _
    · exact List.suffix_refl (b :: rest)

/-- What is left after a date is the end of the text. -/
theorem readDate_suffix {date : Date} (read : readDate bs = .ok (date, r)) : r <:+ bs := by
  obtain ⟨⟨y, afterYear⟩, year, read⟩ := bind_eq_ok.1 read
  obtain ⟨toMonth, separated, read⟩ := bind_eq_ok.1 read
  obtain ⟨⟨m, afterMonth⟩, month, read⟩ := bind_eq_ok.1 read
  obtain ⟨toDay, separated', read⟩ := bind_eq_ok.1 read
  obtain ⟨⟨d, afterDay⟩, day, read⟩ := bind_eq_ok.1 read
  have whole := (number_suffix day).trans <| (readSeparator_suffix separated').trans <| (number_suffix month).trans <|
    (readSeparator_suffix separated).trans (readYear_suffix year)
  dsimp only at read
  split at read
  · cases read
  · cases read
    exact whole

/-- An instant has a mark before its time. -/
theorem exists_isTimeMark {text : String} {t : Timestamp} (read : parse text = .ok t) :
    ∃ b ∈ text.toUTF8.toList, isTimeMark b = true := by
  obtain ⟨⟨date, left⟩, day, read⟩ := bind_eq_ok.1 read
  cases left with
  | nil => cases read
  | cons b rest =>
    refine ⟨b, (readDate_suffix day).subset List.mem_cons_self, ?_⟩
    cases mark : isTimeMark b with
    | true => rfl
    | false =>
      -- Without a time there is no instant, whatever annotations follow.
      simp only [mark, Bool.false_eq_true, if_false] at read
      obtain ⟨left, annotated, read⟩ := bind_eq_ok.1 read
      obtain ⟨_, ended, read⟩ := bind_eq_ok.1 read
      cases read

end MachineOperator.Timestamp
