import MachineOperator.Text.Outline
import MachineOperator.Text.Quoted

/-!
A certificate authority: a name and the text of its certificate. The text is kept as it is; all that is asked of
it is that a certificate block starts somewhere in it.
-/
namespace MachineOperator

/-- Whether a text occurs somewhere in another. -/
def occursIn (part : List Char) : List Char → Bool
  | [] => part.isEmpty
  | c :: r => part.isPrefixOf (c :: r) || occursIn part r

theorem occursIn_iff {part cs : List Char} : occursIn part cs = true ↔ ∃ before after, cs = before ++ part ++ after := by
  induction cs with
  | nil =>
    constructor
    · intro h
      exact ⟨[], [], by simpa [occursIn] using h⟩
    · rintro ⟨before, after, h⟩
      simp only [List.nil_eq, List.append_eq_nil_iff] at h
      simp [occursIn, h.1.2]
  | cons c r ih =>
    simp only [occursIn, Bool.or_eq_true, List.isPrefixOf_iff_prefix]
    constructor
    · rintro (⟨after, h⟩ | h)
      · exact ⟨[], after, by simpa using h.symm⟩
      · obtain ⟨before, after, h⟩ := ih.1 h
        exact ⟨c :: before, after, by simp [h]⟩
    · rintro ⟨before, after, h⟩
      cases before with
      | nil => exact .inl ⟨after, by simpa using h.symm⟩
      | cons b bs =>
        simp only [List.cons_append, List.cons.injEq] at h
        exact .inr (ih.2 ⟨bs, after, h.2⟩)

def certificateHeader : String := "-----BEGIN CERTIFICATE-----"

structure CertificateAuthority where
  name : String
  pem : String
  hasCertificate : occursIn certificateHeader.toList pem.toList = true

inductive CertificateError where
  | missingCertificate (name : String)
deriving DecidableEq

def CertificateError.message : CertificateError → String
  | .missingCertificate name => "certificate authority " ++ name ++ " does not contain a PEM certificate block"

def CertificateError.outline : CertificateError → String
  | .missingCertificate name => Text.outline "MissingPemBlock" [("name", Text.quoted name)]

/-- Accepts every text that a certificate block starts in. -/
def CertificateAuthority.ofPem (name pem : String) : Except CertificateError CertificateAuthority :=
  if h : occursIn certificateHeader.toList pem.toList = true then .ok ⟨name, pem, h⟩
  else .error (.missingCertificate name)

end MachineOperator
