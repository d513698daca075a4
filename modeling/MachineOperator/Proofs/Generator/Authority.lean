import MachineOperator.Proofs.File.Stops
import MachineOperator.Proofs.Generator.Course
import MachineOperator.Proofs.Text.Utf8

/-!
The certificate that a run is given. What is asked of the file is that its bytes are a text and that a certificate block
starts in it; the text is kept as it is. Bytes that are no text are a file that cannot be read, a text without the block is
no certificate.
-/
namespace MachineOperator

namespace CertificateAuthority
variable {name text : String}

/-- A block starts in a text when the text is something, the header, and something. -/
theorem occursIn_header_iff :
    occursIn certificateHeader.toList text.toList = true ↔
      ∃ before after : String, text = before ++ certificateHeader ++ after := by
  rw [occursIn_iff]
  constructor
  · rintro ⟨before, after, same⟩
    refine ⟨String.ofList before, String.ofList after, ?_⟩
    apply String.toList_inj.1
    simpa using same
  · rintro ⟨before, after, rfl⟩
    exact ⟨before.toList, after.toList, by simp⟩

/-- The header is found among the bytes of a text exactly when it is found in the text. -/
theorem header_isInfix_iff :
    certificateHeader.toUTF8.toList <:+: text.toUTF8.toList ↔
      ∃ before after : String, text = before ++ certificateHeader ++ after := by
  obtain ⟨c, part, header, small⟩ : ∃ c part, certificateHeader.toList = c :: part ∧ c.val.toNat ≤ 127 :=
    ⟨_, _, rfl, by decide⟩
  have inBytes : certificateHeader.toList.flatMap String.utf8EncodeChar <:+: text.toList.flatMap String.utf8EncodeChar ↔
      certificateHeader.toList <:+: text.toList := by
    rw [header]
    exact Utf8.isInfix_flatMap small
  rw [← toUTF8_toList, ← toUTF8_toList] at inBytes
  rw [inBytes, ← occursIn_header_iff, occursIn_iff]
  exact exists_congr fun before => exists_congr fun after => eq_comm

theorem exists_ofPem_iff :
    (∃ authority, ofPem name text = .ok authority) ↔
      ∃ before after : String, text = before ++ certificateHeader ++ after := by
  rw [← occursIn_header_iff]
  constructor
  · rintro ⟨authority, accepted⟩
    obtain ⟨_, rfl⟩ := Generator.ofPem_eq_ok.1 accepted
    exact authority.hasCertificate
  · intro occurs
    exact ⟨⟨name, text, occurs⟩, Generator.ofPem_eq_ok.2 ⟨rfl, rfl⟩⟩

theorem ofPem_eq_error {e : CertificateError} :
    ofPem name text = .error e ↔
      e = .missingCertificate name ∧ ¬∃ before after : String, text = before ++ certificateHeader ++ after := by
  rw [← occursIn_header_iff, ofPem]
  by_cases occurs : occursIn certificateHeader.toList text.toList = true
  · simp [occurs]
  · simp [occurs, eq_comm]

end CertificateAuthority

namespace Generator
variable {w : World} {t : File.Tree} {path : File.Path}

/-- No text is taken where nothing can be read and where the bytes are none. -/
theorem textAt_eq_error {cause : File.Error} :
    textAt t path = .error cause ↔
      t.read path = .error cause ∨ cause = .noText ∧ ∃ data, t.read path = .ok data ∧ ¬Utf8.Characters data.toList := by
  unfold textAt
  rcases t.read path with other | data
  · simp
  · rcases decoded : String.fromUTF8? data with _ | text
    · have spelled : ¬Utf8.Characters data.toList := by
        rw [Utf8.characters_toList, not_exists]
        exact fromUTF8?_eq_none_iff.1 decoded
      simp [decoded, spelled, eq_comm]
    · have spelled : Utf8.Characters data.toList := Utf8.characters_toList.2 ⟨text, fromUTF8?_eq_some_iff.1 decoded⟩
      simp [decoded, spelled]

/-- A text is taken where the path leads to a file of its bytes. -/
theorem exists_textAt_iff {p : List UInt8 → Prop} :
    (∃ l data, t.find path = .ok (l, .file data) ∧ Utf8.Characters data.toList ∧ p data.toList) ↔
      ∃ text : String, textAt t path = .ok text ∧ p text.toUTF8.toList := by
  constructor
  · rintro ⟨l, data, found, spelled, rest⟩
    obtain ⟨text, rfl⟩ := Utf8.characters_toList.1 spelled
    exact ⟨text, textAt_eq_ok.2 (File.Tree.read_eq_ok.2 ⟨l, found⟩), rest⟩
  · rintro ⟨text, taken, rest⟩
    obtain ⟨l, found⟩ := File.Tree.read_eq_ok.1 (textAt_eq_ok.1 taken)
    exact ⟨l, _, found, Utf8.characters_toList.2 ⟨text, rfl⟩, rest⟩

theorem exists_textAt_eq_error :
    (∃ cause, textAt t path = .error cause) ↔
      ¬∃ l data, t.find path = .ok (l, .file data) ∧ Utf8.Characters data.toList := by
  have taken : (∃ l data, t.find path = .ok (l, .file data) ∧ Utf8.Characters data.toList ∧ True) ↔
      ∃ text : String, textAt t path = .ok text ∧ True :=
    exists_textAt_iff (p := fun _ => True)
  simp only [and_true] at taken
  rw [taken]
  cases textAt t path <;> simp

/-- A certificate is taken from a path that leads to a file of a text in which a block starts. -/
theorem exists_certificate_iff :
    (∃ authority, certificate t path = .ok authority) ↔
      ∃ l data, t.find path = .ok (l, .file data) ∧ Utf8.Characters data.toList ∧
        certificateHeader.toUTF8.toList <:+: data.toList := by
  rw [exists_textAt_iff (p := (certificateHeader.toUTF8.toList <:+: ·))]
  constructor
  · rintro ⟨authority, trusted⟩
    obtain ⟨text, held, accepted⟩ := certificate_eq_ok.1 trusted
    have split := CertificateAuthority.exists_ofPem_iff.1 ⟨authority, accepted⟩
    exact ⟨text, textAt_eq_ok.2 held, CertificateAuthority.header_isInfix_iff.2 split⟩
  · rintro ⟨text, taken, occurs⟩
    have split := CertificateAuthority.header_isInfix_iff.1 occurs
    obtain ⟨authority, accepted⟩ := CertificateAuthority.exists_ofPem_iff.2 split
    exact ⟨authority, certificate_eq_ok.2 ⟨text, textAt_eq_ok.1 taken, accepted⟩⟩

/-- The certificate that is taken is the text of the file as it is. -/
theorem certificate_eq_ok_iff_find {authority : CertificateAuthority} :
    certificate t path = .ok authority ↔
      authority.name = authorityName ∧ ∃ l, t.find path = .ok (l, .file authority.pem.toUTF8) := by
  rw [certificate_eq_ok, ← File.Tree.read_eq_ok]
  constructor
  · rintro ⟨text, held, accepted⟩
    obtain ⟨named, rfl⟩ := ofPem_eq_ok.1 accepted
    exact ⟨named, held⟩
  · rintro ⟨named, held⟩
    exact ⟨authority.pem, held, ofPem_eq_ok.2 ⟨named, rfl⟩⟩

/-- No certificate is taken where no text can be, and from a text in which no block starts. -/
theorem certificate_eq_error {e : Error} :
    certificate t path = .error e ↔
      (∃ cause, e = .unreadable .authority path cause ∧ textAt t path = .error cause) ∨
        e = .authority (.missingCertificate authorityName) ∧ ∃ l data, t.find path = .ok (l, .file data) ∧
          Utf8.Characters data.toList ∧ ¬certificateHeader.toUTF8.toList <:+: data.toList := by
  rw [exists_textAt_iff (p := (¬certificateHeader.toUTF8.toList <:+: ·)), certificate]
  rcases textAt t path with cause | text
  · simp [eq_comm]
  · rcases accepted : CertificateAuthority.ofPem authorityName text with cause | authority
    · obtain ⟨rfl, missing⟩ := CertificateAuthority.ofPem_eq_error.1 accepted
      rw [← CertificateAuthority.header_isInfix_iff] at missing
      simp only [mapError_error, Except.error.injEq, reduceCtorEq, and_false, exists_false, false_or, Except.ok.injEq,
        exists_eq_left', missing, not_false_eq_true, and_true, accepted, eq_comm]
    · have occurs := CertificateAuthority.header_isInfix_iff.2 (CertificateAuthority.exists_ofPem_iff.1 ⟨authority, accepted⟩)
      simp only [accepted, occurs, mapError_ok, reduceCtorEq, and_false, exists_false, Except.ok.injEq, exists_eq_left',
        not_true_eq_false, or_self]

theorem certificate_eq_unreadable {cause : File.Error} :
    certificate t path = .error (.unreadable .authority path cause) ↔ textAt t path = .error cause := by
  rw [certificate_eq_error]
  simp

theorem readAuthority_eq_error {e : Error} :
    (runFrom w (readAuthority path)).1 = .error e ↔ certificate w.files path = .error e := by
  rw [runFrom_readAuthority]
  rcases certificate w.files path with e' | authority
  · rfl
  · simp

/-- A certificate is read exactly when the path leads to a file of a text in which a block starts, and then it is the text
as it is. From a text without one it is refused, and in all other cases nothing is read: the path leads nowhere or to a
directory, or the bytes are no text. A text that does not come from a file is accepted under the same condition. -/
theorem readAuthority_answers (w : World) (path : File.Path) :
    let done := (runFrom w (readAuthority path)).1
    let header := "-----BEGIN CERTIFICATE-----".toUTF8.toList
    ((∃ authority, done = .ok authority) ↔
      ∃ l data, w.files.find path = .ok (l, .file data) ∧ Utf8.Characters data.toList ∧ header <:+: data.toList) ∧
    (∀ authority, done = .ok authority ↔
      authority.name = "aggregator-ca" ∧ ∃ l, w.files.find path = .ok (l, .file authority.pem.toUTF8)) ∧
    (∀ cause, done = .error (.authority cause) ↔ cause = .missingCertificate "aggregator-ca" ∧
      ∃ l data, w.files.find path = .ok (l, .file data) ∧ Utf8.Characters data.toList ∧ ¬header <:+: data.toList) ∧
    ((∃ cause, done = .error (.unreadable .authority path cause)) ↔
      ¬∃ l data, w.files.find path = .ok (l, .file data) ∧ Utf8.Characters data.toList) ∧
    (∀ cause, done = .error (.unreadable .authority path cause) ↔
      w.files.find path = .error cause ∨ (cause = .isDirectory ∧ ∃ l, w.files.find path = .ok (l, .directory)) ∨
        cause = .noText ∧ ∃ l data, w.files.find path = .ok (l, .file data) ∧ ¬Utf8.Characters data.toList) ∧
    (∀ e, done = .error e → (∃ cause, e = .authority cause) ∨ ∃ cause, e = .unreadable .authority path cause) ∧
    ∀ name text : String,
      (∀ authority, CertificateAuthority.ofPem name text = .ok authority → authority.name = name ∧ authority.pem = text) ∧
      ((∃ authority, CertificateAuthority.ofPem name text = .ok authority) ↔
        ∃ before after, text = before ++ "-----BEGIN CERTIFICATE-----" ++ after) ∧
      ∀ cause, CertificateAuthority.ofPem name text = .error cause ↔
        cause = .missingCertificate name ∧ ¬∃ before after, text = before ++ "-----BEGIN CERTIFICATE-----" ++ after := by
  have spelled : "-----BEGIN CERTIFICATE-----" = certificateHeader := rfl
  simp only [spelled, readAuthority_eq_ok, readAuthority_eq_error]
  refine ⟨exists_certificate_iff, ?_, ?_, ?_, ?_, ?_, ?_⟩
  · intro authority
    exact certificate_eq_ok_iff_find
  · intro cause
    rw [certificate_eq_error]
    simp [authorityName]
  · simp only [certificate_eq_unreadable]
    exact exists_textAt_eq_error
  · intro cause
    rw [certificate_eq_unreadable, textAt_eq_error, File.Tree.read_eq_error, or_assoc]
    simp only [File.Tree.read_eq_ok]
    grind
  · intro e failed
    rcases certificate_eq_error.1 failed with ⟨cause, rfl, _⟩ | ⟨rfl, _⟩
    · exact .inr ⟨cause, rfl⟩
    · exact .inl ⟨_, rfl⟩
  · intro name text
    refine ⟨?_, CertificateAuthority.exists_ofPem_iff, ?_⟩
    · intro authority accepted
      exact ofPem_eq_ok.1 accepted
    · intro cause
      exact CertificateAuthority.ofPem_eq_error

end Generator
end MachineOperator
