import MachineOperator.Proofs.Settings
import Mathlib.Data.List.TakeWhile

/-!
What comes of reading settings, by the bytes of the variables. A path that is needed and missing is reported before a
timeout that is no number; apart from these, every environment gives settings.
-/
namespace MachineOperator

namespace World
variable {w : World} {name text : String}

/-- A variable is set to a text. -/
def Holds (w : World) (name text : String) : Prop := w.environment.get? name = some text.toUTF8

/-- A variable gives no text, for this reason. -/
def Lacks (w : World) (name : String) : Settings.VariableError → Prop
  | .notSet => w.environment.get? name = none
  | .noText data => w.environment.get? name = some data ∧ ∀ text : String, data ≠ text.toUTF8

/-- A variable's text, or another one in its place if there is none. -/
def HoldsOr (w : World) (name default text : String) : Prop :=
  w.Holds name text ∨ (∀ other, ¬w.Holds name other) ∧ text = default

theorem setting_eq_ok : w.setting name = .ok text ↔ w.Holds name text := by
  unfold setting Holds
  rcases w.environment.get? name with _ | data
  · simp
  · rw [Option.some_inj, ← fromUTF8?_eq_some_iff]
    dsimp only
    cases String.fromUTF8? data <;> simp

theorem setting_eq_error {cause : Settings.VariableError} : w.setting name = .error cause ↔ w.Lacks name cause := by
  unfold setting Lacks
  rcases w.environment.get? name with _ | data
  · cases cause <;> simp
  · dsimp only
    rcases decoded : String.fromUTF8? data with _ | text
    · have no_text := fromUTF8?_eq_none_iff.1 decoded
      cases cause with
      | notSet => simp
      | noText data' =>
        constructor
        · intro same
          cases same
          exact ⟨rfl, no_text⟩
        · rintro ⟨same, _⟩
          cases same
          rfl
    · cases fromUTF8?_eq_some_iff.1 decoded
      cases cause with
      | notSet => simp
      | noText data' =>
        constructor
        · nofun
        · rintro ⟨same, no_text⟩
          cases same
          exact absurd rfl (no_text text)

/-- A text that may be left out is the variable's, if that has one. -/
theorem toOption_setting_eq_some : (w.setting name).toOption = some text ↔ w.Holds name text := by
  rw [← setting_eq_ok]
  cases w.setting name <;> simp [Except.toOption]

theorem toOption_setting_eq_none : (w.setting name).toOption = none ↔ ∀ text, ¬w.Holds name text := by
  rw [Option.eq_none_iff_forall_ne_some]
  exact forall_congr' fun text => not_congr toOption_setting_eq_some

theorem holdsOr_iff {default : String} : w.HoldsOr name default text ↔ (w.setting name).toOption.getD default = text := by
  rw [HoldsOr, ← toOption_setting_eq_none, ← toOption_setting_eq_some]
  cases (w.setting name).toOption <;> simp [eq_comm]

end World

namespace Settings
variable {text : String} {n : UInt64} {w : World} {s : Settings}

/-! Numbers of one word. -/

/-- A text says a number: by decimal digits, after a plus sign or without one. -/
def Says (text : String) (n : UInt64) : Prop :=
  ∃ digits, (text.toList = digits ∨ text.toList = '+' :: digits) ∧ digits ≠ [] ∧
    (∀ c ∈ digits, c.isDigit = true) ∧ Nat.ofDigitChars 10 digits 0 = n.toNat

/-- What is left of a text when a plus sign at its start is taken away. -/
def unsigned (text : String) : List Char :=
  match text.toList with
  | '+' :: r => r
  | cs => cs

/-- The number that the digits at the start of a text say, whatever follows them. -/
def leading (text : String) : Nat := Nat.ofDigitChars 10 ((unsigned text).takeWhile Char.isDigit) 0

/-- Why a text says no number of one word. A word has 64 bits, so the numbers that it says are those below
18446744073709551616. -/
inductive Refused (text : String) : NumberError → Prop
  | empty : text = "" → Refused text .empty
  | overflow : UInt64.size ≤ leading text → Refused text .overflow
  | digit : text ≠ "" → leading text < UInt64.size → (∀ n, ¬Says text n) → Refused text .digit

/-- More digits say no smaller number. -/
theorem le_ofDigitChars (digits : List Char) (n : Nat) : n ≤ Nat.ofDigitChars 10 digits n := by
  induction digits generalizing n with
  | nil => simp
  | cons c r ih =>
    rw [Nat.ofDigitChars_cons]
    have later := ih (10 * n + (c.toNat - '0'.toNat))
    omega

/-- Digits are read until a number gets too large or something else is met. -/
theorem readDigits_eq {n : Nat} (fits : n < UInt64.size) (cs : List Char) :
    readDigits n cs =
      if UInt64.size ≤ Nat.ofDigitChars 10 (cs.takeWhile Char.isDigit) n then .error .overflow
      else if cs.all Char.isDigit then .ok (Nat.ofDigitChars 10 cs n)
      else .error .digit := by
  induction cs generalizing n with
  | nil => simp [readDigits, fits]
  | cons c r ih =>
    have zero : '0'.toNat = 48 := rfl
    rw [readDigits]
    cases digit : c.isDigit with
    | false => simp [digit, fits]
    | true =>
      rw [List.takeWhile_cons_of_pos digit, List.all_cons, digit, Nat.ofDigitChars_cons, Nat.ofDigitChars_cons, zero]
      by_cases small : 10 * n + (c.toNat - 48) < UInt64.size
      · simp [small, ih small]
      · have large := le_ofDigitChars (r.takeWhile Char.isDigit) (10 * n + (c.toNat - 48))
        rw [if_pos (by omega : UInt64.size ≤ _)]
        simp [small]

theorem unsigned_of_empty (empty : text = "") : unsigned text = [] := by
  rw [empty]
  rfl

/-- Where only digits follow the sign, they are all read. -/
theorem leading_of_all (digits : (unsigned text).all Char.isDigit = true) :
    leading text = Nat.ofDigitChars 10 (unsigned text) 0 := by
  rw [leading, List.takeWhile_eq_self_iff.2 (List.all_eq_true.1 digits)]

theorem readNumber_eq (text : String) :
    readNumber text =
      if text = "" then .error .empty
      else if UInt64.size ≤ leading text then .error .overflow
      else if unsigned text ≠ [] ∧ (unsigned text).all Char.isDigit = true then .ok (UInt64.ofNat (leading text))
      else .error .digit := by
  have blank : text = "" ↔ text.toList = [] := by simp
  have read : readNumber text =
      if text = "" then .error .empty
      else if unsigned text = [] then .error .digit
      else (readDigits 0 (unsigned text)).map UInt64.ofNat := by
    rcases same : text.toList with _ | ⟨c, r⟩
    · simp [readNumber, blank, same]
    · by_cases sign : c = '+'
      · subst sign
        cases r with
        | nil => simp [readNumber, unsigned, blank, same]
        | cons d r => simp [readNumber, unsigned, blank, same]
      · simp [readNumber, unsigned, blank, same, sign]
  rw [read]
  by_cases empty : text = ""
  · rw [if_pos empty, if_pos empty]
  · rw [if_neg empty, if_neg empty]
    by_cases lone : unsigned text = []
    · -- A sign alone says nothing.
      have zero : leading text = 0 := by rw [leading, lone]; rfl
      simp [lone, zero]
    · rw [if_neg lone, readDigits_eq (by decide), ← leading]
      by_cases large : UInt64.size ≤ leading text
      · rw [if_pos large, if_pos large]
        rfl
      · rw [if_neg large, if_neg large]
        by_cases digits : (unsigned text).all Char.isDigit = true
        · rw [if_pos digits, if_pos ⟨lone, digits⟩, leading_of_all digits]
          rfl
        · rw [if_neg digits, if_neg (fun both => digits both.2)]
          rfl

theorem says_iff :
    Says text n ↔ unsigned text ≠ [] ∧ (unsigned text).all Char.isDigit = true ∧ leading text = n.toNat := by
  constructor
  · rintro ⟨digits, written, some_digits, each, value⟩
    have same : unsigned text = digits := by
      rcases written with plain | signed
      · unfold unsigned
        split
        · next r start =>
          -- A plus sign is no digit.
          have sign : '+'.isDigit = true := each '+' (by rw [← plain, start]; simp)
          exact absurd sign (by decide)
        · exact plain
      · simp [unsigned, signed]
    have all : (unsigned text).all Char.isDigit = true := by
      rw [same]
      exact List.all_eq_true.2 each
    exact ⟨same ▸ some_digits, all, by rw [leading_of_all all, same, value]⟩
  · rintro ⟨some_digits, all, value⟩
    rw [leading_of_all all] at value
    refine ⟨unsigned text, ?_, some_digits, List.all_eq_true.1 all, value⟩
    unfold unsigned
    split
    · next r start => exact .inr start
    · exact .inl rfl

/-- A number is read from the texts that say it. -/
theorem readNumber_eq_ok : readNumber text = .ok n ↔ Says text n := by
  rw [readNumber_eq, says_iff]
  constructor
  · intro read
    split at read
    · cases read
    · split at read
      · cases read
      · next small =>
        split at read
        · next numeral =>
          cases read
          exact ⟨numeral.1, numeral.2, (UInt64.toNat_ofNat_of_lt (Nat.lt_of_not_le small)).symm⟩
        · cases read
  · rintro ⟨some_digits, all, value⟩
    have small : ¬UInt64.size ≤ leading text := by
      rw [value]
      exact Nat.not_le.2 n.toNat_lt_size
    rw [if_neg (mt unsigned_of_empty some_digits), if_neg small, if_pos ⟨some_digits, all⟩, value, UInt64.ofNat_toNat]

/-- Every other text is refused for one reason. -/
theorem readNumber_eq_error {e : NumberError} : readNumber text = .error e ↔ Refused text e := by
  constructor
  · intro refused
    have silent : ∀ n, ¬Says text n := by
      intro n said
      cases refused.symm.trans (readNumber_eq_ok.2 said)
    rw [readNumber_eq] at refused
    split at refused
    · next empty =>
      cases refused
      exact .empty empty
    · next filled =>
      split at refused
      · next large =>
        cases refused
        exact .overflow large
      · next small =>
        split at refused
        · cases refused
        · cases refused
          exact .digit filled (Nat.lt_of_not_le small) silent
  · intro refused
    rw [readNumber_eq]
    cases refused with
    | empty empty => rw [if_pos empty]
    | overflow large =>
      have filled : text ≠ "" := by
        rintro rfl
        exact absurd large (by decide)
      rw [if_neg filled, if_pos large]
    | digit filled small silent =>
      have other : ¬(unsigned text ≠ [] ∧ (unsigned text).all Char.isDigit = true) := by
        rintro ⟨some_digits, all⟩
        exact silent _ (says_iff.2 ⟨some_digits, all, (UInt64.toNat_ofNat_of_lt small).symm⟩)
      rw [if_neg filled, if_neg (Nat.not_le.2 small), if_neg other]

-- Once the digits say too much, it does not matter what follows; as long as they do not, it does.
example : readNumber "+18446744073709551616s" = .error .overflow := by decide +kernel
example : readNumber "+18446744073709551615s" = .error .digit := by decide +kernel

/-! The variables together. -/

theorem timeout_eq_ok :
    w.timeout = .ok n ↔ (∃ text, w.Holds "RHCOS_TIMEOUT_SECONDS" text ∧ Says text n) ∨
      (∀ text, ¬w.Holds "RHCOS_TIMEOUT_SECONDS" text) ∧ n = 30 := by
  simp only [← World.setting_eq_ok, ← readNumber_eq_ok, World.timeout]
  rcases w.setting "RHCOS_TIMEOUT_SECONDS" with cause | text
  · simp [defaultTimeout, eq_comm]
  · simp

theorem timeout_eq_error {cause : NumberError} :
    w.timeout = .error cause ↔ ∃ text, w.Holds "RHCOS_TIMEOUT_SECONDS" text ∧ Refused text cause := by
  simp only [← World.setting_eq_ok, ← readNumber_eq_error, World.timeout]
  rcases w.setting "RHCOS_TIMEOUT_SECONDS" with cause | text <;> simp

theorem staticImage_eq_some {image : String} :
    w.staticImage = some image ↔
      w.Holds "RHCOS_STATIC_IMAGE" image ∧ ∃ c ∈ image.toList, Text.isBlank c = false := by
  rw [World.staticImage, Option.filter_eq_some_iff, World.toOption_setting_eq_some]
  simp [Text.isAllBlank]

/-- Settings are what the variables say. Each text is taken as it is. -/
structure Described (w : World) (s : Settings) : Prop where
  installConfig : w.Holds "INSTALL_CONFIG_PATH" s.installConfig.text
  authority : w.Holds "AGGREGATOR_CA_PATH" s.authority.text
  output : w.HoldsOr "OUTPUT_DIR" "." s.output.text
  baseUrl : w.HoldsOr "RHCOS_BASE_URL" Release.defaultBaseUrl s.baseUrl
  timeout : (∃ text, w.Holds "RHCOS_TIMEOUT_SECONDS" text ∧ Says text s.timeout) ∨
    (∀ text, ¬w.Holds "RHCOS_TIMEOUT_SECONDS" text) ∧ s.timeout = 30
  staticImage : ∀ image, s.staticImage = some image ↔
    w.Holds "RHCOS_STATIC_IMAGE" image ∧ ∃ c ∈ image.toList, Text.isBlank c = false

/-- What can come of reading settings, with the conditions for it. -/
inductive Outcome (w : World) : Except Error Settings → Prop
  | noSpecification {cause} : w.Lacks "INSTALL_CONFIG_PATH" cause →
      Outcome w (.error (.missing "INSTALL_CONFIG_PATH" cause))
  | noCertificate {path cause} : w.Holds "INSTALL_CONFIG_PATH" path → w.Lacks "AGGREGATOR_CA_PATH" cause →
      Outcome w (.error (.missing "AGGREGATOR_CA_PATH" cause))
  | noTimeout {path path' text cause} : w.Holds "INSTALL_CONFIG_PATH" path → w.Holds "AGGREGATOR_CA_PATH" path' →
      w.Holds "RHCOS_TIMEOUT_SECONDS" text → Refused text cause →
      Outcome w (.error (.noNumber "RHCOS_TIMEOUT_SECONDS" cause))
  | described {s : Settings} : Described w s → Outcome w (.ok s)

theorem described_iff :
    Described w s ↔ ∃ installConfig authority timeout, w.setting "INSTALL_CONFIG_PATH" = .ok installConfig ∧
      w.setting "AGGREGATOR_CA_PATH" = .ok authority ∧ w.timeout = .ok timeout ∧
      s = { installConfig := ⟨installConfig⟩, authority := ⟨authority⟩, output := w.output, baseUrl := w.baseUrl,
            timeout, staticImage := w.staticImage } := by
  have output (text : String) : w.HoldsOr "OUTPUT_DIR" "." text ↔ w.output.text = text := by
    rw [World.holdsOr_iff, World.output]
    cases (w.setting "OUTPUT_DIR").toOption <;> rfl
  constructor
  · rintro ⟨specified, trusted, directory, url, timed, image⟩
    obtain ⟨installConfig, authority, path, baseUrl, timeout, staticImage⟩ := s
    have images : staticImage = w.staticImage :=
      Option.ext fun some_image => (image some_image).trans staticImage_eq_some.symm
    have there : w.output = path := congrArg File.Path.mk ((output _).1 directory)
    have address : w.baseUrl = baseUrl := World.holdsOr_iff.1 url
    subst images there address
    exact ⟨_, _, timeout, World.setting_eq_ok.2 specified, World.setting_eq_ok.2 trusted, timeout_eq_ok.2 timed, rfl⟩
  · rintro ⟨installConfig, authority, timeout, specified, trusted, timed, rfl⟩
    exact ⟨World.setting_eq_ok.1 specified, World.setting_eq_ok.1 trusted, (output _).2 rfl, World.holdsOr_iff.2 rfl,
      timeout_eq_ok.1 timed, fun _ => staticImage_eq_some⟩

theorem read_eq_error {e : Error} :
    (runFrom w read).1 = .error e ↔
      (∃ cause, w.setting "INSTALL_CONFIG_PATH" = .error cause ∧ e = .missing "INSTALL_CONFIG_PATH" cause) ∨
      (∃ path cause, w.setting "INSTALL_CONFIG_PATH" = .ok path ∧ w.setting "AGGREGATOR_CA_PATH" = .error cause ∧
        e = .missing "AGGREGATOR_CA_PATH" cause) ∨
      ∃ path path' cause, w.setting "INSTALL_CONFIG_PATH" = .ok path ∧ w.setting "AGGREGATOR_CA_PATH" = .ok path' ∧
        w.timeout = .error cause ∧ e = .noNumber "RHCOS_TIMEOUT_SECONDS" cause := by
  rw [runFrom_read]
  rcases w.setting "INSTALL_CONFIG_PATH" with cause | path
  · simp [eq_comm]
  · rcases w.setting "AGGREGATOR_CA_PATH" with cause | path'
    · simp [eq_comm]
    · rcases w.timeout with cause | timeout
      · simp [eq_comm]
      · simp

/-- Reading settings has one outcome in every environment, and changes nothing. -/
theorem read_iff_outcome (w : World) (result : Except Error Settings) :
    ((runFrom w read).1 = result ↔ Outcome w result) ∧ (runFrom w read).2 = w := by
  refine ⟨?_, looks_read w⟩
  cases result with
  | ok s =>
    rw [read_eq_ok, ← described_iff]
    constructor
    · exact .described
    · intro outcome
      cases outcome with
      | described all => exact all
  | error e =>
    simp only [read_eq_error, World.setting_eq_ok, World.setting_eq_error, timeout_eq_error]
    constructor
    · rintro (⟨cause, lacks, rfl⟩ | ⟨path, cause, specified, lacks, rfl⟩ |
        ⟨path, path', cause, specified, trusted, ⟨text, timed, refused⟩, rfl⟩)
      · exact .noSpecification lacks
      · exact .noCertificate specified lacks
      · exact .noTimeout specified trusted timed refused
    · intro outcome
      cases outcome with
      | noSpecification lacks => exact .inl ⟨_, lacks, rfl⟩
      | noCertificate specified lacks => exact .inr (.inl ⟨_, _, specified, lacks, rfl⟩)
      | noTimeout specified trusted timed refused =>
        exact .inr (.inr ⟨_, _, _, specified, trusted, ⟨_, timed, refused⟩, rfl⟩)

end Settings
end MachineOperator
