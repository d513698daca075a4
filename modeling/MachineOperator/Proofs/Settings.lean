import MachineOperator.Proofs.World
import MachineOperator.Settings

/-!
Reading settings. Variables are looked at, and nothing changes by that; the first that is wrong, of those that can be,
is reported.
-/
namespace MachineOperator

namespace World

/-- The text of a variable, or why there is none. -/
def setting (w : World) (name : String) : Except Settings.VariableError String :=
  match w.environment.get? name with
  | none => .error .notSet
  | some data =>
    match String.fromUTF8? data with
    | none => .error (.noText data)
    | some text => .ok text

theorem setting_congr {v w : World} {name : String} (same : v.environment.get? name = w.environment.get? name) :
    v.setting name = w.setting name := by
  rw [setting, setting, same]

def output (w : World) : File.Path := ((w.setting "OUTPUT_DIR").toOption.map File.Path.mk).getD Settings.defaultOutput

def baseUrl (w : World) : String := (w.setting "RHCOS_BASE_URL").toOption.getD Release.defaultBaseUrl

/-- A variable that is no text sets no timeout. -/
def timeout (w : World) : Except Settings.NumberError UInt64 :=
  match w.setting "RHCOS_TIMEOUT_SECONDS" with
  | .error _ => .ok Settings.defaultTimeout
  | .ok text => Settings.readNumber text

/-- A variable that is all blank sets no image. -/
def staticImage (w : World) : Option String :=
  (w.setting "RHCOS_STATIC_IMAGE").toOption.filter fun image => !Text.isAllBlank image

/-- Where images come from, as the variables say. -/
def source (w : World) : ImageSource :=
  match w.staticImage with
  | some image => .fixed (.everywhere image)
  | none => .server (.ofUrl w.baseUrl)

end World

namespace Settings
variable {w : World} {s : Settings}

theorem runFrom_needed (w : World) (name : String) :
    runFrom w (needed name) = ((w.setting name).mapError (.missing name), w) := by
  unfold needed World.setting
  rw [runFrom_bind, runFrom_lift]
  have looked : (Environment.lookup? name : StateM World _).run w = (w.environment.get? name, w) := rfl
  rw [looked]
  rcases w.environment.get? name with _ | data
  · rfl
  · dsimp only
    cases String.fromUTF8? data <;> rfl

theorem runFrom_optional? (w : World) (name : String) :
    runFrom w (optional? name : ExceptT Error (StateM World) _) = (.ok (w.setting name).toOption, w) := by
  have looked : runFrom w (optional? name : ExceptT Error (StateM World) _) =
      (.ok ((w.environment.get? name).bind String.fromUTF8?), w) := rfl
  rw [looked, World.setting]
  rcases w.environment.get? name with _ | data
  · rfl
  · dsimp only [Option.bind_some]
    cases String.fromUTF8? data <;> rfl

theorem runFrom_numberOr (w : World) (default : UInt64) (name : String) :
    runFrom w (numberOr default name) =
      (match w.setting name with
        | .error _ => .ok default
        | .ok text => (readNumber text).mapError (.noNumber name), w) := by
  unfold numberOr
  rw [runFrom_bind, runFrom_optional?]
  rcases w.setting name with cause | text
  · rfl
  · dsimp only [Except.toOption]
    cases readNumber text <;> rfl

/-- The settings, if the two paths are set and the timeout can be read. -/
theorem runFrom_read (w : World) :
    runFrom w read =
      match w.setting "INSTALL_CONFIG_PATH", w.setting "AGGREGATOR_CA_PATH", w.timeout with
      | .error cause, _, _ => (.error (.missing "INSTALL_CONFIG_PATH" cause), w)
      | .ok _, .error cause, _ => (.error (.missing "AGGREGATOR_CA_PATH" cause), w)
      | .ok _, .ok _, .error cause => (.error (.noNumber "RHCOS_TIMEOUT_SECONDS" cause), w)
      | .ok installConfig, .ok authority, .ok timeout =>
        (.ok { installConfig := ⟨installConfig⟩, authority := ⟨authority⟩, output := w.output, baseUrl := w.baseUrl,
               timeout, staticImage := w.staticImage }, w) := by
  unfold read World.timeout
  rw [runFrom_bind, runFrom_needed]
  rcases w.setting "INSTALL_CONFIG_PATH" with cause | installConfig
  · rfl
  · dsimp only [Except.mapError]
    rw [runFrom_bind, runFrom_needed]
    rcases w.setting "AGGREGATOR_CA_PATH" with cause | authority
    · rfl
    · dsimp only [Except.mapError]
      simp only [runFrom_bind, runFrom_optional?, runFrom_numberOr]
      rcases w.setting "RHCOS_TIMEOUT_SECONDS" with cause | text
      · rfl
      · dsimp only
        rcases readNumber text with cause | timeout
        · rfl
        · rfl

theorem looks_read (w : World) : (runFrom w read).2 = w := by
  rw [runFrom_read]
  split <;> rfl

/-- The settings are those of the variables. -/
theorem read_eq_ok :
    (runFrom w read).1 = .ok s ↔
      ∃ installConfig authority timeout, w.setting "INSTALL_CONFIG_PATH" = .ok installConfig ∧
        w.setting "AGGREGATOR_CA_PATH" = .ok authority ∧ w.timeout = .ok timeout ∧
        s = { installConfig := ⟨installConfig⟩, authority := ⟨authority⟩, output := w.output, baseUrl := w.baseUrl,
              timeout, staticImage := w.staticImage } := by
  rw [runFrom_read]
  constructor
  · intro done
    split at done
    · cases done
    · cases done
    · cases done
    · next installConfig authority timeout specified trusted timed =>
      cases done
      exact ⟨installConfig, authority, timeout, specified, trusted, timed, rfl⟩
  · rintro ⟨installConfig, authority, timeout, specified, trusted, timed, rfl⟩
    rw [specified, trusted, timed]

/-- With the same variables but for the address of the server, the same settings are read but for that. -/
theorem read_of_variables {v : World}
    (same : ∀ name, name ≠ "RHCOS_BASE_URL" → v.environment.get? name = w.environment.get? name) :
    (runFrom v read).1 = (runFrom w read).1.map fun s => { s with baseUrl := v.baseUrl } := by
  have settings (name : String) (other : name ≠ "RHCOS_BASE_URL") : v.setting name = w.setting name :=
    World.setting_congr (same name other)
  have timeout : v.timeout = w.timeout := by
    rw [World.timeout, World.timeout, settings _ (by decide)]
  have output : v.output = w.output := by
    rw [World.output, World.output, settings _ (by decide)]
  have staticImage : v.staticImage = w.staticImage := by
    rw [World.staticImage, World.staticImage, settings _ (by decide)]
  rw [runFrom_read, runFrom_read, settings _ (by decide), settings _ (by decide), timeout, output, staticImage]
  split <;> rfl

/-- With the same variables the same settings are read. -/
theorem read_of_environment {v : World} (same : v.environment = w.environment) :
    (runFrom v read).1 = (runFrom w read).1 := by
  have url : v.baseUrl = w.baseUrl := by
    have set : v.setting "RHCOS_BASE_URL" = w.setting "RHCOS_BASE_URL" := World.setting_congr (by rw [same])
    rw [World.baseUrl, World.baseUrl, set]
  rw [read_of_variables (w := w) fun name _ => by rw [same]]
  cases done : (runFrom w read).1 with
  | error e => rfl
  | ok s =>
    obtain ⟨_, _, _, _, _, _, rfl⟩ := read_eq_ok.1 done
    rw [url]
    rfl

theorem source_of_read (read : (runFrom w read).1 = .ok s) : ImageSource.ofSettings s = w.source := by
  obtain ⟨installConfig, authority, timeout, _, _, _, rfl⟩ := read_eq_ok.1 read
  rfl

end Settings
end MachineOperator
