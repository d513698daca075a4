import MachineOperator.Asset
import MachineOperator.Settings

/-!
A run: the specification and the certificate are read, the configuration is generated and written. Every stage
starts only when the one before it has succeeded, and nothing is written before the configuration is there.
-/
namespace MachineOperator.Generator

/-- What is read. -/
inductive Input where
  | installConfig
  | authority
deriving DecidableEq

def Input.name : Input → String
  | installConfig => "install-config"
  | authority => "aggregator CA"

/-- Why a run ends. Searching for an earlier configuration may fail like any search, though this one looks at no file.
Making the source of images is no cause: it is made from settings alone, by functions that have no error. -/
inductive Error where
  | settings (cause : Settings.Error)
  | unreadable (input : Input) (path : File.Path) (cause : File.Error)
  | malformed (path : File.Path) (cause : Yaml.ReadError)
  | authority (cause : CertificateError)
  | loading (cause : OutputDirectory.FetchError)
  | generation (cause : OperatorConfig.GenerationError)
  | output (cause : OutputDirectory.WriteError)
deriving DecidableEq

namespace Error

def message : Error → String
  | settings cause => cause.message
  | unreadable input path cause => "failed to read " ++ input.name ++ " from " ++ path.text ++ ": " ++ cause.message
  | malformed path cause => "failed to parse install-config " ++ path.text ++ ": " ++ cause.message
  | authority cause => "failed to load aggregator CA: " ++ cause.message
  | loading cause => "failed to load " ++ Asset.name ++ " from previous run: " ++ cause.message
  | generation cause => "failed to generate " ++ Asset.name ++ ": " ++ cause.message
  | output cause => cause.message

def outline : Error → String
  | settings cause => cause.outline
  | unreadable input path cause =>
    Text.outline "ReadInput"
      [("what", Text.quoted input.name), ("path", Text.quoted path.text), ("source", cause.outline)]
  | malformed path cause =>
    Text.outline "ParseInstallConfig" [("path", Text.quoted path.text), ("source", cause.outline)]
  | authority cause => Text.outline "LoadCertificateAuthority" [("source", cause.outline)]
  | loading cause => Text.outline "LoadAsset" [("asset", Text.quoted Asset.name), ("source", cause.outline)]
  | generation cause => Text.outline "Generate" [("asset", Text.quoted Asset.name), ("source", cause.outline)]
  | output cause => cause.outline

end Error

/-- The name that the certificate authority is known by. -/
def authorityName : String := "aggregator-ca"

variable {m : Type → Type} [Monad m] [FileSystem m]

def readText (input : Input) (path : File.Path) : ExceptT Error m String := do
  match ← ExceptT.lift (FileSystem.read path) with
  | .error cause => throw (.unreadable input path cause)
  | .ok data =>
    match String.fromUTF8? data with
    | some text => return text
    | none => throw (.unreadable input path .noText)

def readInstallConfig (path : File.Path) : ExceptT Error m InstallConfig := do
  match InstallConfig.parse (← readText .installConfig path) with
  | .ok cluster => return cluster
  | .error cause => throw (.malformed path cause)

variable [Journal m]

def readAuthority (path : File.Path) : ExceptT Error m CertificateAuthority := do
  match CertificateAuthority.ofPem authorityName (← readText .authority path) with
  | .error cause => throw (.authority cause)
  | .ok authority =>
    ExceptT.lift (Journal.report (.authorityLoaded authority.name path))
    return authority

/-- Generates the configuration for a cluster unless one of an earlier run is found. -/
def generate (resolve : Resolver m) (output : OutputDirectory) (cluster : InstallConfig)
    (authority : CertificateAuthority) : ExceptT Error m Asset := do
  ExceptT.lift (Journal.report (.generating Asset.name Asset.dependencyNames))
  ExceptT.lift (Journal.report (.outputChecked output.path))
  let (loaded, asset) ← ExceptT.lift (Asset.new.load output)
  match loaded with
  | .error cause => throw (.loading cause)
  | .ok true => return asset
  | .ok false =>
    let (result, asset) ← ExceptT.lift (asset.generate resolve cluster authority)
    match result with
    | .error cause => throw (.generation cause)
    | .ok () => return asset

/-- The paths of the files that are written. -/
def generateInto (s : Settings) (resolve : Resolver m) : ExceptT Error m (List File.Path) := do
  let cluster ← readInstallConfig s.installConfig
  let authority ← readAuthority s.authority
  let output : OutputDirectory := ⟨s.output⟩
  let asset ← generate resolve output cluster authority
  (output.write asset.files).adapt .output

def run [Environment m] [Web m] [Url.NameRules] : ExceptT Error m Unit := do
  let s ← Settings.read.adapt .settings
  if s.staticImage.isSome then ExceptT.lift (Journal.report .lookupSkipped)
  let written ← generateInto s (ImageSource.ofSettings s).resolver
  ExceptT.lift (Journal.report (.finished written.length s.output))

end MachineOperator.Generator
