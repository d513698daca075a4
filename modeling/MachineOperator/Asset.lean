import MachineOperator.OperatorConfig.File
import MachineOperator.OperatorConfig.Generation
import MachineOperator.OutputDirectory

/-!
The configuration as something that is generated from other things: it remembers what was generated last.
-/
namespace MachineOperator

/-- What an asset is generated from. -/
inductive Dependency where
  | installConfig
  | aggregatorAuthority
deriving DecidableEq

def Dependency.name : Dependency → String
  | installConfig => "Install Config"
  | aggregatorAuthority => "Certificate (aggregator)"

/-- The configuration that was generated last and the file that it is written as, if there are any. -/
structure Asset where
  config? : Option OperatorConfig
  file? : Option AssetFile
deriving DecidableEq

namespace Asset

def name : String := OperatorConfig.assetName

def dependencies : List Dependency := [.installConfig, .aggregatorAuthority]

def dependencyNames : List String := dependencies.map Dependency.name

/-- Nothing is generated yet. -/
def new : Asset := { config? := none, file? := none }

def files (a : Asset) : List AssetFile := a.file?.toList

variable {m : Type → Type} [Monad m]

/-- A failure leaves what was generated before. The configuration and its file are replaced one after the other, once both
are there. -/
def generate [Journal m] (resolve : Resolver m) (a : Asset) (cluster : InstallConfig)
    (authority : CertificateAuthority) : m (Except OperatorConfig.GenerationError Unit × Asset) := do
  match ← (OperatorConfig.forCluster resolve cluster authority).run with
  | .error e => return (.error e, a)
  | .ok config =>
    let file := config.marshal
    Journal.report (.generated file.filename config.provider file.digest)
    let a := { a with config? := some config }
    return (.ok (), { a with file? := some file })

/-- Whether something was found that makes generating needless. The asset is always generated anew, so a file of
an earlier run is never looked for. -/
def load (a : Asset) (_ : OutputDirectory) : m (Except OutputDirectory.FetchError Bool × Asset) :=
  pure (.ok false, a)

end Asset
end MachineOperator
