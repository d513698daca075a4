import MachineOperator.Main
import MachineOperator.Proofs.Generator
import MachineOperator.World
import MachineOperator.Proofs.Asset.Published
import MachineOperator.Proofs.Release.Server
import MachineOperator.Proofs.File.Directories
import MachineOperator.Proofs.Generator.Course
import MachineOperator.Proofs.Generator.Failure
import MachineOperator.Proofs.File.Ancestors
import MachineOperator.Proofs.File.Alike
import MachineOperator.Proofs.Generator.Repeat
import MachineOperator.Proofs.Asset.Essence
import MachineOperator.Proofs.Asset.Consulted
import MachineOperator.Proofs.Generator.Offline
import MachineOperator.Proofs.Settings.Outcome
import MachineOperator.Proofs.File.Shape
import MachineOperator.Proofs.File.Stops
import MachineOperator.Proofs.OutputDirectory.Written
import MachineOperator.Proofs.OutputDirectory.Fetched
import MachineOperator.Proofs.Generator.Seen
import MachineOperator.Proofs.Release.StaticImages
import MachineOperator.Proofs.Documents
import MachineOperator.Proofs.Replicas
import MachineOperator.Proofs.Release.Build
import MachineOperator.Proofs.AssetFile
import MachineOperator.Proofs.Release.BaseUrl
import MachineOperator.Proofs.Generator.Authority
import MachineOperator.Proofs.Generator.Reported
