import MachineOperator.File.Path
import MachineOperator.Provider
import MachineOperator.Text.Quoted

/-!
What is reported while the configuration is generated. An event says what happened; its level, its source, its
message and its fields follow from that.
-/
namespace MachineOperator

/-- How much an event matters, from the most to the least. -/
inductive Level where
  | error | warn | info | debug | trace
deriving DecidableEq

namespace Level

def name : Level → String
  | error => "ERROR"
  | warn => "WARN"
  | info => "INFO"
  | debug => "DEBUG"
  | trace => "TRACE"

def rank : Level → Nat
  | error => 1
  | warn => 2
  | info => 3
  | debug => 4
  | trace => 5

end Level

inductive Event where
  | lookupSkipped
  | authorityLoaded (name : String) (path : File.Path)
  | generating (asset : String) (dependencies : List String)
  | outputChecked (directory : File.Path)
  | rendering (provider : Provider) (cluster : String)
  | buildFound (channel build : String)
  | imageFound (channel build region image : String)
  | generated (filename : String) (provider : Provider) (digest : String)
  | fileWritten (path : File.Path) (size : Nat) (digest : String)
  | finished (files : Nat) (directory : File.Path)
  | failed (reason : String)
deriving DecidableEq

/-- The value of a field: a text, a number, or something shown as it is. -/
inductive Event.Value where
  | text (s : String)
  | number (n : Nat)
  | shown (s : String)
deriving DecidableEq

/-- A text is quoted. -/
def Event.Value.toText : Event.Value → String
  | .text s => Text.quoted s
  | .number n => toString n
  | .shown s => s

namespace Event

def level : Event → Level
  | failed .. => .error
  | lookupSkipped => .warn
  | generating .. | generated .. | fileWritten .. | finished .. => .info
  | authorityLoaded .. | outputChecked .. | rendering .. | buildFound .. | imageFound .. => .debug

/-- The part of the program that an event comes from. -/
def source : Event → String
  | buildFound .. | imageFound .. => "mao_config_rhcos"
  | rendering .. | generated .. => "mao_config_manifest::machine_api_operator"
  | _ => "mao_config_generator"

def message : Event → String
  | lookupSkipped => "RHCOS_STATIC_IMAGE set; skipping RHCOS metadata lookup"
  | authorityLoaded .. => "loaded certificate authority"
  | generating .. => "generating asset"
  | outputChecked .. => "checking for output of a previous run"
  | rendering .. => "rendering machine-api-operator config"
  | buildFound .. => "resolved latest RHCOS build"
  | imageFound .. => "resolved RHCOS AMI"
  | generated .. => "generated machine-api-operator config"
  | fileWritten .. => "wrote asset file"
  | finished .. => "assets written"
  | failed .. => "machine-api-operator config generation failed"

/-- The list of names in brackets. -/
def listed (names : List String) : String := "[" ++ String.intercalate ", " (names.map Text.quoted) ++ "]"

def fields : Event → List (String × Value)
  | lookupSkipped => []
  | authorityLoaded name path => [("ca", .text name), ("path", .shown path.text)]
  | generating asset dependencies => [("asset", .text asset), ("dependencies", .shown (listed dependencies))]
  | outputChecked directory => [("root", .shown directory.text)]
  | rendering provider cluster => [("provider", .text provider.name), ("cluster", .text cluster)]
  | buildFound channel build => [("channel", .text channel), ("build", .text build)]
  | imageFound channel build region image =>
    [("channel", .text channel), ("build", .text build), ("region", .text region), ("image", .text image)]
  | generated filename provider digest =>
    [("file", .shown filename), ("provider", .text provider.name), ("digest", .shown digest)]
  | fileWritten path size digest => [("path", .shown path.text), ("bytes", .number size), ("digest", .shown digest)]
  | finished files directory => [("files", .number files), ("output_dir", .shown directory.text)]
  | failed reason => [("error", .shown reason)]

/-- An event as a line of a log. -/
def line (e : Event) : String :=
  e.level.name ++ " " ++ e.source ++ ": " ++ e.message ++
    String.join (e.fields.map fun (name, value) => " " ++ name ++ "=" ++ value.toText)

end Event
end MachineOperator
