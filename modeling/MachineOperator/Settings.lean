import MachineOperator.Bytes
import MachineOperator.Effect
import MachineOperator.Release.Server
import MachineOperator.Release.StaticImages
import MachineOperator.Text.Blank

/-!
What a run is told by its environment. A variable that is needed has to be text; any other one that is no text
counts as one that is not set.
-/
namespace MachineOperator

structure Settings where
  installConfig : File.Path
  authority : File.Path
  output : File.Path
  baseUrl : String
  /-- How long to wait for a server, in seconds. -/
  timeout : UInt64
  /-- An image for every region, instead of those of the server. -/
  staticImage : Option String
deriving DecidableEq

namespace Settings

inductive VariableError where
  | notSet
  | noText (data : ByteArray)
deriving DecidableEq

namespace VariableError

def message : VariableError → String
  | notSet => "environment variable not found"
  | noText data => "environment variable was not valid unicode: " ++ Text.quotedBytes data

def outline : VariableError → String
  | notSet => "NotPresent"
  | noText data => "NotUnicode(" ++ Text.quotedBytes data ++ ")"

end VariableError

inductive NumberError where
  | empty
  | digit
  | overflow
deriving DecidableEq

namespace NumberError

def message : NumberError → String
  | empty => "cannot parse integer from empty string"
  | digit => "invalid digit found in string"
  | overflow => "number too large to fit in target type"

def kind : NumberError → String
  | empty => "Empty"
  | digit => "InvalidDigit"
  | overflow => "PosOverflow"

def outline (e : NumberError) : String := Text.outline "ParseIntError" [("kind", e.kind)]

end NumberError

inductive Error where
  | missing (name : String) (cause : VariableError)
  | noNumber (name : String) (cause : NumberError)
deriving DecidableEq

namespace Error

def message : Error → String
  | missing name cause => "missing env " ++ name ++ ": " ++ cause.message
  | noNumber name cause => "invalid env " ++ name ++ ": " ++ cause.message

def outline : Error → String
  | missing name cause => Text.outline "MissingEnv" [("key", Text.quoted name), ("source", cause.outline)]
  | noNumber name cause => Text.outline "InvalidEnv" [("key", Text.quoted name), ("source", cause.outline)]

end Error

/-- Digits after a number, as long as it fits into a word. -/
def readDigits : Nat → List Char → Except NumberError Nat
  | n, [] => .ok n
  | n, c :: r =>
    if !c.isDigit then .error .digit
    else if 10 * n + (c.toNat - 48) < UInt64.size then readDigits (10 * n + (c.toNat - 48)) r
    else .error .overflow

/-- Decimal digits, after a plus sign or without one. -/
def readNumber (text : String) : Except NumberError UInt64 :=
  match text.toList with
  | [] => .error .empty
  | ['+'] => .error .digit
  | '+' :: r => (readDigits 0 r).map UInt64.ofNat
  | cs => (readDigits 0 cs).map UInt64.ofNat

def defaultOutput : File.Path := ⟨"."⟩
def defaultTimeout : UInt64 := 30

variable {m : Type → Type} [Monad m] [Environment m]

def needed (name : String) : ExceptT Error m String := do
  match ← ExceptT.lift (Environment.lookup? name) with
  | none => throw (.missing name .notSet)
  | some data =>
    match String.fromUTF8? data with
    | some text => return text
    | none => throw (.missing name (.noText data))

def optional? (name : String) : ExceptT Error m (Option String) := do
  return (← ExceptT.lift (Environment.lookup? name)).bind String.fromUTF8?

def numberOr (default : UInt64) (name : String) : ExceptT Error m UInt64 := do
  match ← optional? name with
  | none => return default
  | some text =>
    match readNumber text with
    | .ok n => return n
    | .error cause => throw (.noNumber name cause)

/-- The first variable that is wrong decides what is reported. -/
def read : ExceptT Error m Settings := do
  let installConfig ← needed "INSTALL_CONFIG_PATH"
  let authority ← needed "AGGREGATOR_CA_PATH"
  let output ← optional? "OUTPUT_DIR"
  let baseUrl ← optional? "RHCOS_BASE_URL"
  let timeout ← numberOr defaultTimeout "RHCOS_TIMEOUT_SECONDS"
  let staticImage ← optional? "RHCOS_STATIC_IMAGE"
  return { installConfig := ⟨installConfig⟩
           authority := ⟨authority⟩
           output := (output.map File.Path.mk).getD defaultOutput
           baseUrl := baseUrl.getD Release.defaultBaseUrl
           timeout
           staticImage := staticImage.filter fun image => !Text.isAllBlank image }

end Settings

/-- Where images come from. -/
inductive ImageSource where
  | fixed (images : Release.StaticImages)
  | server (source : Release.Server)

namespace ImageSource

def ofSettings (s : Settings) : ImageSource :=
  match s.staticImage with
  | some image => .fixed (.everywhere image)
  | none => .server (.ofUrl s.baseUrl)

def resolver {m : Type → Type} [Monad m] [Web m] [Journal m] [Url.NameRules] : ImageSource → Resolver m
  | .fixed images => images.resolver
  | .server source => source.resolver

end ImageSource
end MachineOperator
