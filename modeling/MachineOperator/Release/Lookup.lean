import MachineOperator.Http
import MachineOperator.Json.Fault
import MachineOperator.Text.Outline

/-!
Looking up the image that machines of a region are booted from, and why there may be none.
-/
namespace MachineOperator

namespace Release

/-- What is asked of the release server. -/
inductive Operation where
  | builds
  | buildMeta
deriving DecidableEq

def Operation.name : Operation → String
  | builds => "get_builds"
  | buildMeta => "get_build_meta"

/-- Why no image is found. The address is the one that was asked first, as it was put together. That there is nothing to
ask with is no such cause: a server is asked through `Web`, which a program that looks up images has from the start. -/
inductive LookupError where
  | request (operation : Operation) (address : String) (failure : Http.Failure)
  | status (operation : Operation) (address : String) (answer : Http.BadStatus)
  | decode (operation : Operation) (address : String) (cause : Json.Error)
  | noBuilds (channel : String)
  | noImage (region build : String)
deriving DecidableEq

def LookupError.message : LookupError → String
  | .request operation address failure =>
    "RHCOS request failed during " ++ operation.name ++ " " ++ address ++ ": " ++ failure.message
  | .status operation address answer =>
    "RHCOS server returned non-success during " ++ operation.name ++ " " ++ address ++ ": " ++ answer.message
  | .decode operation address _ =>
    "failed to decode RHCOS response during " ++ operation.name ++ " " ++ address ++ ": error decoding response body"
  | .noBuilds channel => "no RHCOS builds found in channel " ++ channel
  | .noImage region build => "no RHCOS AMIs found in " ++ region ++ " for build " ++ build

/-- What is wrong with a request or its response, by its kind, its address and its cause. -/
def outlineHttp (kind : String) (url : Option Url) (cause : Option String) : String :=
  Text.outline "reqwest::Error" <|
    [("kind", kind)] ++ (url.map fun u => ("url", Text.quoted u.toText)).toList ++ (cause.map (("source", ·))).toList

def outlineFailure : Http.Failure → String
  | .noUrl => outlineHttp "Builder" none (some "RelativeUrlWithoutBase")
  | .unsupported url => outlineHttp "Builder" (some url) (some "BadScheme")
  | .unreachable url => outlineHttp "Request" (some url) none
  | .tooManyRedirections url => outlineHttp "Redirect" (some url) (some "TooManyRedirects")

/-- An error at an operation, with what the outline of its cause says. -/
def outlineAt (name : String) (operation : Operation) (address cause : String) : String :=
  Text.outline name [("operation", Text.quoted operation.name), ("url", Text.quoted address), ("source", cause)]

def LookupError.outline : LookupError → String
  | .request operation address failure => outlineAt "Request" operation address (outlineFailure failure)
  | .status operation address answer =>
    outlineAt "ResponseStatus" operation address
      (outlineHttp ("Status(" ++ toString answer.status ++ ", None)") (some answer.url) none)
  | .decode operation address cause =>
    outlineAt "Decode" operation address (outlineHttp "Decode" none (some cause.outline))
  | .noBuilds channel => Text.outline "NoBuilds" [("channel", Text.quoted channel)]
  | .noImage region build =>
    Text.outline "NoImageForRegion" [("region", Text.quoted region), ("build", Text.quoted build)]

end Release

/-- Finds the image for a channel and a region. -/
abbrev Resolver (m : Type → Type) := (channel region : String) → ExceptT Release.LookupError m String

end MachineOperator
