import MachineOperator.Effect
import MachineOperator.Release.Build
import MachineOperator.Release.Lookup

/-!
Looking up images on a release server: first the newest build of the channel, then that build's image for the
region.
-/
namespace MachineOperator.Release

/-- The text without the slashes that it ends in. -/
def trimSlashes (text : String) : String := String.ofList (text.toList.reverse.dropWhile (· = '/')).reverse

structure Server where
  baseUrl : String
deriving DecidableEq

def defaultBaseUrl : String := "https://releases-rhcos.svc.ci.openshift.org/storage/releases/maipo"

namespace Server

def ofUrl (url : String) : Server := ⟨trimSlashes url⟩

def buildsAddress (s : Server) (channel : String) : String := s.baseUrl ++ "/" ++ channel ++ "/builds.json"

def metaAddress (s : Server) (channel build : String) : String :=
  s.baseUrl ++ "/" ++ channel ++ "/" ++ build ++ "/meta.json"

variable {m : Type → Type} [Monad m] [Web m] [Url.NameRules]

/-- A document of the server, or the first thing that went wrong on the way to it. -/
def fetch (operation : Operation) (address : String) (decode : List UInt8 → Except Json.Error α) :
    ExceptT LookupError m α := do
  match ← ExceptT.lift (Http.get Web.send address) with
  | .error failure => throw (.request operation address failure)
  | .ok (url, response) =>
    if Http.isError response.status then throw (.status operation address ⟨response.status, url⟩)
    match decode response.document with
    | .ok v => return v
    | .error cause => throw (.decode operation address cause)

def resolver [Journal m] (s : Server) : Resolver m := fun channel region => do
  let index ← fetch .builds (s.buildsAddress channel) BuildIndex.decode
  let some build := index.latest? | throw (.noBuilds channel)
  ExceptT.lift (Journal.report (.buildFound channel build))
  let found ← fetch .buildMeta (s.metaAddress channel build) BuildMeta.decode
  let some image := found.imageIn? region | throw (.noImage region build)
  ExceptT.lift (Journal.report (.imageFound channel build region image))
  return image

end Server
end MachineOperator.Release
