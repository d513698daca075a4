import MachineOperator.Url.Host

/-!
Addresses on the web, in the one form that each has, and their text.
-/
namespace MachineOperator

/-- The path of an address: segments after slashes, or a text that is not divided. -/
inductive Url.Path where
  | segments (names : List String)
  | undivided (text : String)
deriving DecidableEq

structure Url where
  scheme : String
  host : Option Url.Host
  port : Option Nat
  path : Url.Path
  query : Option String
  fragment : Option String
deriving DecidableEq

namespace Url

def specialSchemes : List String := ["http", "https", "ws", "wss", "ftp", "file"]

/-- Addresses of a special scheme have a host and a path of segments, and backslashes count as slashes. -/
def isSpecial (scheme : String) : Bool := specialSchemes.contains scheme

/-- The port that needs not be given. -/
def defaultPort? : String → Option Nat
  | "http" | "ws" => some 80
  | "https" | "wss" => some 443
  | "ftp" => some 21
  | _ => none

def noHost : Host := .name ""

/-- Whether there is a host, and not just the place for one. -/
def hasHost (u : Url) : Bool := u.host.any (· ≠ noHost)

def authorityText (u : Url) : String :=
  match u.host with
  | none => ""
  | some host => "//" ++ host.toText ++ (u.port.map fun port => ":" ++ toString port).getD ""

/-- Without a host, a path must not start with two slashes. -/
def pathText (u : Url) : String :=
  match u.path with
  | .undivided text => text
  | .segments names =>
    let text := String.join (names.map ("/" ++ ·))
    if u.host.isNone && text.startsWith "//" then "/." ++ text else text

def queryText (u : Url) : String := (u.query.map ("?" ++ ·)).getD ""

def toText (u : Url) : String :=
  u.scheme ++ ":" ++ u.authorityText ++ u.pathText ++ u.queryText ++ (u.fragment.map ("#" ++ ·)).getD ""

/-- What a server is asked for. -/
def target (u : Url) : String := u.pathText ++ u.queryText

end Url
end MachineOperator
