import MachineOperator.Url.Read

/-!
Getting a document over the network. A redirection is followed up to a limit; every request is sent once.
-/
namespace MachineOperator.Http

structure Response where
  status : Nat
  body : List UInt8
  location : Option String := none
deriving DecidableEq

/-- What each address answers; nothing can be reached at an address without an answer. -/
abbrev Network := Url → Option Response

/-- Why there is no response. -/
inductive Failure where
  | noUrl
  | unsupported (url : Url)
  | unreachable (url : Url)
  | tooManyRedirections (url : Url)
deriving DecidableEq

def Failure.message : Failure → String
  | .noUrl => "builder error"
  | .unsupported url => "builder error for url (" ++ url.toText ++ ")"
  | .unreachable url => "error sending request for url (" ++ url.toText ++ ")"
  | .tooManyRedirections url => "error following redirect for url (" ++ url.toText ++ ")"

/-- Characters that a name may hold, but not in a request. -/
def isUnsendable (c : Char) : Bool := ['"', '`', '{', '}'].contains c

def longestUrl : Nat := 65534

/-- Whether an address can be written into a request. -/
def isSendable (url : Url) : Bool :=
  !(url.authorityText.toList.any isUnsendable) && url.toText.utf8ByteSize ≤ longestUrl

/-- Whether an address is one that can be asked. -/
def isSupported (url : Url) : Bool :=
  url.hasHost && ["http", "https"].contains url.scheme && isSendable url

def mostRedirections : Nat := 10

def redirections : List Nat := [301, 302, 303, 307, 308]

/-- The address that a response leads on to. -/
def Response.next? [Url.NameRules] (r : Response) (url : Url) : Option Url := do
  if !redirections.contains r.status then none
  let next ← url.join? (← r.location)
  if isSendable next then some next else none

variable {m : Type → Type} [Monad m] [Url.NameRules]

/-- The response at the end of the redirections, with the address that it came from. -/
def follow (send : Url → m (Option Response)) : Nat → Url → m (Except Failure (Url × Response))
  | limit, url => do
    match ← send url with
    | none => return .error (.unreachable url)
    | some response =>
      match response.next? url, limit with
      | none, _ => return .ok (url, response)
      | some _, 0 => return .error (.tooManyRedirections url)
      | some next, limit + 1 =>
        if isSupported next then follow send limit next else return .error (.unsupported next)

def get (send : Url → m (Option Response)) (address : String) : m (Except Failure (Url × Response)) :=
  match Url.parse? address with
  | none => return .error .noUrl
  | some url => if isSupported url then follow send mostRedirections url else return .error (.unsupported url)

/-- A response that reports an error. -/
structure BadStatus where
  status : Nat
  url : Url
deriving DecidableEq

def isError (status : Nat) : Bool := 400 ≤ status && status ≤ 599

/-- The phrase that goes with a status. -/
def phrase : Nat → String
  | 400 => "Bad Request"
  | 401 => "Unauthorized"
  | 402 => "Payment Required"
  | 403 => "Forbidden"
  | 404 => "Not Found"
  | 405 => "Method Not Allowed"
  | 406 => "Not Acceptable"
  | 407 => "Proxy Authentication Required"
  | 408 => "Request Timeout"
  | 409 => "Conflict"
  | 410 => "Gone"
  | 411 => "Length Required"
  | 412 => "Precondition Failed"
  | 413 => "Payload Too Large"
  | 414 => "URI Too Long"
  | 415 => "Unsupported Media Type"
  | 416 => "Range Not Satisfiable"
  | 417 => "Expectation Failed"
  | 418 => "I'm a teapot"
  | 421 => "Misdirected Request"
  | 422 => "Unprocessable Entity"
  | 423 => "Locked"
  | 424 => "Failed Dependency"
  | 425 => "Too Early"
  | 426 => "Upgrade Required"
  | 428 => "Precondition Required"
  | 429 => "Too Many Requests"
  | 431 => "Request Header Fields Too Large"
  | 451 => "Unavailable For Legal Reasons"
  | 500 => "Internal Server Error"
  | 501 => "Not Implemented"
  | 502 => "Bad Gateway"
  | 503 => "Service Unavailable"
  | 504 => "Gateway Timeout"
  | 505 => "HTTP Version Not Supported"
  | 506 => "Variant Also Negotiates"
  | 507 => "Insufficient Storage"
  | 508 => "Loop Detected"
  | 510 => "Not Extended"
  | 511 => "Network Authentication Required"
  | _ => "<unknown status code>"

def BadStatus.message (e : BadStatus) : String :=
  "HTTP status " ++ (if e.status < 500 then "client" else "server") ++ " error (" ++ toString e.status ++ " " ++
    phrase e.status ++ ") for url (" ++ e.url.toText ++ ")"

/-- The document in a response. Two statuses say that there is none, whatever comes with them. -/
def Response.document (r : Response) : List UInt8 := if r.status = 204 || r.status = 304 then [] else r.body

end MachineOperator.Http
