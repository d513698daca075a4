import MachineOperator.Url.Basic

/-!
Reading an address from a text, either on its own or relative to another one. Blanks around the text, line breaks
and tabs in it, credentials and a default port are left out, dots in a path are resolved, and what may not
stand somewhere is percent-encoded.
-/
namespace MachineOperator.Url

/-! Paths -/

def lowered (cs : List Char) : List Char := cs.map Char.toLower

def isDot (cs : List Char) : Bool := lowered cs == ['.'] || lowered cs == ['%', '2', 'e']

def isDoubleDot (cs : List Char) : Bool :=
  [['.', '.'], ['.', '%', '2', 'e'], ['%', '2', 'e', '.'], ['%', '2', 'e', '%', '2', 'e']].contains (lowered cs)

def segment (cs : List Char) : String := String.ofList (percentEncode escapedInPath cs)

/-- The names on a path, the last first: a dot stays where it is, and two dots go back by one. -/
def walk : List String → List (List Char) → List String
  | names, [] => names
  | names, [last] =>
    if isDoubleDot last then "" :: names.drop 1
    else if isDot last then "" :: names
    else segment last :: names
  | names, s :: r =>
    if isDoubleDot s then walk (names.drop 1) r
    else if isDot s then walk names r
    else walk (segment s :: names) r

def isSlash (special : Bool) (c : Char) : Bool := c == '/' || (special && c == '\\')

def walkFrom (special : Bool) (names : List String) (cs : List Char) : Path :=
  .segments (walk names.reverse (cs.splitOnP (isSlash special))).reverse

/-- A path after an authority. -/
def rootedPath (special : Bool) (cs : List Char) : Path :=
  match cs with
  | [] => if special then .segments [""] else .segments []
  | c :: r => if isSlash special c then walkFrom special [] r else walkFrom special [] (c :: r)

/-! Parts -/

/-- A text divided at its first question mark and number sign. -/
structure Parts where
  path : List Char
  query : Option (List Char)
  fragment : Option (List Char)

def Parts.ofText (cs : List Char) : Parts :=
  let (rest, fragment) := cs.span (· ≠ '#')
  let (path, query) := rest.span (· ≠ '?')
  { path, query := query.tail?, fragment := fragment.tail? }

def encodedQuery (special : Bool) (p : Parts) : Option String :=
  p.query.map fun cs => String.ofList (percentEncode (escapedInQuery special) cs)

def encodedFragment (p : Parts) : Option String :=
  p.fragment.map fun cs => String.ofList (percentEncode escapedInFragment cs)

/-! Authorities -/

/-- Up to what ends an authority, and the rest. -/
def takeAuthority (special : Bool) (cs : List Char) : List Char × List Char :=
  cs.span fun c => !(isSlash special c || c == '?' || c == '#')

/-- What follows the last at sign, and whether there is one. -/
def dropCredentials (cs : List Char) : Bool × List Char :=
  let after := (cs.reverse.takeWhile (· ≠ '@')).reverse
  (cs.contains '@', after)

/-- Up to a colon that stands in no brackets. -/
def takeHost : Bool → List Char → List Char × List Char
  | _, [] => ([], [])
  | inside, c :: r =>
    if c == ':' && !inside then ([], c :: r)
    else
      let inside := if c == '[' then true else if c == ']' then false else inside
      let (host, rest) := takeHost inside r
      (c :: host, rest)

/-- A port, and nothing if it is the scheme's own. -/
def port? (scheme : String) (cs : List Char) : Option (Option Nat) :=
  if cs.isEmpty then some none
  else do
    let n ← cs.foldlM (fun n c => (digitValue? 10 c).map (10 * n + ·)) 0
    if 65535 < n then none else if defaultPort? scheme = some n then some none else some (some n)

/-- An address from the text after the slashes that start an authority. -/
def ofAuthority? [NameRules] (scheme : String) (cs : List Char) : Option Url := do
  let special := isSpecial scheme
  let (authority, rest) := takeAuthority special cs
  let (hasCredentials, authority) := dropCredentials authority
  let (hostText, portText) := takeHost false authority
  if hostText.isEmpty && (special || hasCredentials || !portText.isEmpty) then none
  let host ← if special then Host.domain? hostText else Host.verbatim? hostText
  let port ← port? scheme (portText.drop 1)
  let parts := Parts.ofText rest
  return { scheme, host, port, path := rootedPath special parts.path
           query := encodedQuery special parts, fragment := encodedFragment parts }

/-- The host of a file: none, or the name of a machine that is not this one. -/
def fileHost? [NameRules] (cs : List Char) : Option Host := do
  if cs.isEmpty then return noHost
  let host ← Host.domain? cs
  return if host = .name "localhost" then noHost else host

def ofFile? [NameRules] (cs : List Char) : Option Url := do
  let (host, rest) ←
    match cs with
    | a :: b :: r =>
      if isSlash true a && isSlash true b then
        let (hostText, rest) := takeAuthority true r
        (fileHost? hostText).map (·, rest)
      else some (noHost, cs)
    | _ => some (noHost, cs)
  let parts := Parts.ofText rest
  return { scheme := "file", host := some host, port := none, path := rootedPath true parts.path
           query := encodedQuery true parts, fragment := encodedFragment parts }

/-- An address of a scheme that is not special, from the text after its colon. -/
def ofOther? [NameRules] (scheme : String) (cs : List Char) : Option Url :=
  match cs with
  | '/' :: '/' :: r => ofAuthority? scheme r
  | _ =>
    let parts := Parts.ofText cs
    let path :=
      match parts.path with
      | '/' :: r => walkFrom false [] r
      | path => .undivided (String.ofList (percentEncode escapedEverywhere path))
    some { scheme, host := none, port := none, path, query := encodedQuery false parts, fragment := encodedFragment parts }

/-! Texts -/

def isSchemeChar (c : Char) : Bool := c.isAlphanum || c == '+' || c == '-' || c == '.'

/-- The scheme, and the text after its colon. -/
def takeScheme? (cs : List Char) : Option (String × List Char) :=
  match cs.span isSchemeChar with
  | (c :: r, ':' :: rest) => if c.isAlpha then some (String.ofList (lowered (c :: r)), rest) else none
  | _ => none

def isTrimmed (c : Char) : Bool := c.toNat ≤ 0x20

def isIgnored (c : Char) : Bool := c == '\t' || c == '\n' || c == '\r'

def clean (text : String) : List Char :=
  (((text.toList.dropWhile isTrimmed).reverse.dropWhile isTrimmed).reverse).filter (!isIgnored ·)

def ofScheme? [NameRules] (scheme : String) (cs : List Char) : Option Url :=
  if scheme = "file" then ofFile? cs
  else if isSpecial scheme then ofAuthority? scheme (cs.dropWhile (isSlash true))
  else ofOther? scheme cs

/-- The address that a text is on its own. -/
def parse? [NameRules] (text : String) : Option Url := do
  let (scheme, rest) ← takeScheme? (clean text)
  ofScheme? scheme rest

def Path.names : Path → List String
  | .segments names => names
  | .undivided _ => []

/-- The address that a text without a scheme is, as seen from the base. -/
def relative? [NameRules] (base : Url) (cs : List Char) : Option Url :=
  let special := isSpecial base.scheme
  match cs with
  | a :: b :: r =>
    if isSlash special a && isSlash special b then ofAuthority? base.scheme (r.dropWhile (isSlash special))
    else within cs
  | _ => within cs
where
  within (cs : List Char) : Option Url :=
    let special := isSpecial base.scheme
    let parts := Parts.ofText cs
    let path :=
      match parts.path with
      | [] => base.path
      | c :: r =>
        if isSlash special c then walkFrom special [] r else walkFrom special base.path.names.dropLast (c :: r)
    let query := if parts.path.isEmpty && parts.query.isNone then base.query else encodedQuery special parts
    some { base with path, query, fragment := encodedFragment parts }

/-- The address that a text is, as seen from a base of a special scheme. -/
def join? [NameRules] (base : Url) (text : String) : Option Url :=
  match takeScheme? (clean text) with
  | none => relative? base (clean text)
  | some (scheme, rest) =>
    if scheme = base.scheme && (rest.takeWhile (isSlash true)).length < 2 then relative? base rest
    else ofScheme? scheme rest

end MachineOperator.Url
