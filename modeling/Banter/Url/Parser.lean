import Banter.Url.Host

/-! URLs of the web: taking a text apart and writing it in its normal form. -/
namespace Banter

/-- A URL of the schemes `http` and `https`: scheme and host in lowercase, the port only if it is
not the scheme's own, the path as segments between slashes. -/
structure Url where
  scheme : List Char
  username : List Char
  password : List Char
  host : Url.Host
  port : Option Nat
  segments : List (List Char)
  query : Option (List Char)
  fragment : Option (List Char)
  deriving DecidableEq, Repr

namespace Url

inductive Refusal where
  | flaw (f : Flaw)
  | scheme
  deriving DecidableEq, Repr

/-- Controls and spaces at the ends do not count, nor do tabs and line ends anywhere. -/
def clean (s : List Char) : List Char :=
  let outer (c : Char) : Bool := c.toNat ≤ 0x20
  ((s.dropWhile outer).reverse.dropWhile outer).reverse.filter fun c =>
    c ≠ '\t' && c ≠ '\n' && c ≠ '\r'

def takeSchemeRest : List Char → Option (List Char × List Char)
  | [] => none
  | c :: rest =>
    if c = ':' then some ([], rest)
    else if c.isAlphanum || c = '+' || c = '-' || c = '.' then
      (takeSchemeRest rest).map fun (scheme, after) => (c.toLower :: scheme, after)
    else none

def takeScheme (s : List Char) : Option (List Char × List Char) :=
  match s with
  | c :: _ => if c.isAlpha then takeSchemeRest s else none
  | [] => none

inductive Kind where
  | web
  | file
  | other
  deriving DecidableEq

def kindOf (scheme : List Char) : Kind :=
  if ["http", "https", "ws", "wss", "ftp"].contains (String.ofList scheme) then .web
  else if scheme = "file".toList then .file
  else .other

def defaultPort (scheme : List Char) : Option Nat :=
  [("http", 80), ("https", 443), ("ws", 80), ("wss", 443), ("ftp", 21)].lookup
    (String.ofList scheme)

/-- A slash of the web may lean either way. -/
def isSlash (web : Bool) (c : Char) : Bool :=
  c == '/' || (web && c == '\x5c')

def endsAuthority (web : Bool) (c : Char) : Bool :=
  isSlash web c || c == '?' || c == '#'

/-- User and host part, from the last at sign of the authority. -/
def splitUser (web : Bool) (s : List Char) : Option (List Char) × List Char :=
  let authority := s.takeWhile fun c => !endsAuthority web c
  let after := s.dropWhile fun c => !endsAuthority web c
  let hostPart := (authority.reverse.takeWhile (· ≠ '@')).reverse
  if hostPart.length < authority.length then
    (some (authority.take (authority.length - hostPart.length - 1)), hostPart ++ after)
  else (none, s)

def splitCredentials (user : List Char) : List Char × List Char :=
  (percentEncode userinfoSet (user.takeWhile (· ≠ ':')),
    percentEncode userinfoSet ((user.dropWhile (· ≠ ':')).drop 1))

/-- The text of the host, up to a colon outside of brackets. -/
def splitHost (web : Bool) : Bool → List Char → List Char × List Char
  | _, [] => ([], [])
  | bracketed, c :: rest =>
    if endsAuthority web c || (c = ':' && !bracketed) then ([], c :: rest)
    else
      let (host, after) := splitHost web (if c = '[' then true else if c = ']' then false
        else bracketed) rest
      (c :: host, after)

/-- The port behind a colon. No digits are no port. -/
def takePort (s : List Char) : Except Flaw (Option Nat × List Char) :=
  match s with
  | ':' :: rest =>
    let digits := rest.takeWhile Char.isDigit
    let after := rest.dropWhile Char.isDigit
    let port : Nat := digits.foldl (fun n c => 10 * n + (c.toNat - 48)) 0
    if 65535 < port then .error .badPort
    else if after.head?.all fun c => endsAuthority true c then
      .ok (if digits.isEmpty then none else some port, after)
    else .error .badPort
  | _ => .ok (none, s)

/-- Escapes of a full stop count as one. -/
def isDot (s : List Char) : Bool :=
  ["." , "%2e"].contains (String.ofList (s.map Char.toLower))

def isDoubleDot (s : List Char) : Bool :=
  ["..", ".%2e", "%2e.", "%2e%2e"].contains (String.ofList (s.map Char.toLower))

/-- Walk along segments. Dots stay where they are or go back. -/
def resolve : List (List Char) → List (List Char) → List (List Char)
  | path, [] => path
  | path, [last] =>
    if isDoubleDot last then path.dropLast ++ [[]]
    else if isDot last then path ++ [[]]
    else path ++ [last]
  | path, segment :: rest =>
    if isDoubleDot segment then resolve path.dropLast rest
    else if isDot segment then resolve path rest
    else resolve (path ++ [segment]) rest

/-- The segments of a path of the web. The slash in front is optional. -/
def parsePath (s : List Char) : List (List Char) :=
  let inner := match s with
    | c :: rest => if isSlash true c then rest else s
    | [] => []
  resolve [] ((inner.splitOnP (isSlash true)).map (percentEncode pathSet))

def splitAt (mark : Char) (s : List Char) : List Char × Option (List Char) :=
  match s.dropWhile (· ≠ mark) with
  | [] => (s, none)
  | _ :: after => (s.takeWhile (· ≠ mark), some after)

def parseWeb (scheme : List Char) (s : List Char) : Except Flaw Url := do
  let (user, rest) := splitUser true s
  let (username, password) := splitCredentials (user.getD [])
  let (hostText, afterHost) := splitHost true false rest
  if hostText.isEmpty then throw .emptyHost
  let host ← parseHost hostText
  let (port, afterPort) ← takePort afterHost
  let (beforeFragment, fragment) := splitAt '#' afterPort
  let (path, query) := splitAt '?' beforeFragment
  return {
    scheme, username, password, host
    port := if port = defaultPort scheme then none else port
    segments := parsePath path
    query := query.map (percentEncode querySet)
    fragment := fragment.map (percentEncode fragmentSet) }

/-- A lone colon is no name and no secret. An at sign with nothing before it counts only if
something follows. -/
def callsForHost (user : Option (List Char)) (rest : List Char) : Bool :=
  match user with
  | none => false
  | some [] => !rest.isEmpty
  | some name => name ≠ [':']

def checkOther (s : List Char) : Except Flaw Unit :=
  match s with
  | '/' :: '/' :: rest => do
    let (user, rest) := splitUser false rest
    let (hostText, afterHost) := splitHost false false rest
    checkOpaqueHost hostText
    if hostText.isEmpty && (callsForHost user rest || afterHost.head? == some ':') then
      throw .emptyHost
    let _ ← takePort afterHost
    return ()
  | _ => .ok ()

/-- A letter and a colon or bar, as in the names of drives. -/
def isDrive (s : List Char) : Bool :=
  match s with
  | [c, d] => c.isAlpha && (d == ':' || d == '|')
  | _ => false

def checkFile (s : List Char) : Except Flaw Unit :=
  match s with
  | a :: b :: rest =>
    if isSlash true a && isSlash true b then do
      let hostText := rest.takeWhile fun c => !endsAuthority true c
      if hostText.isEmpty || isDrive hostText then return ()
      let _ ← parseHost hostText
      return ()
    else .ok ()
  | _ => .ok ()

def liftFlaw {α : Type} : Except Flaw α → Except Refusal α
  | .ok a => .ok a
  | .error f => .error (.flaw f)

/-- A URL for requests. A text with a flaw is refused for the flaw, whatever its scheme. -/
def parse (text : List Char) : Except Refusal Url :=
  if text.isEmpty then .error (.flaw .empty)
  else
    match takeScheme (clean text) with
    | none => .error (.flaw .noBase)
    | some (scheme, rest) =>
      match kindOf scheme with
      | .web => do
        let url ← liftFlaw (parseWeb scheme (rest.dropWhile (isSlash true)))
        if scheme = "http".toList ∨ scheme = "https".toList then return url else throw .scheme
      | .file => do
        liftFlaw (checkFile rest)
        throw .scheme
      | .other => do
        liftFlaw (checkOther rest)
        throw .scheme

def writeCredentials (u : Url) : List Char :=
  if u.username.isEmpty && u.password.isEmpty then []
  else u.username ++ (if u.password.isEmpty then [] else ':' :: u.password) ++ ['@']

def writePath (u : Url) : List Char :=
  u.segments.flatMap ('/' :: ·)

def writePart (mark : Char) : Option (List Char) → List Char
  | none => []
  | some part => mark :: part

def write (u : Url) : List Char :=
  u.scheme ++ "://".toList ++ writeCredentials u ++ u.host.write ++
    writePart ':' (u.port.map (Nat.toDigits 10)) ++ writePath u ++ writePart '?' u.query ++
    writePart '#' u.fragment

def text (u : Url) : String :=
  String.ofList u.write

end Url
end Banter
