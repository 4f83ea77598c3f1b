import OutboxRelay.Url.Authority

namespace OutboxRelay

/-- The schemes whose addresses have a host and a path. -/
inductive Scheme
  | http
  | https
  | ws
  | wss
  | ftp
  deriving DecidableEq, Repr

namespace Scheme

def name : Scheme → String
  | http => "http"
  | https => "https"
  | ws => "ws"
  | wss => "wss"
  | ftp => "ftp"

def all : List Scheme := [http, https, ws, wss, ftp]

def ofName? (cs : List Char) : Option Scheme := all.find? fun scheme => scheme.name.toList = cs

/-- The number of the service that the scheme means. -/
def service : Scheme → Nat
  | http => 80
  | https => 443
  | ws => 80
  | wss => 443
  | ftp => 21

def isWeb (scheme : Scheme) : Bool := scheme = http || scheme = https

end Scheme

/-- An address in normal form. The path begins with a slash; the number of the service stands only
if it is not the usual one of the scheme. -/
structure Url extends Url.Authority where
  scheme : Scheme
  path : List Char
  query : Option (List Char)
  deriving DecidableEq, Repr

namespace Url

def chars (url : Url) : List Char :=
  let query := match url.query with
    | some cs => '?' :: cs
    | none => []
  url.scheme.name.toList ++ [':', '/', '/'] ++ url.toAuthority.chars ++ url.path ++ query

def text (url : Url) : String := String.ofList url.chars

def isText (cs : List Char) : Bool := (utf8Text? (percentDecode cs)).isSome

/-- The address without credentials that are text. Others stay a part of it. -/
def withoutCredentials (url : Url) : Url :=
  let name := url.credentials.takeWhile (· ≠ ':')
  let password := (url.credentials.dropWhile (· ≠ ':')).drop 1
  if isText name && (!name.isEmpty || isText password) then { url with credentials := [] } else url

def isSlash (c : Char) : Bool := c == '/' || c == '\\'

def isSingleDot (segment : List Char) : Bool :=
  [".", "%2e"].contains (String.ofList (segment.map Char.toLower))

def isDoubleDot (segment : List Char) : Bool :=
  ["..", ".%2e", "%2e.", "%2e%2e"].contains (String.ofList (segment.map Char.toLower))

/-- The letter of a drive, which has no parent. -/
def isDrive : List Char → Bool
  | [letter, mark] => letter.isAlpha && (mark == ':' || mark == '|')
  | _ => false

/-- The segments without the last one, which stands first. -/
def parentSegments : List (List Char) → List (List Char)
  | [] => []
  | segment :: rest => if isDrive segment then segment :: rest else rest

/-- Takes the segments of a path onto those that stand, last one first. A double dot removes one;
dots at the end leave an empty segment. -/
def resolveSegments : List (List Char) → List (List Char) → List (List Char)
  | stack, [] => stack
  | stack, segment :: rest =>
    let close (stack : List (List Char)) := if rest.isEmpty then [] :: stack else stack
    if isDoubleDot segment then resolveSegments (close (parentSegments stack)) rest
    else if isSingleDot segment then resolveSegments (close stack) rest
    else resolveSegments (segment :: stack) rest

/-- The parts of a text between slashes of either kind. -/
def splitSegments (cs : List Char) : List (List Char) :=
  splitOn '/' (cs.map fun c => if c = '\\' then '/' else c)

/-- The path that `cs` leads to from the segments of `base`, last one first. -/
def resolvePath (base : List (List Char)) (cs : List Char) : List Char :=
  let segments := resolveSegments base ((splitSegments cs).map (percentEncode isEncodedInPath))
  segments.reverse.flatMap ('/' :: ·)

/-- A path and a query; a fragment belongs to neither. -/
def splitQuery (cs : List Char) : List Char × Option (List Char) :=
  let main := cs.takeWhile (· ≠ '#')
  let path := main.takeWhile (· ≠ '?')
  match main.dropWhile (· ≠ '?') with
  | _ :: query => (path, some (percentEncode isEncodedInQuery query))
  | [] => (path, none)

/-- Authority, path and query after the slashes of an address. -/
def ofAuthority? (scheme : Scheme) (cs : List Char) : Option Url := do
  let isEnd (c : Char) : Bool := isSlash c || c == '?' || c == '#'
  let authority ← readAuthority? host? scheme.service (cs.takeWhile fun c => !isEnd c)
  let (path, query) := splitQuery (cs.dropWhile fun c => !isEnd c)
  let path := if path.isEmpty then ['/'] else resolvePath [] (path.drop 1)
  return { authority with scheme, path, query }

/-- The segments of the path of an address, last one first, without its last segment. -/
def baseSegments (url : Url) : List (List Char) :=
  (splitOn '/' (url.path.drop 1)).reverse.drop 1

/-- A path and a query, seen from an address. -/
def relative (base : Url) (cs : List Char) : Url :=
  let (path, query) := splitQuery cs
  match path with
  | [] => if query.isNone then base else { base with query }
  | c :: rest =>
    if isSlash c then { base with path := resolvePath [] rest, query }
    else { base with path := resolvePath base.baseSegments path, query }

/-- A reference without a scheme, seen from an address. After two slashes it names a host. -/
def ofRelative? (base : Url) (cs : List Char) : Option Url :=
  match cs with
  | '/' :: '/' :: rest => ofAuthority? base.scheme rest
  | a :: b :: _ =>
    if isSlash a ∧ isSlash b then ofAuthority? base.scheme (cs.dropWhile isSlash)
    else some (relative base cs)
  | _ => some (relative base cs)

end Url

end OutboxRelay
