import OutboxRelay.Url.Basic

namespace OutboxRelay.Url

/-- What a reference leads to: an address of the web, or something of another scheme. -/
inductive Target
  | web (url : Url)
  | foreign
  deriving DecidableEq, Repr

/-- The greatest length of an address that is sent, its fragment included. -/
def maxLength : Nat := 65534

/-- Drops control characters and spaces at both ends, and tabs and line ends everywhere. -/
def cleanReference (cs : List Char) : List Char :=
  let isEdge (c : Char) : Bool := c.toNat ≤ 0x20
  let trimmed := ((cs.dropWhile isEdge).reverse.dropWhile isEdge).reverse
  trimmed.filter fun c => c != '\t' && c != '\n' && c != '\r'

/-- The scheme in lower case and what follows its colon. -/
def splitScheme? (cs : List Char) : Option (List Char × List Char) :=
  let isPart (c : Char) : Bool := c.isAlphanum || c == '+' || c == '-' || c == '.'
  match cs.takeWhile isPart, cs.dropWhile isPart with
  | c :: rest, ':' :: after =>
    if c.isAlpha then some ((c :: rest).map Char.toLower, after) else none
  | _, _ => none

/-- A host of a scheme that gives it no meaning. -/
def opaqueHost? (cs : List Char) : Option (List Char) :=
  if cs.head? = some '[' then bracketedHost? cs
  else if !cs.isEmpty && cs.all isPlain then some cs
  else none

/-- Whether a path begins with the letter of a drive, once its dots are resolved. -/
def entersDrive : List (List Char) → List (List Char) → Bool
  | _, [] => false
  | stack, segment :: rest =>
    if isDoubleDot segment then entersDrive (parentSegments stack) rest
    else if isSingleDot segment then entersDrive stack rest
    else stack.isEmpty && isDrive segment || entersDrive (segment :: stack) rest

/-- Whether the name of a file is one on another host. -/
def isRemoteFile (cs : List Char) : Bool :=
  let isEnd (c : Char) : Bool := isSlash c || c == '?' || c == '#'
  match cs with
  | a :: b :: rest =>
    let name := rest.takeWhile fun c => !isEnd c
    let path := (splitQuery (rest.dropWhile fun c => !isEnd c)).1
    isSlash a && isSlash b && !name.isEmpty && !isDrive name &&
      (host? name).any (fun host => host != "localhost".toList && isAuthority host) &&
      !entersDrive [] (splitSegments (path.drop 1))
  | _ => false

/-- Whether something of a scheme that gives it no meaning can be asked for. What has no host has to
look like an authority as a whole. -/
def isOpaqueTarget (scheme cs : List Char) : Bool :=
  let isEnd (c : Char) : Bool := c == '/' || c == '?' || c == '#'
  match cs with
  | '/' :: '/' :: rest =>
    scheme.length ≤ 64 &&
      (readAuthority? opaqueHost? none (rest.takeWhile fun c => !isEnd c)).any
        (isAuthority ·.chars)
  | _ =>
    let whole := scheme ++ ':' :: percentEncode isControl cs
    whole.length ≤ maxLength && isAuthority whole

/-- An address that can be sent. -/
def target? (fragment : List Char) (url : Url) : Option Target :=
  if isAuthority url.toAuthority.chars ∧ url.chars.length +
      (percentEncode isEncodedInFragment fragment).length ≤ maxLength then
    some (if url.scheme.isWeb then .web url else .foreign)
  else none

/-- Reads a reference, seen from an address if there is one. Without one it has to be absolute. What
it leads to can be sent. -/
def resolve? (base : Option Url) (s : String) : Option Target := do
  let cs := cleanReference s.toList
  let fragment := cs.dropWhile (· ≠ '#')
  match splitScheme? cs with
  | some (name, rest) =>
    match Scheme.ofName? name with
    | some scheme =>
      let isAbsolute := 2 ≤ (rest.takeWhile isSlash).length
      match base.filter fun url => url.scheme = scheme && !isAbsolute with
      | some url => target? fragment (← ofRelative? url rest)
      | none => target? fragment (← ofAuthority? scheme (rest.dropWhile isSlash))
    | none =>
      if name = "file".toList then if isRemoteFile rest then some .foreign else none
      else if isOpaqueTarget name rest then some .foreign
      else none
  | none => target? fragment (← ofRelative? (← base) cs)

end OutboxRelay.Url
