import OutboxRelay.Url.Host

namespace OutboxRelay.Url

/-- Who is asked: credentials, which may be empty, a host, and the number of a service. -/
structure Authority where
  credentials : List Char
  host : List Char
  service : Option Nat
  deriving DecidableEq, Repr

def Authority.chars (authority : Authority) : List Char :=
  let service := match authority.service with
    | some n => ':' :: Nat.toDigits 10 n
    | none => []
  (if authority.credentials.isEmpty then [] else authority.credentials ++ ['@']) ++
    authority.host ++ service

/-- The credentials before the last at sign, and what follows it. A colon stands between name and
password only if there is a password. -/
def splitCredentials (cs : List Char) : List Char × List Char :=
  let reversed := cs.reverse
  let rest := (reversed.takeWhile (· ≠ '@')).reverse
  let credentials := ((reversed.dropWhile (· ≠ '@')).drop 1).reverse
  let name := credentials.takeWhile (· ≠ ':')
  let encode := percentEncode isEncodedInCredentials
  match (credentials.dropWhile (· ≠ ':')).drop 1 with
  | [] => (encode name, rest)
  | password => (encode name ++ ':' :: encode password, rest)

/-- A host, and what follows it from a colon on. A colon in brackets belongs to the host. -/
def splitHost : Bool → List Char → List Char × List Char
  | _, [] => ([], [])
  | inBrackets, c :: rest =>
    if c = ':' ∧ !inBrackets then ([], c :: rest)
    else
      let (host, after) := splitHost (c = '[' || inBrackets && c ≠ ']') rest
      (c :: host, after)

/-- The digits of the number of a service, which is left out if it is missing or the usual one. -/
def service? (usual : Option Nat) (cs : List Char) : Option (Option Nat) :=
  if cs.isEmpty then some none
  else
    match decimal? cs with
    | some n => if 65536 ≤ n then none else some (if some n = usual then none else some n)
    | none => none

def readAuthority? (readHost? : List Char → Option (List Char)) (usual : Option Nat)
    (cs : List Char) : Option Authority := do
  let (credentials, rest) := splitCredentials cs
  let (name, after) := splitHost false rest
  let host ← readHost? name
  let service ← service? usual ((after.drop 1).takeWhile (· ≠ '\\'))
  return { credentials, host, service }

/-- Characters that may stand anywhere in an authority that is sent. -/
def isPlain (c : Char) : Bool :=
  c.isAlphanum || "!$&()*+,-.;=_~".toList.contains c || c == '\''

/-- What was seen of an authority: colons, brackets, and percent signs outside credentials. -/
structure AuthorityScan where
  colons : Nat := 0
  isOpened : Bool := false
  isClosed : Bool := false
  hasPercent : Bool := false

def AuthorityScan.step? (scan : AuthorityScan) (c : Char) : Option AuthorityScan :=
  if c = ':' then if scan.colons < 8 then some { scan with colons := scan.colons + 1 } else none
  else if c = '[' then
    if scan.isOpened || scan.hasPercent then none else some { scan with isOpened := true }
  else if c = ']' then
    if scan.isOpened && !scan.isClosed then
      some { scan with isClosed := true, colons := 0, hasPercent := false }
    else none
  else if c = '@' then some { scan with colons := 0, hasPercent := false }
  else if c = '%' then some { scan with hasPercent := true }
  else if isPlain c then some scan
  else none

/-- Whether a text can be sent as an authority. -/
def isAuthority (cs : List Char) : Bool :=
  match cs.foldlM AuthorityScan.step? {} with
  | some scan =>
    scan.isOpened == scan.isClosed && scan.colons ≤ 1 && !scan.hasPercent && !cs.isEmpty &&
      cs.getLast? != some '@'
  | none => false

end OutboxRelay.Url
