import OutboxRelay.Url.Domain.Label
import OutboxRelay.Url.Percent

namespace OutboxRelay.Url

/-- One number of an address: decimal, octal after a zero, or hexadecimal after `0x`. -/
def ipv4Number? (cs : List Char) : Option Nat :=
  match cs with
  | [] => none
  | '0' :: x :: digits =>
    if x = 'x' ∨ x = 'X' then hexadecimal? digits
    else if (x :: digits).all fun c => '0' ≤ c ∧ c ≤ '7' then
      some (Nat.ofDigitChars 8 (x :: digits) 0)
    else none
  | digits => decimal? digits

/-- The parts of a name without an empty one at the end. -/
def numericParts (host : List Char) : List (List Char) :=
  let parts := splitOn '.' host
  match parts.reverse with
  | [] :: (p :: ps) => (p :: ps).reverse
  | _ => parts

/-- A name whose last part is a number is an address or nothing. -/
def endsInNumber (host : List Char) : Bool :=
  match (numericParts host).getLast? with
  | some part =>
    !part.isEmpty && (part.all Char.isDigit ||
      (part.take 2).map Char.toLower == ['0', 'x'] && (ipv4Number? part).isSome)
  | none => false

/-- The last number takes all the octets that are left. -/
def ipv4Value? (numbers : List Nat) : Option Nat :=
  match numbers.reverse with
  | last :: initial =>
    let unit := Nat.pow 256 (4 - initial.length)
    if 3 < initial.length ∨ initial.any (255 < ·) ∨ unit ≤ last then none
    else some (initial.reverse.foldl (fun acc n => acc * 256 + n) 0 * unit + last)
  | [] => none

def ipv4Text (n : Nat) : List Char :=
  joinWith ['.'] ([n / 16777216, n / 65536 % 256, n / 256 % 256, n % 256].map (Nat.toDigits 10))

/-- One group of an address of eight groups. -/
def ipv6Group? (cs : List Char) : Option Nat :=
  if 1 ≤ cs.length ∧ cs.length ≤ 4 then hexadecimal? cs else none

/-- One of four decimal numbers, without a zero before other digits. -/
def ipv6Octet? (cs : List Char) : Option Nat :=
  match cs with
  | '0' :: _ :: _ => none
  | _ => (decimal? cs).filter (· ≤ 255)

/-- Two groups written as four decimal numbers. -/
def ipv6Tail? (cs : List Char) : Option (List Nat) := do
  match ← (splitOn '.' cs).mapM ipv6Octet? with
  | [a, b, c, d] => return [256 * a + b, 256 * c + d]
  | _ => none

/-- Groups with colons between them. The end of an address may be written as decimal numbers. -/
def ipv6Groups? (isEnd : Bool) (cs : List Char) : Option (List Nat) :=
  if cs.isEmpty then some []
  else
    let parts := splitOn ':' cs
    match parts.getLast? with
    | some last =>
      if isEnd && last.contains '.' then do
        let initial ← parts.dropLast.mapM ipv6Group?
        return initial ++ (← ipv6Tail? last)
      else parts.mapM ipv6Group?
    | none => none

/-- Where a text first has two colons, what stands before and after them. -/
def splitDoubleColon : List Char → Option (List Char × List Char)
  | ':' :: ':' :: rest => some ([], rest)
  | c :: rest => (splitDoubleColon rest).map fun (before, after) => (c :: before, after)
  | [] => none

/-- Eight groups; two colons stand for at least one group of zero. -/
def ipv6? (cs : List Char) : Option (List Nat) :=
  match splitDoubleColon cs with
  | some (before, after) => do
    let left ← ipv6Groups? false before
    let right ← ipv6Groups? true after
    if left.length + right.length ≤ 7 then
      return left ++ List.replicate (8 - left.length - right.length) 0 ++ right
    else none
  | none => do
    let groups ← ipv6Groups? true cs
    if groups.length = 8 then return groups else none

/-- How many zeros stand at the head. -/
def zeroRun (groups : List Nat) : Nat := (groups.takeWhile (· = 0)).length

/-- The length of the longest run of zeros. -/
def longestZeroRun : List Nat → Nat
  | [] => 0
  | n :: rest => max (zeroRun (n :: rest)) (longestZeroRun rest)

/-- The groups before the first run of `length` zeros, and those after it. -/
def cutZeroRun (length : Nat) : List Nat → List Nat × List Nat
  | [] => ([], [])
  | n :: rest =>
    if zeroRun (n :: rest) = length then ([], (n :: rest).drop length)
    else
      let (before, after) := cutZeroRun length rest
      (n :: before, after)

/-- The first longest run of two zeros or more is written as two colons. -/
def ipv6Text (groups : List Nat) : List Char :=
  let hex (ns : List Nat) := joinWith [':'] (ns.map (Nat.toDigits 16))
  let length := longestZeroRun groups
  if length < 2 then hex groups
  else
    let (before, after) := cutZeroRun length groups
    hex before ++ [':', ':'] ++ hex after

/-- An address in brackets, in normal form. -/
def bracketedHost? (cs : List Char) : Option (List Char) :=
  match cs with
  | '[' :: rest =>
    if rest.getLast? = some ']' then
      (ipv6? rest.dropLast).map fun groups => '[' :: (ipv6Text groups ++ [']'])
    else none
  | _ => none

/-- The normal form of a host, which may be a name or an address. -/
def host? (cs : List Char) : Option (List Char) :=
  if cs.head? = some '[' then bracketedHost? cs
  else do
    let domain ← domainToAscii? (decodeUtf8 (percentDecode cs))
    if domain.isEmpty then none
    else if endsInNumber domain then
      ((numericParts domain).mapM ipv4Number?).bind ipv4Value? |>.map ipv4Text
    else some domain

end OutboxRelay.Url
