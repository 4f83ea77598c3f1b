import OutboxRelay.Http.Response
import OutboxRelay.Text.Digits
import OutboxRelay.Text.Split

namespace OutboxRelay.HttpMessage

/-- The octets up to the next line end, and what follows it. A carriage return is part of a line
end. -/
def readLine? : List UInt8 → Option (List UInt8 × List UInt8)
  | [] => none
  | 10 :: rest => some ([], rest)
  | 13 :: 10 :: rest => some ([], rest)
  | 13 :: _ => none
  | b :: rest => (readLine? rest).map fun (line, after) => (b :: line, after)

def isBlankOctet (b : UInt8) : Bool := b == 32 || b == 9

def isValueOctet (b : UInt8) : Bool := b == 9 || (0x20 ≤ b && b != 0x7F)

def octetChar (b : UInt8) : Char := Char.ofNat b.toNat

/-- A field without blanks around its value. -/
def readField? (line : List UInt8) : Option (String × List UInt8) :=
  let name := (line.takeWhile (· ≠ 58)).map octetChar
  match line.dropWhile (· ≠ 58) with
  | _ :: rest =>
    let value := ((rest.dropWhile isBlankOctet).reverse.dropWhile isBlankOctet).reverse
    if !name.isEmpty && name.all ContentType.isToken && rest.all isValueOctet then
      some (String.ofList name, value)
    else none
  | [] => none

/-- Fields up to an empty line, at most `left` of them, and what follows the line. -/
def readFields? : Nat → List UInt8 → Option (ReceivedHeaders × List UInt8)
  | left, octets =>
    match readLine? octets, left with
    | none, _ => none
    | some ([], rest), _ => some ([], rest)
    | some _, 0 => none
    | some (line, rest), left + 1 => do
      let field ← readField? line
      let (more, rest) ← readFields? left rest
      return (field :: more, rest)

/-- What stands before a body. -/
structure Head where
  isOld : Bool
  status : Nat
  headers : ReceivedHeaders

/-- The first line: the version, three digits, and a reason that does not matter. -/
def readStatus? (line : List UInt8) : Option (Bool × Nat) :=
  let text := line.map octetChar
  let version := text.take 9
  let digits := (text.drop 9).take 3
  let reason := line.drop 12
  if (version = "HTTP/1.1 ".toList ∨ version = "HTTP/1.0 ".toList) ∧ digits.length = 3 ∧
      reason.head?.all (· == 32) ∧ reason.all isValueOctet then
    (decimal? digits).bind fun status =>
      if 100 ≤ status then some (version = "HTTP/1.0 ".toList, status) else none
  else none

/-- Line ends before the first line do not count. -/
def dropLineEnds : List UInt8 → List UInt8
  | 10 :: rest => dropLineEnds rest
  | 13 :: 10 :: rest => dropLineEnds rest
  | octets => octets

/-- How many fields a response may have. -/
def fieldLimit : Nat := 100

def readHead? (octets : List UInt8) : Option (Head × List UInt8) := do
  let (line, rest) ← readLine? (dropLineEnds octets)
  let (isOld, status) ← readStatus? line
  let (headers, rest) ← readFields? fieldLimit rest
  return ({ isOld, status, headers }, rest)

/-- The head of the response proper, after others that only say that it will come. Each head takes
an octet at least, so the number of octets is enough fuel. -/
def readFinalHead? : Nat → List UInt8 → Option (Head × List UInt8)
  | 0, _ => none
  | fuel + 1, octets => do
    let (head, rest) ← readHead? octets
    if head.status < 200 ∧ head.status ≠ 101 then readFinalHead? fuel rest
    else return (head, rest)

/-- How the end of a body is found. -/
inductive Framing
  | empty
  | chunked
  | sized (length : Nat)
  | untilEnd
  deriving DecidableEq, Repr

/-- The parts of a value between commas, without blanks around them. -/
def commaParts (value : List Char) : List (List Char) :=
  let trim (part : List Char) := ((part.dropWhile (· = ' ')).reverse.dropWhile (· = ' ')).reverse
  (splitOn ',' (value.map fun c => if c = '\t' then ' ' else c)).map trim

/-- The one length that all values agree on. -/
def contentLength? (values : List (List UInt8)) : Option Nat := do
  let texts ← values.mapM asciiText?
  let numbers ← (texts.flatMap commaParts).mapM decimal?
  let first ← numbers.head?
  if first < 18446744073709551614 ∧ numbers.all (· = first) then return first else none

def isChunked (values : List (List UInt8)) : Bool :=
  ((values.getLast?.bind asciiText?).bind fun value => (commaParts value).getLast?).any fun part =>
    part.map Char.toLower = "chunked".toList

def framing? (head : Head) : Option Framing :=
  let codings := head.headers.values "Transfer-Encoding"
  let lengths := head.headers.values "Content-Length"
  if head.status ∈ [101, 204, 304] then some .empty
  else if !codings.isEmpty then
    if head.isOld then none else if isChunked codings then some .chunked else some .untilEnd
  else if lengths.isEmpty then some .untilEnd
  else (contentLength? lengths).map .sized

/-- The size of a chunk, which its first line gives before blanks and extensions. -/
def readSize? (octets : List UInt8) : Option (Nat × List UInt8) := do
  let digits := octets.takeWhile fun b => (hexValue? (octetChar b)).isSome
  let size ← hexadecimal? (digits.map octetChar)
  if digits.isEmpty ∨ 0x10000000000000000 ≤ size then none
  match (octets.drop digits.length).dropWhile isBlankOctet with
  | 13 :: 10 :: rest => return (size, rest)
  | 59 :: extension =>
    match extension.takeWhile (· ≠ 13), extension.dropWhile (· ≠ 13) with
    | text, 13 :: 10 :: rest => if text.contains 10 then none else return (size, rest)
    | _, _ => none
  | _ => none

/-- How many lines there are up to an empty one, if there are at most `left`. -/
def countLines? : Nat → List UInt8 → Option Nat
  | _, 13 :: 10 :: _ => some 0
  | 0, _ => none
  | left + 1, octets =>
    match octets.takeWhile (· ≠ 13), octets.dropWhile (· ≠ 13) with
    | _ :: _, 13 :: 10 :: rest => (countLines? left rest).map (· + 1)
    | _, _ => none

/-- The fields after the last chunk have to be well formed. -/
def hasGoodTrailer (octets : List UInt8) : Bool :=
  match countLines? (fieldLimit - 1) octets with
  | some n => (readFields? n octets).isSome
  | none => false

/-- A body in chunks, each with its size before it; one of size zero ends it. Each chunk takes an
octet at least, so the number of octets is enough fuel. -/
def readChunks? : Nat → List UInt8 → Option (List UInt8)
  | 0, _ => none
  | fuel + 1, octets => do
    let (size, rest) ← readSize? octets
    if size = 0 then
      if hasGoodTrailer rest then return [] else none
    else
      match rest.drop size with
      | 13 :: 10 :: next =>
        let more ← readChunks? fuel next
        return rest.take size ++ more
      | _ => none

def readBody? : Framing → List UInt8 → Option (List UInt8)
  | .empty, _ => some []
  | .chunked, octets => readChunks? (octets.length + 1) octets
  | .sized length, octets => if length ≤ octets.length then some (octets.take length) else none
  | .untilEnd, octets => some octets

/-- The response in the octets that a receiver sends before it closes the connection. -/
def read? (octets : List UInt8) : Option HttpResponse := do
  let (head, rest) ← readFinalHead? (octets.length + 1) octets
  let framing ← framing? head
  return { status := head.status, headers := head.headers, body := readBody? framing rest }

end OutboxRelay.HttpMessage
