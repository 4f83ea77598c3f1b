namespace OutboxRelay

/-- The number that `cs` writes, if `cs` is one or more ASCII digits. -/
def decimal? (cs : List Char) : Option Nat :=
  if cs.isEmpty then none
  else if cs.all Char.isDigit then some (Nat.ofDigitChars 10 cs 0)
  else none

/-- Digits with an optional plus sign. -/
def unsignedDecimal? : List Char → Option Nat
  | '+' :: cs => decimal? cs
  | cs => decimal? cs

/-- Digits with an optional sign. -/
def signedDecimal? : List Char → Option Int
  | '-' :: cs => (decimal? cs).map fun n => -(n : Int)
  | cs => (unsignedDecimal? cs).map fun n => (n : Int)

/-- The last `width` decimal digits of `n`. -/
def fixedDigits : Nat → Nat → List Char
  | 0, _ => []
  | width + 1, n => fixedDigits width (n / 10) ++ [Nat.digitChar (n % 10)]

/-- All decimal digits of `n`, filled up with zeros to at least `width`. -/
def padDigits (width n : Nat) : List Char :=
  let digits := Nat.toDigits 10 n
  List.replicate (width - digits.length) '0' ++ digits

/-- The value of a hexadecimal digit of either case. -/
def hexValue? (c : Char) : Option Nat :=
  if '0' ≤ c ∧ c ≤ '9' then some (c.toNat - 48)
  else if 'a' ≤ c ∧ c ≤ 'f' then some (c.toNat - 87)
  else if 'A' ≤ c ∧ c ≤ 'F' then some (c.toNat - 55)
  else none

/-- The number that `cs` writes in base sixteen; every character has to be a digit. -/
def hexadecimal? (cs : List Char) : Option Nat :=
  cs.foldl (fun acc c => acc.bind fun n => (hexValue? c).map fun d => 16 * n + d) (some 0)

/-- The last `width` hexadecimal digits of `n`, in lower case. -/
def fixedHex : Nat → Nat → List Char
  | 0, _ => []
  | width + 1, n => fixedHex width (n / 16) ++ [Nat.digitChar (n % 16)]

/-- Two lower-case digits per octet. -/
def hexText (octets : List UInt8) : String :=
  String.ofList (octets.flatMap fun b => fixedHex 2 b.toNat)

/-- The octets that a text of digit pairs stands for. -/
def hexOctets? : List Char → Option (List UInt8)
  | [] => some []
  | a :: b :: rest => do
    let high ← hexValue? a
    let low ← hexValue? b
    let octets ← hexOctets? rest
    return UInt8.ofNat (16 * high + low) :: octets
  | _ => none

/-- The UTF-8 octets of a text. -/
def octetsOf (s : String) : List UInt8 :=
  s.toList.flatMap String.utf8EncodeChar

end OutboxRelay
