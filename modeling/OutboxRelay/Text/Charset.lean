import OutboxRelay.Text.Charset.Chinese
import OutboxRelay.Text.Charset.Japanese
import OutboxRelay.Text.Charset.Korean
import OutboxRelay.Text.Charset.SingleOctet

namespace OutboxRelay

/-- How the octets of a text are read. An unreadable text is one replacement character, if it is
any at all. -/
inductive Charset
  | utf8
  | utf16 (bigEndian : Bool)
  | octets (upper : List Char)
  | gb18030
  | big5
  | eucJp
  | iso2022Jp
  | shiftJis
  | eucKr
  | unreadable

/-- The upper half of the set whose users agree on its meaning, in the private use area. -/
def privateUpper : List Char := (List.range 128).map fun n => Char.ofNat (0xF780 + n)

def Charset.ofLabel? (label : String) : Option Charset :=
  let name := String.ofList ((label.toList.dropWhile Char.isWhitespace).reverse.dropWhile
    Char.isWhitespace).reverse
  let name := name.toLower
  if name ∈ ["unicode-1-1-utf-8", "unicode11utf8", "unicode20utf8", "utf-8", "utf8",
      "x-unicode20utf8"] then some .utf8
  else if name ∈ ["csunicode", "iso-10646-ucs-2", "ucs-2", "unicode", "unicodefeff", "utf-16",
      "utf-16le"] then some (.utf16 false)
  else if name ∈ ["unicodefffe", "utf-16be"] then some (.utf16 true)
  else if name = "x-user-defined" then some (.octets privateUpper)
  else if name ∈ ["csiso2022kr", "hz-gb-2312", "iso-2022-cn", "iso-2022-cn-ext", "iso-2022-kr",
      "replacement"] then some .unreadable
  else if name = "gb18030" ∨ name ∈ ["chinese", "csgb2312", "csiso58gb231280", "gb2312", "gb_2312",
      "gb_2312-80", "gbk", "iso-ir-58", "x-gbk"] then some .gb18030
  else if name ∈ ["big5", "big5-hkscs", "cn-big5", "csbig5", "x-x-big5"] then some .big5
  else if name ∈ ["cseucpkdfmtjapanese", "euc-jp", "x-euc-jp"] then some .eucJp
  else if name ∈ ["csiso2022jp", "iso-2022-jp"] then some .iso2022Jp
  else if name ∈ ["csshiftjis", "ms932", "ms_kanji", "shift-jis", "shift_jis", "sjis",
      "windows-31j", "x-sjis"] then some .shiftJis
  else if name ∈ ["cseuckr", "csksc56011987", "euc-kr", "iso-ir-149", "korean", "ks_c_5601-1987",
      "ks_c_5601-1989", "ksc5601", "ksc_5601", "windows-949"] then some .eucKr
  else
    (octetCharsets.find? fun set => set.labels.contains name).map fun set =>
      .octets set.upper.toList

/-- A text that begins with a byte order mark is in the encoding of the mark, which is no part of
the text. -/
def Charset.ofMark? : List UInt8 → Option (Charset × List UInt8)
  | 0xEF :: 0xBB :: 0xBF :: rest => some (.utf8, rest)
  | 0xFF :: 0xFE :: rest => some (.utf16 false, rest)
  | 0xFE :: 0xFF :: rest => some (.utf16 true, rest)
  | _ => none

/-- The sixteen-bit units of a text, and whether an octet is left over. -/
def utf16Units (bigEndian : Bool) : List UInt8 → List Nat × Bool
  | a :: b :: rest =>
    let unit := if bigEndian then 256 * a.toNat + b.toNat else 256 * b.toNat + a.toNat
    let (units, odd) := utf16Units bigEndian rest
    (unit :: units, odd)
  | [_] => ([], true)
  | [] => ([], false)

/-- The character of a surrogate pair. -/
def surrogatePair (high low : Nat) : Char :=
  Char.ofNat (0x10000 + (high - 0xD800) * 0x400 + (low - 0xDC00))

def isHighSurrogate (unit : Nat) : Bool := 0xD800 ≤ unit && unit < 0xDC00

def isLowSurrogate (unit : Nat) : Bool := 0xDC00 ≤ unit && unit < 0xE000

/-- A surrogate without its partner becomes a replacement character; `high` is one that waits. -/
def decodeUtf16From : Option Nat → List Nat → List Char
  | none, [] => []
  | some _, [] => [replacementChar]
  | none, unit :: rest =>
    if isHighSurrogate unit then decodeUtf16From (some unit) rest
    else if isLowSurrogate unit then replacementChar :: decodeUtf16From none rest
    else Char.ofNat unit :: decodeUtf16From none rest
  | some high, unit :: rest =>
    if isLowSurrogate unit then surrogatePair high unit :: decodeUtf16From none rest
    else if isHighSurrogate unit then replacementChar :: decodeUtf16From (some unit) rest
    else replacementChar :: Char.ofNat unit :: decodeUtf16From none rest

def Charset.decode : Charset → List UInt8 → List Char
  | .utf8, bytes => decodeUtf8 bytes
  | .utf16 bigEndian, bytes =>
    let (units, odd) := utf16Units bigEndian bytes
    let chars := decodeUtf16From none units
    match odd, units.getLast? with
    | false, _ => chars
    | true, some last => if isHighSurrogate last then chars else chars ++ [replacementChar]
    | true, none => chars ++ [replacementChar]
  | .octets upper, bytes => bytes.map fun b =>
    if b < 0x80 then Char.ofNat b.toNat else upper.getD (b.toNat - 0x80) replacementChar
  | .gb18030, bytes => OutboxRelay.gb18030.decode bytes
  | .big5, bytes => big5Pairs.decode bytes
  | .eucJp, bytes => OutboxRelay.eucJp.decode bytes
  | .iso2022Jp, bytes => OutboxRelay.iso2022Jp.decode bytes
  | .shiftJis, bytes => OutboxRelay.shiftJis.decode bytes
  | .eucKr, bytes => OutboxRelay.eucKr.decode bytes
  | .unreadable, bytes => if bytes.isEmpty then [] else [replacementChar]

/-- A byte order mark wins over the label; a label that names no known set means UTF-8. -/
def decodeText (label : Option String) (octets : List UInt8) : List Char :=
  match Charset.ofMark? octets with
  | some (charset, rest) => charset.decode rest
  | none => ((label.bind Charset.ofLabel?).getD .utf8).decode octets

end OutboxRelay
