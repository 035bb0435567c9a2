/-
This file holds the reading of bytes as text. A byte order mark at the start
names the encoding and is dropped; else the encoding that goes with the bytes
counts. Bytes that stand for no character are read as the replacement character,
so that every sequence of bytes has a text. Where that will not do, bytes are the
text that was put into them or none.
-/

namespace Onboarding.Text

/-- How characters are put into bytes. -/
inductive Encoding where
  | utf8
  | utf16LittleEndian
  | utf16BigEndian
  /-- One byte for a character, with the letters and signs of western Europe. -/
  | western
  /-- One that is not read, as its bytes could be taken for something else. -/
  | withheld
  /-- Any other one, told by what it makes of bytes. -/
  | other (read : List UInt8 → String)

/-- What is read for bytes that stand for no character. -/
def replacement : Char := '\ufffd'

/-! ### One to four bytes for a character -/

/-- Where the reading of a character of several bytes stands. -/
structure Utf8Reader where
  /-- The characters read so far, the last of them first. -/
  read : List Char
  /-- How many bytes of the character are missing. -/
  missing : Nat
  /-- The bits of the character read so far. -/
  code : Nat
  /-- The least and the greatest byte that may come next. -/
  low : Nat
  high : Nat
  deriving DecidableEq, Repr

namespace Utf8Reader

/-- Between two characters. -/
def between (read : List Char) : Utf8Reader := ⟨read, 0, 0, 0x80, 0xbf⟩

/-- Reads the first byte of a character. -/
def first (read : List Char) (byte : Nat) : Utf8Reader :=
  if byte < 0x80 then between (Char.ofNat byte :: read)
  else if byte < 0xc2 then between (replacement :: read)
  else if byte < 0xe0 then ⟨read, 1, byte % 0x20, 0x80, 0xbf⟩
  else if byte < 0xf0 then
    ⟨read, 2, byte % 0x10, if byte = 0xe0 then 0xa0 else 0x80, if byte = 0xed then 0x9f else 0xbf⟩
  else if byte < 0xf5 then
    ⟨read, 3, byte % 0x8, if byte = 0xf0 then 0x90 else 0x80, if byte = 0xf4 then 0x8f else 0xbf⟩
  else between (replacement :: read)

/-- Reads a byte. One that cannot go on with a character ends it and begins the next. -/
def step (reader : Utf8Reader) (byte : Nat) : Utf8Reader :=
  match reader.missing with
  | 0 => first reader.read byte
  | missing + 1 =>
    if byte < reader.low || reader.high < byte then first (replacement :: reader.read) byte
    else
      let code := reader.code * 0x40 + byte % 0x40
      if missing = 0 then between (Char.ofNat code :: reader.read)
      else ⟨reader.read, missing, code, 0x80, 0xbf⟩

/-- The characters at the end of the bytes. -/
def finish (reader : Utf8Reader) : List Char :=
  if reader.missing = 0 then reader.read.reverse else (replacement :: reader.read).reverse

end Utf8Reader

/-- The text of bytes of which one to four stand for a character. -/
def utf8Text (bytes : List UInt8) : List Char :=
  let start := Utf8Reader.between []
  (bytes.foldl (fun reader byte => reader.step byte.toNat) start).finish

/-! ### Two or four bytes for a character -/

/-- The units of sixteen bits that pairs of bytes make, and whether a byte is left over. -/
def units (bigEndian : Bool) : List UInt8 → List Nat × Bool
  | [] => ([], false)
  | [_] => ([], true)
  | first :: second :: rest =>
    let unit := if bigEndian then 256 * first.toNat + second.toNat
      else 256 * second.toNat + first.toNat
    let (rest, left) := units bigEndian rest
    (unit :: rest, left)

/-- The characters of units; a surrogate without its partner is replaced. -/
def unitsText : List Nat → List Char
  | [] => []
  | [unit] => [if 0xd800 ≤ unit && unit < 0xe000 then replacement else Char.ofNat unit]
  | high :: low :: rest =>
    if 0xd800 ≤ high && high < 0xdc00 then
      if 0xdc00 ≤ low && low < 0xe000 then
        Char.ofNat (0x10000 + (high - 0xd800) * 0x400 + (low - 0xdc00)) :: unitsText rest
      else replacement :: unitsText (low :: rest)
    else if 0xdc00 ≤ high && high < 0xe000 then replacement :: unitsText (low :: rest)
    else Char.ofNat high :: unitsText (low :: rest)

/-- Whether the unit is the first half of a pair. -/
def isHigh (unit : Nat) : Bool :=
  0xd800 ≤ unit && unit < 0xdc00

/-- The text of bytes of which two make a unit. A byte that is left over behind half a pair is
replaced together with it. -/
def utf16Text (bigEndian : Bool) (bytes : List UInt8) : List Char :=
  let (units, left) := units bigEndian bytes
  unitsText units ++ if left && !units.getLast?.any isHigh then [replacement] else []

/-! ### One byte for a character -/

/-- The characters that stand for the bytes from 0x80 to 0x9f. -/
def westernSigns : List Char :=
  ['\u20ac', '\u0081', '\u201a', '\u0192', '\u201e', '\u2026', '\u2020', '\u2021',
    '\u02c6', '\u2030', '\u0160', '\u2039', '\u0152', '\u008d', '\u017d', '\u008f',
    '\u0090', '\u2018', '\u2019', '\u201c', '\u201d', '\u2022', '\u2013', '\u2014',
    '\u02dc', '\u2122', '\u0161', '\u203a', '\u0153', '\u009d', '\u017e', '\u0178']

/-- The character that a byte stands for. -/
def westernChar (byte : UInt8) : Char :=
  let code := byte.toNat
  if code < 0x80 || 0xa0 ≤ code then Char.ofNat code
  else westernSigns.getD (code - 0x80) replacement

/-! ### Any encoding -/

/-- The bytes without a byte order mark, and the encoding that it names. -/
def withoutMark (encoding : Encoding) (bytes : List UInt8) : Encoding × List UInt8 :=
  match bytes with
  | 0xef :: 0xbb :: 0xbf :: rest => (.utf8, rest)
  | 0xff :: 0xfe :: rest => (.utf16LittleEndian, rest)
  | 0xfe :: 0xff :: rest => (.utf16BigEndian, rest)
  | bytes => (encoding, bytes)

/-- The text of bytes in an encoding, unless a byte order mark names another. -/
def decoded (encoding : Encoding) (bytes : List UInt8) : String :=
  match withoutMark encoding bytes with
  | (.utf8, bytes) => String.ofList (utf8Text bytes)
  | (.utf16LittleEndian, bytes) => String.ofList (utf16Text false bytes)
  | (.utf16BigEndian, bytes) => String.ofList (utf16Text true bytes)
  | (.western, bytes) => String.ofList (bytes.map westernChar)
  | (.withheld, bytes) => if bytes.isEmpty then "" else String.ofList [replacement]
  | (.other read, bytes) => read bytes

/-! ### Texts as bytes -/

/-- The bytes of a text, of which one to four stand for a character. -/
def utf8Bytes (text : String) : List UInt8 :=
  text.toUTF8.data.toList

/-- The text of bytes of which one to four stand for a character; none when any bytes stand for
none. -/
def ofUtf8? (bytes : List UInt8) : Option String :=
  String.fromUTF8? ⟨bytes.toArray⟩

@[simp]
theorem ofUtf8?_utf8Bytes (text : String) : ofUtf8? (utf8Bytes text) = some text :=
  dif_pos text.isValidUTF8

theorem ofUtf8?_eq_some_iff {bytes : List UInt8} {text : String} :
    ofUtf8? bytes = some text ↔ bytes = utf8Bytes text := by
  constructor
  · intro decoded
    unfold ofUtf8? String.fromUTF8? at decoded
    split at decoded
    · cases decoded
      rfl
    · cases decoded
  · rintro rfl
    exact ofUtf8?_utf8Bytes text

/-! ### Names of encodings -/

/-- The encodings that are not described here: what the one with a name makes of bytes, if there is
one with the name. The names are in lower case. -/
abbrev Charsets := String → Option (List UInt8 → String)

/-- The names of the encodings that are described here, in lower case. -/
def encodingNames : List (Encoding × List String) := [
  (.utf8, ["unicode-1-1-utf-8", "unicode11utf8", "unicode20utf8", "utf-8", "utf8",
    "x-unicode20utf8"]),
  (.utf16BigEndian, ["unicodefffe", "utf-16be"]),
  (.utf16LittleEndian, ["csunicode", "iso-10646-ucs-2", "ucs-2", "unicode", "unicodefeff",
    "utf-16", "utf-16le"]),
  (.western, ["ansi_x3.4-1968", "ascii", "cp1252", "cp819", "csisolatin1", "ibm819",
    "iso-8859-1", "iso-ir-100", "iso8859-1", "iso88591", "iso_8859-1", "iso_8859-1:1987", "l1",
    "latin1", "us-ascii", "windows-1252", "x-cp1252"]),
  (.withheld, ["csiso2022kr", "hz-gb-2312", "iso-2022-cn", "iso-2022-cn-ext", "iso-2022-kr",
    "replacement"])]

/-- Whether the character may stand around the name of an encoding. -/
def isNameSpace (c : Char) : Bool :=
  c == ' ' || c == '\t' || c == '\n' || c == '\u000c' || c == '\r'

/-- The encoding with a name, in letters of any case and perhaps with blanks around it; those that
are described here come before all others. -/
def encodingNamed? (charsets : Charsets) (name : String) : Option Encoding :=
  let kept := ((name.toList.dropWhile isNameSpace).reverse.dropWhile isNameSpace).reverse
  let name := String.ofList (kept.map Char.toLower)
  match encodingNames.find? fun entry => entry.2.contains name with
  | some entry => some entry.1
  | none => (charsets name).map .other

end Onboarding.Text
