/-
This file holds the hosts of addresses: names, and addresses of the fourth and the
sixth version of the protocol, which can be written in many ways and have one normal
form each.
-/

import Onboarding.Domain.Name
import Onboarding.Numeric.Word
import Onboarding.Text.Percent

namespace Onboarding

open Text

/-- A host. -/
inductive Host where
  /-- A name in its final form, or any text where the scheme knows no names. -/
  | name (text : List Char)
  /-- The four bytes of an address. -/
  | bytes (values : List Nat)
  /-- The eight pieces of an address, of sixteen bits each. -/
  | pieces (values : List Nat)
  deriving DecidableEq, Repr

namespace Host

/-! ### Addresses of four bytes -/

/-- The value of a digit to a base of at most sixteen. -/
def digit? (base : Nat) (c : Char) : Option Nat :=
  let value :=
    if c.isDigit then some (c.toNat - '0'.toNat)
    else if 'a' ≤ c && c ≤ 'f' then some (c.toNat - 'a'.toNat + 10)
    else if 'A' ≤ c && c ≤ 'F' then some (c.toNat - 'A'.toNat + 10)
    else none
  value.filter (· < base)

/-- The number that digits to a base spell; zero when there are none. -/
def based? (base : Nat) (digits : List Char) : Option Nat :=
  digits.foldlM (fun value c => (digit? base c).map (base * value + ·)) 0

/-- The number that a part of an address spells: to the base eight behind a zero, and to the base
sixteen behind a zero and an `x`. -/
def part? (text : List Char) : Option Nat :=
  match text with
  | [] => none
  | '0' :: 'x' :: digits | '0' :: 'X' :: digits => based? 16 digits
  | '0' :: next :: digits => based? 8 (next :: digits)
  | digits => based? 10 digits

/-- The parts of a name between its dots; a dot at the end does not count. -/
def dottedParts (text : List Char) : List (List Char) :=
  let parts := Text.pieces '.' text
  if 1 < parts.length && parts.getLast? = some [] then parts.dropLast else parts

/-- Whether the name ends with a number, and so can only be an address. -/
def endsWithNumber (text : List Char) : Bool :=
  match (dottedParts text).getLast? with
  | some last => (!last.isEmpty && last.all Char.isDigit) || (part? last).isSome
  | none => false

/-- So many bytes of a number, the highest first. -/
def bytesOf : Nat → Nat → List Nat
  | 0, _ => []
  | count + 1, number => bytesOf count (number / 256) ++ [number % 256]

/-- The address that numbers with dots between them spell. All but the last one are bytes, and the
last one takes the room that is left. -/
def ofDotted? (text : List Char) : Option Host := do
  let numbers ← (dottedParts text).mapM part?
  let last ← numbers.getLast?
  let front := numbers.dropLast
  let room := 4 - front.length
  if 4 < numbers.length || front.any (255 < ·) || Nat.pow 256 room ≤ last then none
  else some (.bytes (front ++ bytesOf room last))

/-! ### Addresses of eight pieces -/

/-- The byte that digits spell without a needless zero in front. -/
def byte? (digits : List Char) : Option Nat :=
  let padded := 1 < digits.length && digits.head? = some '0'
  if digits.isEmpty || !digits.all Char.isDigit || padded then none
  else
    let value := Numeric.digitsValue digits
    if value < 256 then some value else none

/-- The two pieces that four bytes with dots between them spell. -/
def bytePieces? (text : List Char) : Option (List Nat) := do
  match ← (Text.pieces '.' text).mapM byte? with
  | [first, second, third, fourth] => some [256 * first + second, 256 * third + fourth]
  | _ => none

/-- The piece that one to four digits to the base sixteen spell. -/
def piece? (digits : List Char) : Option Nat :=
  if digits.isEmpty || 4 < digits.length then none else based? 16 digits

/-- The pieces of texts, of which the last one may spell four bytes. -/
def piecesOf? : List (List Char) → Option (List Nat)
  | [] => some []
  | [text] => if text.contains '.' then bytePieces? text else (piece? text).map ([·])
  | text :: rest => do
    let piece ← piece? text
    return piece :: (← piecesOf? rest)

/-- The pieces on one side of two colons; there may be none. -/
def side (text : List Char) : List (List Char) :=
  if text.isEmpty then [] else Text.pieces ':' text

/-- The texts before and behind the first two colons that stand together. -/
def aroundColons? : List Char → Option (List Char × List Char)
  | ':' :: ':' :: rest => some ([], rest)
  | c :: rest => (aroundColons? rest).map fun (before, after) => (c :: before, after)
  | [] => none

/-- The address that pieces with colons between them spell; two colons together stand for as many
zeros as are missing. -/
def ofColons? (text : List Char) : Option Host :=
  match aroundColons? text with
  | none => do
    let values ← piecesOf? (side text)
    if values.length = 8 then some (.pieces values) else none
  | some (before, after) => do
    let front ← (side before).mapM piece?
    let back ← piecesOf? (side after)
    let count := front.length + back.length
    if count < 8 then some (.pieces (front ++ List.replicate (8 - count) 0 ++ back)) else none

/-! ### Reading -/

/-- The address in brackets, if the text is one. -/
def bracketed? (text : List Char) : Option Host :=
  match text with
  | '[' :: rest => if rest.getLast? = some ']' then ofColons? rest.dropLast else none
  | _ => none

/-- The host that a text spells where the scheme knows names. -/
def named? (text : List Char) : Option Host :=
  if text.head? = some '[' then bracketed? text
  else do
    let name ← Domain.asciiName? (← percentText? text)
    if name.isEmpty then none
    else if endsWithNumber name then ofDotted? name
    else some (.name name)

/-- The characters that no host holds. -/
def forbidden : List Char := "\u0000\t\n\r #/:<>?@[\\]^|".toList

/-- The host that a text spells where the scheme knows no names. -/
def unnamed? (text : List Char) : Option Host :=
  if text.head? = some '[' then bracketed? text
  else if text.any forbidden.contains then none
  else some (.name (percentEncoded [] text))

/-! ### Writing -/

/-- The length of the run of zeros at the start. -/
def zerosAtStart (values : List Nat) : Nat :=
  (values.takeWhile (· == 0)).length

/-- The place and the length of the longest run of zeros, the first of equally long ones; a single
zero is no run. -/
def longestZeros (values : List Nat) : Nat × Nat :=
  (List.range values.length).foldl (fun best index =>
    let length := zerosAtStart (values.drop index)
    if best.2 < length && 1 < length then (index, length) else best) (0, 0)

/-- Pieces with colons between them. -/
def writtenPieces (values : List Nat) : List Char :=
  joinPieces ':' (values.map (Nat.toDigits 16))

/-- The host as a text. -/
def text : Host → List Char
  | name text => text
  | bytes values => joinPieces '.' (values.map (Nat.toDigits 10))
  | pieces values =>
    let (index, length) := longestZeros values
    let written :=
      if length = 0 then writtenPieces values
      else
        writtenPieces (values.take index) ++ [':', ':'] ++
          writtenPieces (values.drop (index + length))
    '[' :: written ++ [']']

end Host

end Onboarding
