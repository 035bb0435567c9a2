/-
This file holds what each character of a host's name stands for. Small letters stand
for capital ones, usual letters for those of special shape, and some characters for
nothing; others cannot stand in a name.
-/

import Onboarding.Domain.Folding
import Onboarding.Domain.Spelling
import Onboarding.Text.Unprintable

namespace Onboarding.Domain

open Text

/-! ### Characters that are refused or left out -/

/-- The signs that cannot stand in a name: those that stand for a blank, a stop or a sign of
addresses together with others, and those that describe other characters. -/
def refusedRanges : List (Nat × Nat) := [
  (0xa8, 0xa8), (0xaf, 0xaf), (0xb4, 0xb4), (0xb8, 0xb8), (0x2d8, 0x2dd), (0x37a, 0x37a),
  (0x384, 0x385), (0x1806, 0x1806), (0x1fbd, 0x1fbd), (0x1fbf, 0x1fc1), (0x1fcd, 0x1fcf),
  (0x1fdd, 0x1fdf), (0x1fed, 0x1fee), (0x1ffd, 0x1ffe), (0x2017, 0x2017), (0x2024, 0x2026),
  (0x203e, 0x203e), (0x2047, 0x2049), (0x2100, 0x2101), (0x2105, 0x2106), (0x2488, 0x249b),
  (0x2a74, 0x2a74), (0x2ff0, 0x2fff), (0x309b, 0x309c), (0x31ef, 0x31ef), (0x33c2, 0x33c2),
  (0x33c7, 0x33c7), (0x33d8, 0x33d8), (0xfc5e, 0xfc63), (0xfdfa, 0xfdfb), (0xfe12, 0xfe13),
  (0xfe16, 0xfe16), (0xfe19, 0xfe19), (0xfe30, 0xfe30), (0xfe47, 0xfe4c), (0xfe52, 0xfe52),
  (0xfe55, 0xfe56), (0xfe5f, 0xfe5f), (0xfe64, 0xfe65), (0xfe68, 0xfe68), (0xfe6a, 0xfe6b),
  (0xfe70, 0xfe70), (0xfe72, 0xfe72), (0xfe74, 0xfe74), (0xfe76, 0xfe76), (0xfe78, 0xfe78),
  (0xfe7a, 0xfe7a), (0xfe7c, 0xfe7c), (0xfe7e, 0xfe7e), (0xff03, 0xff03), (0xff05, 0xff05),
  (0xff0f, 0xff0f), (0xff1a, 0xff1a), (0xff1c, 0xff1c), (0xff1e, 0xff20), (0xff3b, 0xff3e),
  (0xff5c, 0xff5c), (0xffe3, 0xffe3), (0xfffc, 0xfffd), (0x1f100, 0x1f100)]

/-- The marks that tell the direction of the text around them. -/
def directionMarkRanges : List (Nat × Nat) := [
  (0x61c, 0x61c), (0x200e, 0x200f), (0x202a, 0x202e), (0x2066, 0x2069)]

/-- The characters that are left out: they ask for a line break, choose among shapes or fill a
place. -/
def omittedRanges : List (Nat × Nat) := [
  (0xad, 0xad), (0x34f, 0x34f), (0x115f, 0x1160), (0x17b4, 0x17b5), (0x180b, 0x180f),
  (0x200b, 0x200b), (0x2060, 0x2064), (0x206a, 0x206f), (0x3164, 0x3164), (0xfe00, 0xfe0f),
  (0xfeff, 0xfeff), (0xffa0, 0xffa0), (0x1bca0, 0x1bca3), (0x1d173, 0x1d17a), (0xe0001, 0xe0001),
  (0xe0020, 0xe007f), (0xe0100, 0xe01ef)]

/-- The characters that ask for letters to be joined or not. -/
def isJoinerMark (c : Char) : Bool :=
  c == '\u200c' || c == '\u200d'

/-- Whether a character outside ASCII may stand in a name that has its final form. -/
def isKept (c : Char) : Bool :=
  isJoinerMark c ||
    (isPrintable c && !inRanges refusedRanges c && (folded? c).isNone && (spelled? c).isNone)

/-- The ASCII characters that no name of a host holds. -/
def isDenied (c : Char) : Bool :=
  c.toNat ≤ 0x20 || c.toNat == 0x7f || "#%/:<>?@[\\]^|".toList.contains c

/-! ### Mapping -/

/-- The stops that separate the labels of a name, besides the full stop itself. -/
def isStop (c : Char) : Bool :=
  c == '\u3002' || c == '\uff0e' || c == '\uff61'

/-- What a character of a name stands for; none when no name holds it. -/
def mapped? (c : Char) : Option (List Char) :=
  if c.toNat < 0x80 then if isDenied c then none else some [c.toLower]
  else if isStop c then some ['.']
  else if isJoinerMark c then some [c]
  else if inRanges directionMarkRanges c || inRanges refusedRanges c then none
  else if inRanges omittedRanges c then some []
  else
    match folded? c, spelled? c with
    | some image, _ => some [image]
    | none, some images => some images
    | none, none => if isKept c then some [c] else none

/-- What the characters of a name stand for, one after the other. -/
def mappedText? : List Char → Option (List Char)
  | [] => some []
  | c :: rest => do
    let images ← mapped? c
    return images ++ (← mappedText? rest)

end Onboarding.Domain
