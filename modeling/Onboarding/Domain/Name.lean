/-
This file holds the names of hosts: a name with letters of any script is brought into
its final form and written in ASCII. A name is refused when a label of it could be
taken for another one or cannot be shown in one direction.
-/

import Onboarding.Domain.Composition
import Onboarding.Domain.Direction
import Onboarding.Domain.Mapping
import Onboarding.Domain.Punycode
import Onboarding.Text.Split

namespace Onboarding.Domain

open Text

/-! ### Joiners in a label -/

/-- The place of the sign that takes the vowel from a letter. -/
def vowelKiller : Nat := 9

/-- The nearest character that is no mark without room. -/
def nearestLetter? (characters : List Char) : Option Char :=
  characters.find? fun c => direction c != .mark

/-- Whether a joiner may stand between the characters before it, the last of them first, and those
behind it: behind a letter without its vowel, or, if it asks for letters not to be joined, between
letters that would be. -/
def joinerFits (joiner : Char) (before after : List Char) : Bool :=
  before.head?.any (fun c => markPlace c == vowelKiller) ||
    (joiner == '\u200c' && (nearestLetter? before).any joinsForward &&
      (nearestLetter? after).any joinsBackward)

/-- Whether the joiners of a label fit, where `before` holds what has been read, the last of it
first. -/
def joinersFit (before : List Char) : List Char → Bool
  | [] => true
  | c :: rest => (!isJoinerMark c || joinerFits c before rest) && joinersFit (c :: before) rest

/-! ### Direction of a label -/

/-- Whether a label with these directions has one direction: what stands in it goes with its first
letter, and it ends, but for marks, with a letter or a digit. -/
def hasOneDirection (directions : List Direction) : Bool :=
  let ending := (directions.reverse.dropWhile (· == .mark)).head?
  match directions with
  | [] => true
  | .leftward :: _ =>
    !directions.contains .rightward &&
      !(directions.contains .europeanNumber && directions.contains .arabicNumber) &&
      [some .leftward, some .europeanNumber, some .arabicNumber].contains ending
  | .rightward :: _ =>
    !directions.contains .leftward && !directions.contains .arabicNumber &&
      [some .rightward, some .europeanNumber].contains ending
  | _ => false

/-- Whether characters call for a look at the direction of each label. -/
def hasLeftward (text : List Char) : Bool :=
  text.any fun c => direction c == .leftward || direction c == .arabicNumber

/-! ### Labels -/

/-- What a label begins with when it is written in letters, digits and hyphens. -/
def writtenMark : List Char := "xn--".toList

/-- The length of the longest label that is written in letters, digits and hyphens for another. -/
def longestMeant : Nat := 1000

/-- The length of the longest writing that a label is read from. -/
def longestWritten : Nat := 2000

/-- Whether the label holds characters outside ASCII. -/
def needsWriting (label : List Char) : Bool :=
  label.any fun c => 0x80 ≤ c.toNat

/-- The label that a label in its mapped form means; none when it is too long, or when the writing
that it announces is wrong or would be that of a label with another final form. -/
def meantLabel? (label : List Char) : Option (List Char) :=
  if writtenMark.isPrefixOf label then do
    let written := label.drop writtenMark.length
    let meant ← if longestWritten < written.length then none else Punycode.decode? written
    let final := meant.all fun c => c.toNat < 0x80 || isKept c
    if final && needsWriting meant && composed meant = meant then some meant else none
  else if needsWriting label && longestMeant < label.length then none
  else some label

/-- Whether a label is fit for a name. -/
def isLabel (label : List Char) : Bool :=
  label.all (fun c => c.toNat < 0x80 || isKept c) && !label.head?.any isMark && joinersFit [] label

/-- The label in ASCII. -/
def asciiLabel (label : List Char) : List Char :=
  if needsWriting label then writtenMark ++ Punycode.encode label else label

/-- The name in ASCII; none when it is no name of a host. -/
def asciiName? (name : List Char) : Option (List Char) := do
  let mapped ← mappedText? name
  let labels ← (pieces '.' (composed mapped)).mapM meantLabel?
  let leftward := labels.any hasLeftward
  let fits := labels.all fun label =>
    isLabel label && (!leftward || hasOneDirection (label.map direction))
  if fits then some (joinPieces '.' (labels.map asciiLabel)) else none

end Onboarding.Domain
