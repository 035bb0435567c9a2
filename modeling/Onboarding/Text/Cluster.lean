/-
This file holds the breaking of a text into clusters, the units that a reader
takes for one character and that a terminal puts into one cell. It follows the
rules of the Unicode standard for extended clusters.
-/

import Onboarding.Text.ClusterClass

namespace Onboarding.Text

/-- How much of a conjunct has been read: nothing, a consonant, or a consonant and a linker. Marks
that extend a consonant may stand anywhere after it. -/
inductive Conjunct where
  | unbegun
  | begun
  | linked
  deriving DecidableEq, Repr

/-- The conjunct after a further character. -/
def Conjunct.extend (conjunct : Conjunct) : ClusterClass → Conjunct
  | .consonant => .begun
  | .linker => if conjunct = .unbegun then .unbegun else .linked
  | .extend | .joiner => conjunct
  | _ => .unbegun

/-- What is known of the cluster being read: the class of its last character, whether a further
regional indicator would pair with the last, whether it ends in a pictograph with extenders and at
most one joiner, and how much of a conjunct it ends in. -/
structure ClusterState where
  last : ClusterClass
  unpairedIndicator : Bool
  afterPictograph : Bool
  conjunct : Conjunct
  deriving DecidableEq, Repr

namespace ClusterState

/-- The state after the first character of a cluster. -/
def start (first : ClusterClass) : ClusterState :=
  ⟨first, first == .regionalIndicator, first == .pictograph, Conjunct.unbegun.extend first⟩

/-- Whether a character of the class continues the one before it without taking room. -/
def continuesCharacter (kind : ClusterClass) : Bool :=
  kind == .extend || kind == .linker || kind == .nonJoiner || kind == .joiner

/-- The state after a further character of the cluster. -/
def extend (state : ClusterState) (next : ClusterClass) : ClusterState where
  last := next
  unpairedIndicator := next == .regionalIndicator && !state.unpairedIndicator
  afterPictograph :=
    next == .pictograph ||
      (state.afterPictograph && state.last != .joiner && continuesCharacter next)
  conjunct := state.conjunct.extend next

/-- Whether a control or a line end, next to which a text is always broken. -/
def standsAlone (kind : ClusterClass) : Bool :=
  kind == .control || kind == .carriageReturn || kind == .lineFeed

/-- Whether the next character belongs to the cluster. -/
def joins (state : ClusterState) (next : ClusterClass) : Bool :=
  if state.last == .carriageReturn && next == .lineFeed then true
  else if standsAlone state.last || standsAlone next then false
  else
    match state.last, next with
    | .hangulLeading, .hangulLeading | .hangulLeading, .hangulVowel
    | .hangulLeading, .hangulOpenSyllable | .hangulLeading, .hangulClosedSyllable
    | .hangulOpenSyllable, .hangulVowel | .hangulOpenSyllable, .hangulTrailing
    | .hangulVowel, .hangulVowel | .hangulVowel, .hangulTrailing
    | .hangulClosedSyllable, .hangulTrailing | .hangulTrailing, .hangulTrailing => true
    | _, .extend | _, .linker | _, .nonJoiner | _, .joiner | _, .spacingMark => true
    | .prepend, _ => true
    | _, .consonant => state.conjunct = .linked
    | .joiner, .pictograph => state.afterPictograph
    | .regionalIndicator, .regionalIndicator => state.unpairedIndicator
    | _, _ => false

end ClusterState

/-- The clusters of the rest of a text, where `begun` holds the characters of the cluster being
read, the last of them first. -/
def clustersFrom (state : ClusterState) (begun : List Char) : List Char → List (List Char)
  | [] => [begun.reverse]
  | c :: rest =>
    let next := clusterClass c
    if state.joins next then
      clustersFrom (state.extend next) (c :: begun) rest
    else
      begun.reverse :: clustersFrom (.start next) [c] rest

/-- The clusters of a text in order. -/
def clusters : List Char → List (List Char)
  | [] => []
  | c :: rest => clustersFrom (.start (clusterClass c)) [c] rest

end Onboarding.Text
