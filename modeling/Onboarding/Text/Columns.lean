/-
This file holds the number of terminal columns that a cluster and a text take.

The columns of a cluster are found from its end to its beginning: what follows a
character decides whether it takes the columns that it takes alone. A sequence
that is shown as one picture takes two columns, whatever it is made of.
-/

import Onboarding.Text.Cluster
import Onboarding.Text.Emoji
import Onboarding.Text.Wide

namespace Onboarding.Text

/-! ### Characters alone -/

/-- The letters of the Khmer script that take the form below the line after a coeng. -/
def coengLetterRanges : List (Nat × Nat) := [
  (0x1780, 0x1782), (0x1784, 0x1787), (0x1789, 0x178c), (0x178e, 0x1793), (0x1795, 0x1798),
  (0x179b, 0x179d), (0x17a0, 0x17a0), (0x17a2, 0x17a2), (0x17a7, 0x17a7), (0x17ab, 0x17ac),
  (0x17af, 0x17af)]

/-- The columns of a character by itself. Two letters of the Khmer script are written as two and as
three, and the joiner of the Tifinagh script is shown where it joins nothing. -/
def charColumns (c : Char) : Nat :=
  let code := c.toNat
  if code ≤ 0xa0 then 1
  else if code == 0x17a4 then 2
  else if code == 0x17d8 then 3
  else if code == 0x2d7f then 1
  else if isColumnless c then 0
  else if isWide c then 2
  else 1

/-! ### Characters in their cluster -/

/-- What a character in a cluster is followed by, as far as its columns depend on it: nothing that
matters, a line feed, a skin tone, one or more regional indicators, an emoji, or a joiner with an
emoji behind it, in front of which there may be a keycap, regional indicators, or the tags of a
flag read from their end; or a letter that a coeng puts below the line. -/
inductive Following where
  | nothing
  | lineFeed
  | modifier
  | indicator
  | indicators
  | emoji
  | joinedEmoji
  | joinedKeycap
  | joinedIndicator
  | joinedPairs
  | joinedPairsAndOne
  | tagEnd
  | tagLetters (count : Nat)
  | tagDigits (count : Nat)
  | coengLetter
  deriving DecidableEq, Repr

/-- What a character is followed by, and whether the selectors for colour and for text stand between
the two. -/
structure Context where
  following : Following
  colour : Bool
  text : Bool
  deriving DecidableEq, Repr

namespace Context

/-- A context without selectors. -/
def plain (following : Following) : Context :=
  ⟨following, false, false⟩

/-- The context of the last character of a cluster. -/
def last : Context :=
  plain .nothing

/-- Whether a joiner with an emoji behind it follows, so that the next emoji adds no columns. -/
def isJoined (context : Context) : Bool :=
  context.following = .joinedEmoji || context.following = .joinedKeycap

/-- The context in front of the selector for colour. -/
def beforeColour (context : Context) : Context :=
  if context.following = .coengLetter || context.isJoined then { context with colour := true }
  else ⟨.nothing, true, false⟩

/-- The context in front of the selector for text. -/
def beforeText (context : Context) : Context :=
  if context.following = .coengLetter then { context with text := true }
  else ⟨.nothing, false, true⟩

/-- The context of a character that the selector for colour behind it does not fit. -/
def withoutColour (context : Context) : Context :=
  if !context.colour then context
  else if context.following = .coengLetter then { context with colour := false }
  else last

/-- The context of a character that the selector for text behind it does not fit. -/
def withoutText (context : Context) : Context :=
  { context with text := false }

end Context

/-- Whether the character is left out of the form that a coeng and a letter take together. -/
def isLigatureTransparent (c : Char) : Bool :=
  c == '\u200d' || c == '\u034f' || inRanges [(0x17b4, 0x17b5), (0x180b, 0x180d), (0x180f, 0x180f),
    (0xfe00, 0xfe0e), (0xe0100, 0xe01ef)] c

/-- Whether the character is a letter among the tags of a flag. -/
def isTagLetter (c : Char) : Bool :=
  0xe0061 ≤ c.toNat && c.toNat ≤ 0xe007a

/-- Whether the character is a digit among the tags of a flag. -/
def isTagDigit (c : Char) : Bool :=
  0xe0030 ≤ c.toNat && c.toNat ≤ 0xe0039

/-- What the character is for the one before it, where nothing behind it matters. -/
def followingOf (c : Char) : Context :=
  if c == '\ufe0f' then ⟨.nothing, true, false⟩
  else if c == '\ufe0e' then ⟨.nothing, false, true⟩
  else if isEmojiModifier c then .plain .modifier
  else if isRegionalIndicator c then .plain .indicator
  else if isColouredEmoji c then .plain .emoji
  else if inRanges coengLetterRanges c then .plain .coengLetter
  else .last

/-- How a character joins with what follows it, where it does: the columns that it adds and what it
is for the character before it. -/
def joinedColumns? (c : Char) : Following → Option (Int × Following)
  | .coengLetter => if c == '\u17d2' then some (-1, .nothing) else none
  | .modifier =>
    if isModifiableEmoji c then some (0, .emoji)
    else if c == '\u200d' then some (0, .joinedEmoji)
    else none
  | .indicator => if isRegionalIndicator c then some (1, .indicators) else none
  | .indicators =>
    if isRegionalIndicator c then some (1, .indicators)
    else if c == '\u200d' then some (0, .joinedEmoji)
    else none
  | .emoji => if c == '\u200d' then some (0, .joinedEmoji) else none
  | .joinedEmoji =>
    if c == '\u20e3' then some (0, .joinedKeycap)
    else if isRegionalIndicator c then some (1, .joinedIndicator)
    else if isEmojiModifier c then some (0, .modifier)
    else if c.toNat == 0xe007f then some (0, .tagEnd)
    else if isColouredEmoji c then some (0, .emoji)
    else none
  | .joinedIndicator => if isRegionalIndicator c then some (-1, .joinedPairs) else none
  | .joinedPairs =>
    if isRegionalIndicator c then some (3, .joinedPairsAndOne)
    else if c == '\u200d' then some (0, .joinedEmoji)
    else none
  | .joinedPairsAndOne =>
    if isRegionalIndicator c then some (-1, .joinedPairs)
    else if c == '\u200d' then some (0, .joinedEmoji)
    else none
  | .tagEnd =>
    if isTagLetter c then some (0, .tagLetters 1)
    else if isTagDigit c then some (0, .tagDigits 1)
    else none
  | .tagLetters count =>
    if isTagLetter c && count < 6 then some (0, .tagLetters (count + 1))
    else if isTagDigit c && count < 5 then some (0, .tagDigits 1)
    else if c.toNat == 0x1f3f4 && 3 ≤ count then some (0, .emoji)
    else none
  | .tagDigits count =>
    if isTagDigit c && count < 3 then some (0, .tagDigits (count + 1))
    else if c.toNat == 0x1f3f4 && count == 3 then some (0, .emoji)
    else none
  | .nothing | .lineFeed | .joinedKeycap => none

/-- The columns that a character adds to its cluster, and its context for the one before it. -/
def contextColumns (c : Char) (context : Context) : Int × Context :=
  if context.colour && takesColourSelector c then
    (if context.isJoined then 0 else 2, .plain .emoji)
  else
    let context := context.withoutColour
    if c == '\n' then (1, .plain .lineFeed)
    else if c == '\r' && context.following = .lineFeed then (0, .last)
    else if c.toNat ≤ 0xa0 then (1, .last)
    else if context = .last then (charColumns c, followingOf c)
    else if c == '\ufe0f' then (0, context.beforeColour)
    else if c == '\ufe0e' then (0, context.beforeText)
    else if context.text && takesTextSelector c then (1, .last)
    else
      let context := context.withoutText
      if context.following = .coengLetter && isLigatureTransparent c then (0, context)
      else
        match joinedColumns? c context.following with
        | some (columns, following) => (columns, .plain following)
        | none => (charColumns c, followingOf c)

/-! ### Clusters and texts -/

/-- The columns of characters at the end of a cluster, and the context of the one before them. -/
def endColumns : List Char → Int × Context
  | [] => (0, .last)
  | c :: rest =>
    let (columns, context) := endColumns rest
    let (added, context) := contextColumns c context
    (columns + added, context)

/-- The columns of a cluster. -/
def clusterColumns (cluster : List Char) : Nat :=
  (endColumns cluster).1.toNat

/-- The columns of a text. -/
def columns (text : List Char) : Nat :=
  (clusters text).foldr (fun cluster columns => clusterColumns cluster + columns) 0

end Onboarding.Text
