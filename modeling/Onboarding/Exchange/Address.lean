/-
This file holds addresses of resources: how one is read from a text and brought into
its normal form, and the words for what comes of sending to it from where no service
can be reached.
-/

import Onboarding.Exchange.Host

namespace Onboarding

open Text

/-! ### Addresses -/

/-- Who a host belongs to in an address: the name and the word of a user, the host unless it is left
out, and the number behind it unless it is the usual one of the scheme. -/
structure Authority where
  user : List Char
  word : List Char
  host : Option Host
  number : Option Nat
  deriving DecidableEq, Repr

/-- An address. -/
structure Address where
  scheme : String
  authority : Option Authority
  /-- The path with the slash that it begins with, if it does. -/
  path : List Char
  /-- What follows the path: a question behind its mark, and a fragment behind its sign. -/
  rest : List Char
  deriving DecidableEq, Repr

namespace Address

/-! ### Schemes -/

/-- How the addresses of a scheme are read. -/
inductive SchemeKind where
  /-- A host must be given, and the path begins with a slash. -/
  | hosted
  /-- A file, with a host or without. -/
  | file
  /-- Nothing is known of the scheme. -/
  | other
  deriving DecidableEq, Repr

/-- How the addresses of a scheme are read. -/
def kindOf (scheme : String) : SchemeKind :=
  if ["http", "https", "ws", "wss", "ftp"].contains scheme then .hosted
  else if scheme = "file" then .file
  else .other

/-- The usual number behind the host. -/
def usualNumber? (scheme : String) : Option Nat :=
  if scheme = "http" || scheme = "ws" then some 80
  else if scheme = "https" || scheme = "wss" then some 443
  else if scheme = "ftp" then some 21
  else none

/-- Whether the character separates the names of a path; the backslash does where the scheme is
known. -/
def isSlash (kind : SchemeKind) (c : Char) : Bool :=
  c == '/' || (c == '\\' && kind != .other)

/-- Whether the character ends the host with what belongs to it. -/
def endsAuthority (kind : SchemeKind) (c : Char) : Bool :=
  isSlash kind c || c == '?' || c == '#'

/-! ### Paths -/

/-- Whether a part of a path stands for the directory itself. -/
def isSingleDot (part : List Char) : Bool :=
  [".", "%2e"].contains (String.ofList part).toLower

/-- Whether a part of a path stands for the directory around it. -/
def isDoubleDot (part : List Char) : Bool :=
  ["..", ".%2e", "%2e.", "%2e%2e"].contains (String.ofList part).toLower

/-- Whether a part of a path names a drive, by a letter with a colon or a bar. -/
def isDrive (part : List Char) : Bool :=
  match part with
  | [letter, mark] => letter.isAlpha && (mark == ':' || mark == '|')
  | _ => false

/-- The parts between slashes. -/
def slashParts (kind : SchemeKind) : List Char → List (List Char)
  | [] => [[]]
  | c :: rest =>
    if isSlash kind c then [] :: slashParts kind rest
    else
      match slashParts kind rest with
      | part :: others => (c :: part) :: others
      | [] => [[c]]

/-- The parts of a path without the dots among them, where `kept` holds the parts so far, the last
of them first. A drive is not left by two dots, and the first drive of a file is named with a
colon. -/
def plainParts (kind : SchemeKind) (kept : List (List Char)) :
    List (List Char) → List (List Char)
  | [] => kept.reverse
  | part :: rest =>
    let closing := if rest.isEmpty then [[]] else []
    if isDoubleDot part then
      let left := if kept.head?.any isDrive then kept else kept.drop 1
      plainParts kind (closing ++ left) rest
    else if isSingleDot part then plainParts kind (closing ++ kept) rest
    else if kind = .file && kept.isEmpty && isDrive part then
      plainParts kind [part.take 1 ++ [':']] rest
    else plainParts kind (part :: kept) rest

/-- The characters of ASCII that are written by their bytes in a path. -/
def pathSpecial : List Char := " \"<>`#?\x7b\x7d".toList

/-- The parts with a slash before each of them. -/
def slashed (parts : List (List Char)) : List Char :=
  parts.flatMap fun part => '/' :: part

/-- The parts of a path behind its first slash in their normal form. -/
def pathParts (kind : SchemeKind) (path : List Char) : List (List Char) :=
  (plainParts kind [] (slashParts kind path)).map (percentEncoded pathSpecial)

/-- The path of a file, which begins with a single slash. -/
def filePath (parts : List (List Char)) : List Char :=
  match parts.dropWhile List.isEmpty with
  | [] => ['/']
  | parts => slashed parts

/-- The path without its first slash or backslash. -/
def dropSlash (kind : SchemeKind) : List Char → List Char
  | [] => []
  | c :: rest => if isSlash kind c then rest else c :: rest

/-! ### Questions and fragments -/

/-- What follows a path, by its bytes where it has to be. -/
def encodedRest (kind : SchemeKind) (text : List Char) : List Char :=
  let question := text.takeWhile (· != '#')
  let special := if kind = .other then " \"<>".toList else " \"<>'".toList
  percentEncoded special question ++ percentEncoded " \"<>`".toList (text.drop question.length)

/-! ### Hosts with what belongs to them -/

/-- The characters of ASCII that are written by their bytes in the name and the word of a user. -/
def userSpecial : List Char := pathSpecial ++ "/:;=@[\\]^|".toList

/-- The name and the word of a user before the host, and what follows them. -/
def splitUser (text : List Char) : List Char × List Char × List Char :=
  match (pieces '@' text).reverse with
  | host :: last :: others =>
    let user := joinPieces '@' (last :: others).reverse
    let name := user.takeWhile (· != ':')
    let word := user.drop (name.length + 1)
    (percentEncoded userSpecial name, percentEncoded userSpecial word, host)
  | _ => ([], [], text)

/-- The characters up to the colon before a number; a colon in brackets belongs to the host. -/
def hostPart (bracketed : Bool) : List Char → List Char
  | [] => []
  | c :: rest =>
    if c == ':' && !bracketed then []
    else c :: hostPart (c == '[' || (bracketed && c != ']')) rest

/-- The number that digits spell; none when it is the usual one. -/
def number? (scheme : String) (digits : List Char) : Option (Option Nat) :=
  let number := Numeric.digitsValue digits
  if !digits.all Char.isDigit || 65535 < number then none
  else if digits.isEmpty || usualNumber? scheme = some number then some none
  else some (some number)

/-- The authority that a text spells, and what follows the digits of its number; `followed` says
whether anything stands behind the text. A user needs a host, and so does a number; a host that is
left out is none, but a single at sign in its place ends the address. -/
def authority? (scheme : String) (text : List Char) (followed : Bool) :
    Option (Authority × List Char) := do
  let kind := kindOf scheme
  let (user, word, located) := splitUser text
  let part := hostPart false located
  let behind := located.drop part.length
  let digits := (behind.drop 1).takeWhile (· != '\\')
  if part.isEmpty then
    let isUser := !user.isEmpty || !word.isEmpty || (text = ['@'] && followed)
    if kind = .hosted || !behind.isEmpty || isUser then none
    else some (⟨[], [], none, none⟩, [])
  else
    let host ← if kind = .other then Host.unnamed? part else Host.named? part
    let number ← number? scheme digits
    return (⟨user, word, some host, number⟩, behind.drop (digits.length + 1))

/-! ### Reading -/

/-- Whether the character does not count at either end of an address. -/
def isEdge (c : Char) : Bool :=
  c.toNat ≤ 0x20

/-- The characters that count: none at the ends that are blank, and no tabs and ends of lines. -/
def counted (text : List Char) : List Char :=
  ((text.dropWhile isEdge).reverse.dropWhile isEdge).reverse.filter
    fun c => c != '\t' && c != '\n' && c != '\r'

/-- Splits a text before its first question mark or number sign. -/
def splitPath (text : List Char) : List Char × List Char :=
  let path := text.takeWhile fun c => c != '?' && c != '#'
  (path, text.drop path.length)

/-- The address of a file behind its scheme. A name of a drive is no host, and a host is left out
where it is the machine itself or the path begins with a drive. -/
def readFile? (text : List Char) : Option Address :=
  let (text, rest) := splitPath text
  let rest := encodedRest .file rest
  let local? (path : List Char) : Option Address :=
    let parts := pathParts .file (dropSlash .file path)
    some ⟨"file", some ⟨[], [], none, none⟩, filePath parts, rest⟩
  match text with
  | first :: second :: located =>
    if isSlash .file first && isSlash .file second then
      let part := located.takeWhile fun c => !isSlash .file c
      if part.isEmpty || isDrive part then local? located
      else do
        let host ← Host.named? part
        let parts := pathParts .file (dropSlash .file (located.drop part.length))
        let here := host = .name "localhost".toList || parts.head?.any isDrive
        return ⟨"file", some ⟨[], [], if here then none else some host, none⟩, filePath parts, rest⟩
    else local? text
  | text => local? text

/-- The address behind its scheme where a host follows. -/
def readHosted? (scheme : String) (text : List Char) : Option Address := do
  let kind := kindOf scheme
  let belonging := text.takeWhile fun c => !endsAuthority kind c
  let following := text.drop belonging.length
  let (authority, behind) ← authority? scheme belonging !following.isEmpty
  let (path, rest) := splitPath (behind ++ following)
  let parts := pathParts kind (dropSlash kind path)
  let path := if kind = .other && path.isEmpty then [] else slashed parts
  return ⟨scheme, some authority, path, encodedRest kind rest⟩

/-- The address behind its scheme where no host follows. A path that would begin with two slashes
begins with a dot. -/
def readUnhosted (scheme : String) (text : List Char) : Address :=
  let (path, rest) := splitPath text
  let path :=
    match path with
    | '/' :: path =>
      let path := slashed (pathParts .other path)
      if ['/', '/'].isPrefixOf path then ['/', '.'] ++ path else path
    | path => percentEncoded [] path
  ⟨scheme, none, path, encodedRest .other rest⟩

/-- The address that a text spells; none when it spells none. -/
def read? (text : String) : Option Address :=
  let text := counted text.toList
  let scheme := text.takeWhile fun c => c.isAlphanum || c == '+' || c == '-' || c == '.'
  match text.drop scheme.length with
  | ':' :: rest =>
    if !scheme.head?.any Char.isAlpha then none
    else
      let scheme := (String.ofList scheme).toLower
      match kindOf scheme, rest with
      | .hosted, rest => readHosted? scheme (rest.dropWhile (isSlash .hosted))
      | .file, rest => readFile? rest
      | .other, '/' :: '/' :: rest => readHosted? scheme rest
      | .other, rest => some (readUnhosted scheme rest)
  | _ => none

/-! ### Writing -/

/-- An authority as a text. -/
def authorityText (authority : Authority) : List Char :=
  let word := if authority.word.isEmpty then [] else ':' :: authority.word
  let user := authority.user ++ word
  let host := (authority.host.map Host.text).getD []
  let number := match authority.number with
    | some number => ':' :: Nat.toDigits 10 number
    | none => []
  (if user.isEmpty then [] else user ++ ['@']) ++ host ++ number

/-- The address as a text. -/
def text (address : Address) : String :=
  let authority := match address.authority with
    | some authority => ['/', '/'] ++ authorityText authority
    | none => []
  address.scheme ++ ":" ++ String.ofList (authority ++ address.path ++ address.rest)

/-! ### Sending -/

/-- The authority without the name and the word of its user, which are sent in another way; they
stay when they are no text. -/
def Authority.withoutUser (authority : Authority) : Authority :=
  match percentText? authority.user, percentText? authority.word with
  | some [], none | none, _ => authority
  | _, _ => { authority with user := [], word := [] }

/-- The length of the longest address that a request can be sent to. -/
def longestSendable : Nat := 65534

/-- Whether a request can be sent to such an address at all. -/
def isSendable (address : Address) : Bool :=
  let host := (address.authority.bind Authority.host).map Host.text
  (address.scheme = "http" || address.scheme = "https") &&
    address.text.length ≤ longestSendable &&
    !(host.getD []).any ['"', '`', '\x7b', '\x7d'].contains

/-- Why nothing comes of sending to an address from where no service can be reached. -/
def unreachable (text : String) : String :=
  match read? text with
  | some address =>
    let shown := { address with authority := address.authority.map Authority.withoutUser }
    (if shown.isSendable then "error sending request" else "builder error") ++ " for url (" ++
      shown.text ++ ")"
  | none => "builder error"

end Address

end Onboarding
