/-
This file holds paths of files: how a path is joined to the directory that it
starts from, and its steps from the root on. Where a step leads is a matter of the
disk.
-/

import Onboarding.Text.Split

namespace Onboarding

open Text

namespace Path

/-- Whether the path starts from the root. -/
def isAbsolute (path : String) : Bool :=
  path.toList.head? == some '/'

/-- The path as seen from a directory; an absolute path is the same from everywhere. -/
def join (directory path : String) : String :=
  if isAbsolute path then path
  else if directory = "" || directory.toList.getLast? == some '/' then directory ++ path
  else directory ++ "/" ++ path

/-- What follows the last dot of the last part of a path, if the part does not begin with it. -/
def extension? (path : String) : Option String :=
  let part := (pieces '/' path.toList).getLastD []
  let names := pieces '.' (part.drop 1)
  if part.isEmpty || names.length < 2 then none
  else names.getLast?.map String.ofList

/-- The path without the slashes and single dots behind its last name. -/
def upToName (path : String) : String :=
  let named := (pieces '/' path.toList).reverse.dropWhile fun part => part = [] || part = ['.']
  String.ofList (joinPieces '/' named.reverse)

/-- The name of the step that leads back to the directory around. -/
def back : String := ".."

/-- The steps of a path from the root on: names, and steps back. -/
def steps (path : String) : List String :=
  ((pieces '/' path.toList).filter fun part => part != [] && part != ['.']).map String.ofList

/-- Whether the path can only be one of a directory, as it ends with a slash or a single dot. -/
def isOfDirectory (path : String) : Bool :=
  let part := (pieces '/' path.toList).getLastD []
  part = [] || part = ['.']

end Path

end Onboarding
