import GridRobot.Text.Basic

/-!
# Files

The program reads its files by path. A path leads to a file or to a directory, or it cannot be
opened. `Files.ofDirectory` is the view of a directory from inside it.
-/

namespace GridRobot

/-- What a path leads to. -/
inductive Entry where
  | file (content : Text)
  | directory
  deriving DecidableEq, Repr, Inhabited

/-- Why a path cannot be opened. -/
inductive OpenError where
  | notFound
  | notDirectory
  | denied
  | invalidName
  | nameTooLong
  deriving DecidableEq, Repr, Inhabited

/-- The reason in words. -/
def OpenError.reason : OpenError → Text
  | notFound => Text.ofString "no such file or directory"
  | notDirectory => Text.ofString "not a directory"
  | denied => Text.ofString "permission denied"
  | invalidName => Text.ofString "invalid argument"
  | nameTooLong => Text.ofString "file name too long"

/-- What paths lead to. -/
abbrev Files := Text → Except OpenError Entry

namespace Files

/-- The most bytes that one name in a path may have. -/
def longestName : Nat := 255

/-- The most bytes that a path may have. -/
def longestPath : Nat := 4095

/-- What a path, given as its parts, leads to in a directory of files. A dot and an empty part stay
where they are. -/
def find (entries : List (Text × Text)) : List Text → Except OpenError Entry
  | [] => .ok .directory
  | name :: rest =>
    if name.isEmpty || name = [46] then find entries rest
    else if longestName < name.length then .error .nameTooLong
    else
      match entries.lookup name with
      | none => .error .notFound
      | some content => if rest.isEmpty then .ok (.file content) else .error .notDirectory

/-- What a path outside the directory leads to: parts that only climb lead to a directory, and
nothing else is known there. -/
def findOutside (path : List Text) : Except OpenError Entry :=
  if path.all fun p => p.isEmpty || p = [46] || p = [46, 46] then .ok .directory
  else .error .notFound

/-- The files of a directory as seen from inside it. -/
def ofDirectory (entries : List (Text × Text)) : Files := fun path =>
  let parts := path.splitWhere (· == 47)
  if path.isEmpty then .error .notFound
  else if path.contains 0 then .error .invalidName
  else if longestPath < path.length then .error .nameTooLong
  else if path.head? = some 47 then findOutside parts
  else if (parts.dropWhile fun p => p.isEmpty || p = [46]).head? = some [46, 46] then
    findOutside parts
  else find entries parts

/-- The files that are known from a list; others are not there. -/
def ofList (known : List (Text × Except OpenError Entry)) : Files := fun path =>
  (known.lookup path).getD (.error .notFound)

end Files

end GridRobot
