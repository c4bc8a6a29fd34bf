/-!
# Paths

Paths are texts whose parts are divided by slashes. Cleaning a path is purely
lexical: repeated slashes and parts `.` disappear and a part `..` cancels the
part before it, so cleaned paths name the same file in the same words.

## Main definitions

* `splitPath`: The parts between slashes.
* `cleanPath`: The shortest path with the same lexical meaning.
* `joinPath`: A path inside another, cleaned.
* `parentPath`: Everything before the last part, cleaned.
-/

namespace Passforge.Storage

/-- The non-empty parts of a path. -/
def splitPath (path : String) : List String :=
  ((path.toList.splitOn '/').filter (!·.isEmpty)).map String.ofList

/-- The path starts at the root. -/
def isRooted (path : String) : Bool :=
  path.toList.head? == some '/'

/-- Adds a part to the cleaned parts so far, which are listed last first. -/
def cleanStep (rooted : Bool) (done : List String) (part : String) : List String :=
  if part == "." then done
  else if part == ".." then
    match done with
    | [] => if rooted then [] else [".."]
    | last :: before => if last == ".." then ".." :: done else before
  else part :: done

/-- The shortest path with the same lexical meaning. -/
def cleanPath (path : String) : String :=
  let rooted := isRooted path
  let parts := ((splitPath path).foldl (cleanStep rooted) []).reverse
  let body := "/".intercalate parts
  if rooted then "/" ++ body else if body.isEmpty then "." else body

/-- The path `name` inside `directory`, cleaned. Empty texts are left out. -/
def joinPath (directory name : String) : String :=
  if directory.isEmpty && name.isEmpty then ""
  else if directory.isEmpty then cleanPath name
  else if name.isEmpty then cleanPath directory
  else cleanPath (directory ++ "/" ++ name)

/-- The directory a path lies in, cleaned. -/
def parentPath (path : String) : String :=
  cleanPath (String.ofList (path.toList.reverse.dropWhile (· != '/')).reverse)

end Passforge.Storage
