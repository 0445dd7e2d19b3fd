/-!
# Paths

A path is a text of names with slashes between them.  It is kept as it was typed, because messages
show it so; only when a file is looked for is it taken apart.

* `Path.join`: the path of a name in a directory.
* `Path.parts`: the names of a path, empty ones and dots included.
* `Path.ancestors`: the path without its last names, step by step.
-/

namespace AtmosChem.Path

/-- Whether a path begins at the root. -/
def isAbsolute (path : String) : Bool := path.toList.head? == some '/'

/-- The path of a name in a directory.  A name that is itself absolute stands for itself. -/
def join (directory name : String) : String :=
  if isAbsolute name || directory == "" then name
  else if directory.toList.getLast? == some '/' then directory ++ name
  else directory ++ "/" ++ name

/-- The names of a path, after the slash at its beginning if there is one. -/
def parts (path : String) : List String :=
  let text := if isAbsolute path then path.toList.drop 1 else path.toList
  (text.splitOn '/').map String.ofList

/-- The path without the slashes at its end. -/
def dropSlashes (path : String) : String :=
  String.ofList (path.toList.reverse.dropWhile (· == '/')).reverse

/-- The parts of a path that count when its parent is taken: a dot only at the beginning. -/
def components (path : String) : List String :=
  match parts path with
  | [] => []
  | p :: ps =>
    (if p = "" ∨ (p = "." ∧ isAbsolute path = true) then [] else [p])
      ++ ps.filter fun q => q ≠ "" && q ≠ "."

/-- The path of a list of components. -/
def ofComponents (absolute : Bool) (names : List String) : String :=
  (if absolute then "/" else "") ++ "/".intercalate names

/-- The paths of a list of components without the last one, without the last two, and so on; the
path of no component is left out. -/
def ancestorsOf (absolute : Bool) : List String → List String
  | [] => []
  | names@(_ :: _) =>
    ((List.range names.length).drop 1).reverse.map fun n => ofComponents absolute (names.take n)

/-- The directories above a path, the nearest first. -/
def ancestors (path : String) : List String := ancestorsOf (isAbsolute path) (components path)

end AtmosChem.Path
