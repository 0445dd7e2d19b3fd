import AtmosChem.Files.Tree
import AtmosChem.Text.Cut

/-!
# Source files

The source of a mechanism is kept in several files of one directory.  Their names begin with the
name of the mechanism and end with one of the suffixes of the format.

* `findFiles`: the paths of these files, by suffix and then by name.
* `fileLines`: the lines of a file that are not blank, tabs turned into spaces.
* `readSource`: the text of a mechanism, all its files one after the other.
-/

namespace AtmosChem.Source

open Text

/-- The names in the order of their characters. -/
def sorted (names : List String) : List String := names.mergeSort fun a b => !decide (b < a)

/-- The names that begin and end in a given way. -/
def matching (name suffix : String) (names : List String) : List String :=
  names.filter fun n =>
    name.toList.isPrefixOf n.toList && suffix.toList.isSuffixOf n.toList

/-- The names of source files among the names of all files: grouped by suffix, in the order of
characters within a group. -/
def select (name : String) (suffixes names : List String) : List String :=
  suffixes.flatMap fun suffix => matching name suffix (sorted names)

/-- The names of the files in a directory, as far as their paths can be looked up: the path of a
directory may leave too little room for a name. -/
def listed (t : FileTree) (directory : String) (l : Location) : List String :=
  (t.children l).filter fun n => (FileTree.checkPath (Path.join directory n)).isOk

/-- The paths of the source files of a mechanism.  There has to be one at least. -/
def findFiles (t : FileTree) (directory name : String) (suffixes : List String) :
    Except Failure (List String) :=
  let missing := Failure.settings (.noDirectory directory)
  match t.locate directory with
  | .error _ => .error missing
  | .ok l =>
    if t.node? l ≠ some .directory then .error missing
    else
      let names := select name suffixes (listed t directory l)
      if names = [] then .error (.settings (.noFiles name suffixes directory))
      else .ok (names.map (Path.join directory))

/-- The lines of a text that are not blank, tabs turned into spaces. -/
def cleanLines (text : List Char) : List (List Char) :=
  ((lines text).map fun line => line.map fun c => if c = '\t' then ' ' else c).filter fun line =>
    trim line ≠ []

/-- The lines of the file at a path. -/
def fileLines (t : FileTree) (path : String) : Except Failure (List (List Char)) :=
  match t.readText path with
  | .error fault => .error (.file path fault)
  | .ok text => .ok (cleanLines text.toList)

/-- The lines of files, one after the other. -/
def fileLinesAll (t : FileTree) (paths : List String) : Except Failure (List (List Char)) := do
  let files ← paths.mapM (fileLines t)
  return files.flatten

/-- The text of a mechanism. -/
def readSource (t : FileTree) (directory name : String) (suffixes : List String) :
    Except Failure (List Char) := do
  let paths ← findFiles t directory name suffixes
  let ls ← fileLinesAll t paths
  return List.intercalate ['\n'] ls

end AtmosChem.Source
