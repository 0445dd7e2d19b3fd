import AtmosChem.Failure
import AtmosChem.Files.Path

/-!
# File trees

The files and directories that a run can see, as a value.  A place in the tree is a **location**:
the names from the working directory down.  Locations above the working directory begin with `..`,
those below the root with `/`; the directories on the way up exist without being listed.

* `FileTree.locate`: the location of a path.  Every name but the last has to be a directory, and
  names and paths are not longer than the system allows.
* `FileTree.read`, `FileTree.isDirectory`, `FileTree.children`: looking at the tree.
* `FileTree.write`, `FileTree.makeDirectory`, `FileTree.makeDirectories`: changing it.
* `FileTree.changes`, `FileTree.changesBelow`: the files in which two trees differ.
-/

namespace AtmosChem

/-- A directory, or a file with its bytes. -/
inductive Node
  | directory
  | file (content : ByteArray)

/-- Two files are equal if they have the same bytes. -/
instance : DecidableEq Node
  | .directory, .directory => isTrue rfl
  | .directory, .file _ => isFalse nofun
  | .file _, .directory => isFalse nofun
  | .file a, .file b =>
    if h : a.data = b.data then isTrue (congrArg Node.file (ByteArray.ext h))
    else isFalse fun e => h (congrArg ByteArray.data (Node.file.inj e))

/-- A place in a file tree. -/
abbrev Location := List String

/-- The files and directories below and around a working directory, each at its location. -/
structure FileTree where
  entries : List (Location × Node)

namespace FileTree

/-- The tree of an empty working directory. -/
def empty : FileTree := ⟨[]⟩

/-! ### Locations -/

/-- Whether a location is the working directory, a directory above it, or the root. -/
def isAnchor (l : Location) : Bool := l.all (· == "..") || l == ["/"]

/-- What is at a location. -/
def node? (t : FileTree) (l : Location) : Option Node :=
  if isAnchor l then some .directory else t.entries.lookup l

/-- The location above. -/
def parent (l : Location) : Location :=
  if l = ["/"] then l
  else match l.getLast? with
    | none => [".."]
    | some last => if last = ".." then l ++ [".."] else l.dropLast

/-- The location of a name in a directory. -/
def child (l : Location) (name : String) : Location :=
  if name = "" ∨ name = "." then l else if name = ".." then parent l else l ++ [name]

/-- The most bytes that a name can have. -/
def nameLimit : Nat := 255

/-- A path has to be shorter than this number of bytes. -/
def pathLimit : Nat := 4096

/-- Whether a path can be looked up at all. -/
def checkPath (path : String) : Except FileFault Unit :=
  if path.toList.contains '\x00' then .error .nullInName
  else if path = "" then .error .notFound
  else if pathLimit ≤ path.utf8ByteSize then .error .nameTooLong
  else .ok ()

/-- Whether names can be looked up at a location: there has to be a directory. -/
def checkDirectory (t : FileTree) (l : Location) : Except FileFault Unit :=
  match t.node? l with
  | none => .error .notFound
  | some (.file _) => .error .notDirectory
  | some .directory => .ok ()

/-- One name further down. -/
def enter (t : FileTree) (l : Location) (name : String) : Except FileFault Location := do
  t.checkDirectory l
  if nameLimit < name.utf8ByteSize then .error .nameTooLong else .ok (child l name)

/-- The location that names lead to from the place where a path begins. -/
def walk (t : FileTree) (path : String) (names : List String) : Except FileFault Location :=
  names.foldlM t.enter (if Path.isAbsolute path then ["/"] else [])

/-- The location of a path.  The last name may be free. -/
def locate (t : FileTree) (path : String) : Except FileFault Location := do
  checkPath path
  t.walk path (Path.parts path)

/-! ### Looking -/

/-- Whether two paths lead to one location. -/
def samePlace (t : FileTree) (path path' : String) : Bool :=
  match t.locate path, t.locate path' with
  | .ok l, .ok l' => l == l'
  | _, _ => false

/-- Whether there is a directory at a path. -/
def isDirectory (t : FileTree) (path : String) : Bool :=
  match t.locate path with
  | .ok l => t.node? l == some .directory
  | .error _ => false

/-- The bytes of the file at a path. -/
def read (t : FileTree) (path : String) : Except FileFault ByteArray := do
  match t.node? (← t.locate path) with
  | none => .error .notFound
  | some .directory => .error .isDirectory
  | some (.file content) => .ok content

/-- The text of the file at a path. -/
def readText (t : FileTree) (path : String) : Except FileFault String := do
  match String.fromUTF8? (← t.read path) with
  | none => .error .notUtf8
  | some s => .ok s

/-- The name of an entry that lies directly in a directory. -/
def nameIn? (directory : Location) (l : Location) : Option String :=
  if l.dropLast = directory then l.getLast? else none

/-- The names of the files in a directory, as the tree has them. -/
def children (t : FileTree) (directory : Location) : List String :=
  t.entries.filterMap fun e =>
    match e.2 with
    | .file _ => nameIn? directory e.1
    | .directory => none

/-! ### Changing -/

/-- A list of entries with a new node at a location. -/
def put (l : Location) (n : Node) : List (Location × Node) → List (Location × Node)
  | [] => [(l, n)]
  | e :: es => if e.1 = l then (l, n) :: es else e :: put l n es

theorem lookup_put_self (l : Location) (n : Node) (es : List (Location × Node)) :
    (put l n es).lookup l = some n := by
  induction es with
  | nil => simp [put]
  | cons e es ih =>
    obtain ⟨m, k⟩ := e
    by_cases h : m = l
    · simp [put, h]
    · have h' : (l == m) = false := beq_eq_false_iff_ne.2 (Ne.symm h)
      simp [put, h, List.lookup_cons, h', ih]

/-- **A new node changes one place only.** -/
theorem lookup_put_of_ne {l l' : Location} (h : l' ≠ l) (n : Node) (es : List (Location × Node)) :
    (put l n es).lookup l' = es.lookup l' := by
  have hb : (l' == l) = false := beq_eq_false_iff_ne.2 h
  induction es with
  | nil => simp [put, List.lookup_cons, hb]
  | cons e es ih =>
    obtain ⟨m, k⟩ := e
    by_cases he : m = l
    · subst he
      simp [put, List.lookup_cons, hb]
    · simp [put, he, List.lookup_cons, ih]

/-- The tree with a file at a path, new or with new bytes.  A path that ends in a slash can only be
that of a directory; its last name is not looked up. -/
def write (t : FileTree) (path : String) (content : ByteArray) : Except FileFault FileTree := do
  checkPath path
  let plain := Path.dropSlashes path
  if plain = "" then .error .isDirectory
  if plain ≠ path then
    t.checkDirectory (← t.walk path (Path.parts plain).dropLast)
    .error .isDirectory
  let l ← t.locate path
  match t.node? l with
  | some .directory => .error .isDirectory
  | _ => .ok ⟨put l (.file content) t.entries⟩

/-- The tree with a new directory at a path. -/
def makeDirectory (t : FileTree) (path : String) : Except FileFault FileTree := do
  checkPath path
  if Path.dropSlashes path = "" then .error .exists
  let l ← t.locate (Path.dropSlashes path)
  match t.node? l with
  | some _ => .error .exists
  | none => .ok ⟨put l .directory t.entries⟩

/-- The tree with directories at a list of paths, each lying in the next one.  A path whose
directory is there needs no more; a path that cannot be made waits for the one it lies in.  On a
failure the tree keeps what has been made. -/
def makeEach (t : FileTree) : List String → FileTree × Except FileFault Unit
  | [] => (t, .ok ())
  | path :: above =>
    match t.makeDirectory path with
    | .ok t' => (t', .ok ())
    | .error .notFound =>
      match t.makeEach above with
      | (t', .error e) => (t', .error e)
      | (t', .ok ()) =>
        match t'.makeDirectory path with
        | .ok t'' => (t'', .ok ())
        | .error e => (t', if t'.isDirectory path then .ok () else .error e)
    | .error e => (t, if t.isDirectory path then .ok () else .error e)

/-- The tree with a directory at a path, and directories above it as far as they are missing. -/
def makeDirectories (t : FileTree) (path : String) : FileTree × Except FileFault Unit :=
  if path = "" then (t, .ok ()) else t.makeEach (path :: Path.ancestors path)

/-! ### Building and comparing -/

/-- The tree with a file, or with a directory if the path ends in a slash.  Missing directories are
made. -/
def add (t : FileTree) (path : String) (content : ByteArray) : FileTree :=
  if Path.dropSlashes path ≠ path then (t.makeDirectories path).1
  else
    let t' := match Path.ancestors path with
      | [] => t
      | above => (t.makeEach above).1
    match t'.write path content with
    | .ok t'' => t''
    | .error _ => t'

/-- The files that are new or have new bytes, with their locations. -/
def changes (before after : FileTree) : List (Location × ByteArray) :=
  after.entries.filterMap fun e =>
    match e.2 with
    | .file content =>
      if before.node? e.1 == some (.file content) then none else some (e.1, content)
    | .directory => none

/-- Whether a location lies below the working directory. -/
def isBelow (l : Location) : Bool := !isAnchor (l.take 1)

/-- The path of a location, as it is seen from the working directory. -/
def pathOf (l : Location) : String :=
  match l with
  | "/" :: names => "/" ++ "/".intercalate names
  | names => "/".intercalate names

/-- The files below the working directory that are new or have new bytes, with their paths. -/
def changesBelow (before after : FileTree) : List (String × ByteArray) :=
  ((changes before after).filter fun c => isBelow c.1).map fun c => (pathOf c.1, c.2)

end FileTree

end AtmosChem
