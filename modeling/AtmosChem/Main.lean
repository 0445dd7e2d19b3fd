import AtmosChem.Run

/-!
# The program on the disk

The program proper works on a file tree.  This module looks at the places on the disk that a run can
see, lets the program run on them, and puts onto the disk what the run has written.
-/

namespace AtmosChem.Disk

/-! ### Looking -/

/-- The tree with what the disk has at a path. -/
def lookAt (t : FileTree) (path : String) : IO FileTree := do
  let place := (← IO.currentDir) / path
  if ← place.isDir then return t.add (path ++ "/") ByteArray.empty
  if ← place.pathExists then return t.add path (← IO.FS.readBinFile place)
  return t

/-- The tree with what the disk has at a path and above it. -/
def look (t : FileTree) (path : String) : IO FileTree := do
  if path.isEmpty then return t
  ((path :: Path.ancestors path).reverse).foldlM lookAt t

/-- The names in a directory; none if there is no directory. -/
def namesIn (directory : String) : IO (List String) := do
  if directory.isEmpty then return []
  let place := (← IO.currentDir) / directory
  if ← place.isDir then
    return (← place.readDir).toList.map fun e => e.fileName
  return []

/-- The tree of all that a run with some settings can see. -/
def lookFor (s : Settings) (t : FileTree) : IO FileTree := do
  let t ← look t s.inputDirectory
  let sources := Source.select s.inputName s.format.suffixes (← namesIn s.inputDirectory)
  let t ← sources.foldlM (fun t name => lookAt t (Path.join s.inputDirectory name)) t
  let directory := Path.join s.outputDirectory s.mechanismName
  let t ← look t directory
  let t ← Run.outputNames.foldlM (fun t name => lookAt t (Path.join directory name)) t
  match s.logFile with
  | some path => look t path
  | none => return t

/-! ### Writing -/

/-- A changed file, written onto the disk. -/
def writeChange (change : Location × ByteArray) : IO Unit := do
  let place := (← IO.currentDir) / FileTree.pathOf change.1
  match place.parent with
  | some above => IO.FS.createDirAll above
  | none => pure ()
  IO.FS.writeBinFile place change.2

/-- A record of the log, errors apart from the rest. -/
def printRecord (r : Record) : IO Unit :=
  match r with
  | .warning _ => IO.println r.text
  | .error _ => IO.eprintln r.text

/-- The text of a log, a record on each line. -/
def logText (records : List Record) : String := String.join (records.map fun x => x.text ++ "\n")

/-- The end of a run: its files, its log and its output. -/
def finish (before : FileTree) (r : Program.Result) : IO UInt32 := do
  for change in before.changes r.tree do
    writeChange change
  if let some (path, records) := r.logFile then
    let place := (← IO.currentDir) / path
    let content := (r.tree.read path).toOption.getD ByteArray.empty
    IO.FS.writeBinFile place (content ++ (logText records).toUTF8)
  for x in r.log do
    printRecord x
  IO.print r.output
  IO.eprint r.errors
  return r.exitCode

/-! ### The command line -/

/-- How the program is called. -/
def usage : String :=
  "usage: --input-name NAME [--format kpp|mozart] [--input-dir DIR] [--output-dir DIR]\n"
    ++ "  [--mechanism NAME] [--config FILE] [--logfile FILE] [--tolerance NUMBER] [-d|--debug]\n"

/-- The program with its options. -/
def runWith (o : Options) : IO UInt32 := do
  let configured ← match o.config with
    | some path => look FileTree.empty path
    | none => pure FileTree.empty
  match o.settings configured with
  | .error _ => finish configured (Program.run o configured)
  | .ok s =>
    let t ← lookFor s configured
    finish t (Program.run o t)

end AtmosChem.Disk

/-- The program. -/
def main (arguments : List String) : IO UInt32 := do
  match AtmosChem.Options.parse arguments with
  | .ok o => AtmosChem.Disk.runWith o
  | .error .helpWanted => do
    IO.print AtmosChem.Disk.usage
    return 0
  | .error _ => do
    IO.eprint AtmosChem.Disk.usage
    return 2
