import AtmosChem.Files.Source
import AtmosChem.Log
import AtmosChem.Mechanism.Summary
import AtmosChem.Settings.CommandLine

/-!
# Runs

A run checks its settings, reads the source of the mechanism, translates it, and writes three files
into a directory of the mechanism's name.  Everything up to the writing only looks at the file tree.

* `Run.prepare`: the mechanism of the settings, with all notices.
* `Run.store`: the three files, up to the first that cannot be written.
* `Run.perform`: both.
* `Program.run`: the whole program, from its arguments to its exit code.
-/

namespace AtmosChem

namespace Run

/-! ### Translating -/

/-- The mechanism that settings ask for, and the labels of the equations that are not in it. -/
def prepare (s : Settings) (t : FileTree) : Logged (Mechanism × List String) := do
  .ofExcept s.check
  let text ← .ofExcept (Source.readSource t s.inputDirectory s.inputName s.format.suffixes)
  let (m, unknowns) ← s.format.translate text s.mechanismName s.tolerance
  .give (m.notices unknowns)
  return (m, unknowns)

/-! ### Writing -/

/-- The text of a list of labels, a line for each. -/
def unknownsText (labels : List String) : String :=
  let text := "\n".intercalate labels
  if text = "" then "" else text ++ "\n"

/-- The names of the files that a run writes. -/
def outputNames : List String := ["species.json", "reactions.json", "unknowns.txt"]

/-- The three files of a mechanism: their names and their texts. -/
def outputs (m : Mechanism) (unknowns : List String) : List (String × String) :=
  outputNames.zip [m.speciesText, m.reactionsText, unknownsText unknowns]

/-- What came of writing: the tree after it, the paths of the files that have been written, and the
failure that ended it, if there was one. -/
structure Stored where
  tree : FileTree
  written : List String
  outcome : Except Failure Unit

/-- Files written into a directory one after the other, up to the first that cannot be written. -/
def writeEach (directory : String) : FileTree → List (String × String) → Stored
  | t, [] => ⟨t, [], .ok ()⟩
  | t, (name, text) :: rest =>
    let path := Path.join directory name
    match t.write path text.toUTF8 with
    | .error fault => ⟨t, [], .error (.file path fault)⟩
    | .ok t' =>
      let after := writeEach directory t' rest
      { after with written := path :: after.written }

/-- The files of a mechanism written into a directory, which is made if it is missing. -/
def store (directory : String) (m : Mechanism) (unknowns : List String) (t : FileTree) : Stored :=
  match t.makeDirectories directory with
  | (t', .error fault) => ⟨t', [], .error (.file directory fault)⟩
  | (t', .ok ()) => writeEach directory t' (outputs m unknowns)

/-- What a run has done. -/
structure Report where
  mechanism : Mechanism
  unknowns : List String
  directory : String

/-- The end of a run: the tree after it, the paths of the files that it has written, and its report
with all notices. -/
structure Ending where
  tree : FileTree
  written : List String
  report : Logged Report

/-- A run. -/
def perform (s : Settings) (t : FileTree) : Ending :=
  let prepared := prepare s t
  match prepared.outcome with
  | .error e => ⟨t, [], ⟨prepared.notices, .error e⟩⟩
  | .ok (m, unknowns) =>
    let directory := Path.join s.outputDirectory m.name
    let stored := store directory m unknowns t
    ⟨stored.tree, stored.written,
      ⟨prepared.notices, stored.outcome.map fun _ => ⟨m, unknowns, directory⟩⟩⟩

/-- What a run prints: the summary of the mechanism and where it has been written. -/
def Report.text (r : Report) : String :=
  r.mechanism.headline ++ r.mechanism.table
    ++ toString r.mechanism.reactions.length ++ " reactions written to '" ++ r.directory ++ "', "
    ++ toString r.unknowns.length ++ " unknown\n"

end Run

/-! ### The program -/

namespace Program

/-- How the program ends. -/
structure Result where
  exitCode : UInt32
  output : String
  errors : String
  log : List Record
  /-- The file that the log has been written to as well, and the records that it still has. -/
  logFile : Option (String × List Record)
  tree : FileTree

/-- The tree with an empty log file, if there is to be one. -/
def openLog (s : Settings) (t : FileTree) : Except Failure FileTree :=
  match s.logFile with
  | none => .ok t
  | some path =>
    match t.write path ByteArray.empty with
    | .ok t' => .ok t'
    | .error fault => .error (.file path fault)

/-- The end of a program that could not begin its run. -/
def refused (e : Failure) (t : FileTree) : Result :=
  ⟨1, "", e.message ++ "\n", [], none, t⟩

/-- The records that a log file still has at the end.  If a result has been written to the same
place, the records of the time before are lost. -/
def kept (e : Run.Ending) (path : String) (before after : List Record) : List Record :=
  if e.written.any fun w => e.tree.samePlace w path then after else before ++ after

/-- The program with the options of its command line. -/
def run (o : Options) (t : FileTree) : Result :=
  match o.settings t with
  | .error e => refused e t
  | .ok s =>
    match openLog s t with
    | .error e => refused e t
    | .ok opened =>
      let ending := Run.perform s opened
      let warnings := ending.report.notices.map fun n => Record.warning n.message
      let logFile := fun errors =>
        s.logFile.map fun path => (path, kept ending path warnings errors)
      match ending.report.outcome with
      | .ok r => ⟨0, r.text, "", warnings, logFile [], ending.tree⟩
      | .error e => ⟨1, "", "", warnings ++ e.records, logFile e.records, ending.tree⟩

end Program

end AtmosChem
