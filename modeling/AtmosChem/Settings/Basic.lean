import AtmosChem.Files.Tree
import AtmosChem.Format
import AtmosChem.Mechanism.Document

/-!
# Settings

What a run needs to know: the source format, where the source is and where the result goes, the name
of the mechanism and the tolerance of its species.  Settings are kept in a document in which every
field may be missing.

* `Settings`, `Settings.initial`
* `Settings.check`: what is wrong with settings, if something is.
* `Settings.toJson`, `Settings.ofJson?`: the document of settings.
* `Settings.load`, `Settings.save`: the file of settings.
-/

namespace AtmosChem

/-- The format that a value names. -/
def Format.ofWord? (v : Json) : Option Format := v.word?.bind ofKey?

/-- The settings of a run. -/
structure Settings where
  format : Format
  inputDirectory : String
  inputName : String
  outputDirectory : String
  mechanism : String
  tolerance : Float
  logFile : Option String
  debug : Bool
deriving BEq

namespace Settings

/-- The settings where nothing has been set. -/
def initial : Settings where
  format := .kpp
  inputDirectory := "."
  inputName := ""
  outputDirectory := "."
  mechanism := ""
  tolerance := defaultTolerance
  logFile := none
  debug := false

/-- The name of the mechanism, which is the name of the input if it has none of its own. -/
def mechanismName (s : Settings) : String :=
  if s.mechanism = "" then s.inputName else s.mechanism

/-- Whether a name holds nothing but blanks. -/
def isBlankName (name : String) : Bool := Text.trim name.toList == []

/-- The settings, if a run can begin with them. -/
def check (s : Settings) : Except Failure Unit :=
  if isBlankName s.inputName then .error (.settings .noInputName)
  else if isBlankName s.mechanismName then .error (.settings .noMechanismName)
  else if s.tolerance.isFinite && s.tolerance > 0.0 then .ok ()
  else .error (.settings (.badTolerance s.tolerance))

/-! ### The document -/

/-- The document of settings. -/
def toJson (s : Settings) : Json :=
  .record [
    ("format", .ofText s.format.key),
    ("input_dir", .ofText s.inputDirectory),
    ("input_name", .ofText s.inputName),
    ("output_dir", .ofText s.outputDirectory),
    ("mechanism", .ofText s.mechanism),
    ("tolerance", .ofFloat s.tolerance),
    ("log_file", s.logFile.elim .null .ofText),
    ("debug", .bool s.debug)]

/-- The names of the fields, in order. -/
def fieldNames : List String :=
  ["format", "input_dir", "input_name", "output_dir", "mechanism", "tolerance", "log_file", "debug"]

/-- The log file that a value names; null names none. -/
def logFileOfJson? : Json → Option (Option String)
  | .null => some none
  | v => v.text?.map some

/-- A field that is given, or as it is initially. -/
def given {α : Type} (read : Json → Option α) (initially : α) : Option Json → Option α
  | none => some initially
  | some v => read v

/-- The settings whose fields a function gives, each at most once. -/
def ofFields? (field : String → Option Json) : Option Settings := do
  let format ← given Format.ofWord? initial.format (field "format")
  let inputDirectory ← given Json.text? initial.inputDirectory (field "input_dir")
  let inputName ← given Json.text? initial.inputName (field "input_name")
  let outputDirectory ← given Json.text? initial.outputDirectory (field "output_dir")
  let mechanism ← given Json.text? initial.mechanism (field "mechanism")
  let tolerance ← given Json.float? initial.tolerance (field "tolerance")
  let logFile ← given logFileOfJson? initial.logFile (field "log_file")
  let debug ← given Json.bool? initial.debug (field "debug")
  return {
    format, inputDirectory, inputName, outputDirectory, mechanism, tolerance, logFile, debug }

/-- The settings of a document: an object with some of the fields, or an array of the first of them.
Fields of other names are passed over. -/
def ofJson? : Json → Option Settings
  | .array items =>
    if items.length ≤ fieldNames.length then
      ofFields? fun name => (fieldNames.zip items).lookup name
    else none
  | v => do
    let fields ← v.fields?
    if fieldNames.any fun name => (Json.valuesOf name fields).length > 1 then none
    ofFields? fun name => fields.lookup name

/-! ### The file -/

/-- The settings in the file at a path. -/
def load (t : FileTree) (path : String) : Except Failure Settings :=
  match t.readText path with
  | .error fault => .error (.file path fault)
  | .ok text =>
    match (Json.read? text).bind ofJson? with
    | some s => .ok s
    | none => .error .document

/-- The text of the file of settings. -/
def text (s : Settings) : String := s.toJson.render (some 2)

/-- The tree with settings in the file at a path. -/
def save (s : Settings) (t : FileTree) (path : String) : Except Failure FileTree :=
  match t.write path s.text.toUTF8 with
  | .error fault => .error (.file path fault)
  | .ok t' => .ok t'

end Settings

end AtmosChem
