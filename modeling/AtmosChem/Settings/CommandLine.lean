import AtmosChem.Settings.Basic

/-!
# The command line

Arguments are options with a value, `--name value` or `--name=value`, and flags.  No option may come
twice.  A value that stands by itself cannot begin with a dash, apart from a dash alone.

The value of an option is looked at when the next option begins or the arguments end.  Until then
the option is **pending**; this decides which of two mistakes is reported.

* `Options`: what the command line says.
* `Options.parse`: reading it.
* `Options.settings`: the settings of a run: the command line over the file of settings, or over the
  initial settings.
-/

namespace AtmosChem

/-- The options that take a value. -/
inductive OptionName
  | format
  | inputDirectory
  | inputName
  | outputDirectory
  | mechanism
  | config
  | logFile
  | tolerance
deriving DecidableEq, Repr

/-- The word of an option. -/
def OptionName.word : OptionName → String
  | .format => "format"
  | .inputDirectory => "input-dir"
  | .inputName => "input-name"
  | .outputDirectory => "output-dir"
  | .mechanism => "mechanism"
  | .config => "config"
  | .logFile => "logfile"
  | .tolerance => "tolerance"

/-- All options that take a value. -/
def OptionName.all : List OptionName :=
  [.format, .inputDirectory, .inputName, .outputDirectory, .mechanism, .config, .logFile,
    .tolerance]

/-- The option with a word. -/
def OptionName.ofWord? (word : String) : Option OptionName :=
  OptionName.all.find? fun n => n.word == word

/-- What is wrong with a command line. -/
inductive UsageFault
  | unknownArgument
  /-- A value that is not among the possible ones, or is missing. -/
  | invalidValue
  /-- A value that is no number. -/
  | notANumber
  /-- An option that comes twice. -/
  | repeated
  /-- A value for a flag. -/
  | unneededValue
  /-- No mistake: the user asks for help. -/
  | helpWanted
deriving DecidableEq, Repr

/-- What a command line says. -/
structure Options where
  format : Option Format
  inputDirectory : Option String
  inputName : Option String
  outputDirectory : Option String
  mechanism : Option String
  config : Option String
  logFile : Option String
  tolerance : Option Float
  debug : Bool

namespace Options

/-- The command line without arguments. -/
def none : Options where
  format := .none
  inputDirectory := .none
  inputName := .none
  outputDirectory := .none
  mechanism := .none
  config := .none
  logFile := .none
  tolerance := .none
  debug := false

/-! ### Values -/

/-- Whether an option has been given. -/
def has (o : Options) : OptionName → Bool
  | .format => o.format.isSome
  | .inputDirectory => o.inputDirectory.isSome
  | .inputName => o.inputName.isSome
  | .outputDirectory => o.outputDirectory.isSome
  | .mechanism => o.mechanism.isSome
  | .config => o.config.isSome
  | .logFile => o.logFile.isSome
  | .tolerance => o.tolerance.isSome

/-- A path as a value, which cannot be empty. -/
def pathValue (value : String) : Except UsageFault String :=
  if value = "" then .error .invalidValue else .ok value

/-- The options with the value of one more. -/
def set (o : Options) (value : String) : OptionName → Except UsageFault Options
  | .format =>
    match Format.ofKey? value with
    | some f => .ok { o with format := some f }
    | .none => .error .invalidValue
  | .inputDirectory => (pathValue value).map fun v => { o with inputDirectory := some v }
  | .inputName => .ok { o with inputName := some value }
  | .outputDirectory => (pathValue value).map fun v => { o with outputDirectory := some v }
  | .mechanism => .ok { o with mechanism := some value }
  | .config => (pathValue value).map fun v => { o with config := some v }
  | .logFile => (pathValue value).map fun v => { o with logFile := some v }
  | .tolerance =>
    match Decimal.readFloat? value.toList with
    | some x => .ok { o with tolerance := some x }
    | .none => .error .notANumber

/-- The options with one more, which may not come twice. -/
def give (o : Options) (name : OptionName) (value : String) : Except UsageFault Options :=
  if o.has name then .error .repeated else o.set value name

/-! ### Reading arguments -/

/-- The options so far, and the option whose value has not been looked at. -/
structure State where
  options : Options
  pending : Option (OptionName × Option String)

/-- The options with the pending one. -/
def State.settle (q : State) : Except UsageFault Options :=
  match q.pending with
  | .none => .ok q.options
  | some (_, .none) => .error .invalidValue
  | some (name, some value) => q.options.give name value

/-- The options with the flag that asks for more records. -/
def flagDebug (o : Options) : Except UsageFault Options :=
  if o.debug then .error .repeated else .ok { o with debug := true }

/-- One flag letter. -/
def readLetter (q : State) (c : Char) : Except UsageFault State :=
  if c = 'd' then do
    let o ← q.settle
    let o ← o.flagDebug
    return ⟨o, .none⟩
  else if c = 'h' then do
    let _ ← q.settle
    .error .helpWanted
  else .error .unknownArgument

/-- An argument after two dashes: a word, and what follows an equals sign. -/
def readLong (q : State) (text : List Char) : Except UsageFault State :=
  let (word, value) := match Text.cutAt '=' text with
    | some (word, value) => (String.ofList word, some (String.ofList value))
    | .none => (String.ofList text, .none)
  match OptionName.ofWord? word with
  | some name => do
    let o ← q.settle
    match value with
    | some v => return ⟨← o.give name v, .none⟩
    | .none => return ⟨o, some (name, .none)⟩
  | .none =>
    if word = "debug" ∨ word = "help" then
      match value, word with
      | some _, _ => .error .unneededValue
      | .none, "debug" => readLetter q 'd'
      | .none, _ => readLetter q 'h'
    else .error .unknownArgument

/-- An argument that is no option: the value of the pending option, if it has none yet. -/
def readPlain (q : State) (text : List Char) : Except UsageFault State :=
  match q.pending with
  | some (name, .none) => .ok { q with pending := some (name, some (String.ofList text)) }
  | _ => .error .unknownArgument

/-- One argument. -/
def readArgument (q : State) (argument : String) : Except UsageFault State :=
  match argument.toList with
  | '-' :: '-' :: text => readLong q text
  | '-' :: c :: letters => (c :: letters).foldlM readLetter q
  | text => readPlain q text

/-- The arguments, up to two dashes alone.  Nothing may follow these. -/
def readArguments (q : State) : List String → Except UsageFault State
  | [] => .ok q
  | argument :: rest =>
    if argument = "--" then
      match rest with
      | [] => .ok q
      | _ :: _ => .error .unknownArgument
    else do
      let q ← readArgument q argument
      readArguments q rest

/-- What a list of arguments says. -/
def parse (arguments : List String) : Except UsageFault Options := do
  let q ← readArguments ⟨none, .none⟩ arguments
  q.settle

/-! ### Settings -/

/-- The settings with what a command line says in their place. -/
def applyTo (o : Options) (s : Settings) : Settings where
  format := o.format.getD s.format
  inputDirectory := o.inputDirectory.getD s.inputDirectory
  inputName := o.inputName.getD s.inputName
  outputDirectory := o.outputDirectory.getD s.outputDirectory
  mechanism := o.mechanism.getD s.mechanism
  tolerance := o.tolerance.getD s.tolerance
  logFile := o.logFile.or s.logFile
  debug := s.debug || o.debug

/-- The settings of a run. -/
def settings (o : Options) (t : FileTree) : Except Failure Settings :=
  match o.config with
  | .none => .ok (o.applyTo .initial)
  | some path => (Settings.load t path).map o.applyTo

end Options

end AtmosChem
