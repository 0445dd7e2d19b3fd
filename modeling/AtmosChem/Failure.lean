import AtmosChem.Decimal.Layout
import AtmosChem.Rate.Family
import AtmosChem.Text.Quoted

/-!
# Failures and notices

A **failure** ends a translation: a line without a separator, a term without a species, a number
that is none, a file that cannot be read.  A **notice** does not: the translation goes on and says
what it left out.  Both are causes; `message` puts them into words.

* `Failure`, `Failure.message`
* `Notice`, `Notice.message`
* `Logged`: a computation that gives notices, and may fail after it has given some.
-/

namespace AtmosChem

/-! ### Failures -/

/-- The separators that a line may lack. -/
inductive Separator
  | equals
  | colon
  | arrow
  | bracket
deriving DecidableEq, Repr

/-- A separator as it is written. -/
def Separator.text : Separator → String
  | .equals => "="
  | .colon => ":"
  | .arrow => "->"
  | .bracket => "]"

/-- Why a file or a directory could not be used. -/
inductive FileFault
  | notFound
  | exists
  | notDirectory
  | isDirectory
  | nameTooLong
  | nullInName
  | notUtf8
deriving DecidableEq, Repr

/-- A fault in words, with the number that the operating system gives it if it is the one to find
it. -/
def FileFault.message : FileFault → String
  | .notFound => "No such file or directory (os error 2)"
  | .exists => "File exists (os error 17)"
  | .notDirectory => "Not a directory (os error 20)"
  | .isDirectory => "Is a directory (os error 21)"
  | .nameTooLong => "File name too long (os error 36)"
  | .nullInName => "file name contained an unexpected NUL byte"
  | .notUtf8 => "stream did not contain valid UTF-8"

/-- What is wrong with the settings of a run. -/
inductive SettingsFault
  | noInputName
  | noMechanismName
  | badTolerance (tolerance : Float)
  | noDirectory (directory : String)
  | noFiles (name : String) (suffixes : List String) (directory : String)

/-- The words for an input directory that is missing. -/
def noDirectoryMessage (directory : String) : String :=
  "input directory '" ++ directory ++ "' does not exist"

/-- What is wrong with the settings, in words. -/
def SettingsFault.message : SettingsFault → String
  | .noInputName => "input name is empty, nothing to read"
  | .noMechanismName => "mechanism name is empty"
  | .badTolerance tolerance =>
    "absolute tolerance must be a positive number, got "
      ++ String.ofList (Decimal.plainText tolerance)
  | .noDirectory directory => noDirectoryMessage directory
  | .noFiles name suffixes directory =>
    "no files '" ++ name ++ "*' with suffixes "
      ++ String.ofList (Text.quotedList (suffixes.map String.toList))
      ++ " in '" ++ directory ++ "'"

/-- Why a translation cannot go on. -/
inductive Failure
  | missingSeparator (separator : Separator) (line : String)
  | malformedTerm (term : String)
  | invalidCoefficient (coefficient term : String)
  | file (path : String) (fault : FileFault)
  | settings (fault : SettingsFault)
  /-- A document that cannot be read. -/
  | document

/-- A failure in words. -/
def Failure.message : Failure → String
  | .missingSeparator separator line =>
    "missing '" ++ separator.text ++ "' separator in equation: " ++ line
  | .malformedTerm term => "malformed term (no species name): '" ++ term ++ "'"
  | .invalidCoefficient coefficient term =>
    "invalid coefficient '" ++ coefficient ++ "' in term '" ++ term ++ "'"
  | .file path fault => "I/O error on '" ++ path ++ "': " ++ fault.message
  | .settings fault => "configuration error: " ++ fault.message
  | .document => "JSON error"

/-! ### Notices -/

/-- What a translation leaves out or finds odd. -/
inductive Notice
  | notANumber (rate : String)
  | skipped (label : String) (reason : Rejection)
  | namelessSpecies (line : String)
  | undeclared (species : List String)
  | repeatedName (name : String)
  | untranslated (count : Nat)
deriving DecidableEq, Repr

/-- A notice in words. -/
def Notice.message : Notice → String
  | .notANumber rate => "rate '" ++ rate ++ "' is not a number, using A = 0.0"
  | .skipped label reason => "reaction '" ++ label ++ "' skipped: " ++ reason.message
  | .namelessSpecies line => "species line without a name: " ++ line
  | .undeclared species =>
    "species used in reactions but not declared: " ++ ", ".intercalate species
  | .repeatedName name => "reaction name '" ++ name ++ "' occurs more than once"
  | .untranslated count => toString count ++ " reactions could not be translated"

/-! ### Computations with notices -/

/-- The notices of a computation, in order, and what came of it. -/
structure Logged (α : Type) where
  notices : List Notice
  outcome : Except Failure α

namespace Logged

variable {α β : Type}

/-- A result without notices. -/
protected def pure (a : α) : Logged α := ⟨[], .ok a⟩

/-- A computation followed by another one, unless it fails. -/
protected def bind (x : Logged α) (f : α → Logged β) : Logged β :=
  match x.outcome with
  | .ok a => ⟨x.notices ++ (f a).notices, (f a).outcome⟩
  | .error e => ⟨x.notices, .error e⟩

instance : Monad Logged where
  pure := Logged.pure
  bind := Logged.bind

/-- Notices alone. -/
def give (notices : List Notice) : Logged Unit := ⟨notices, .ok ()⟩

/-- A result or a failure without notices. -/
def ofExcept (outcome : Except Failure α) : Logged α := ⟨[], outcome⟩

@[simp] theorem outcome_pure (a : α) : (pure a : Logged α).outcome = .ok a := rfl

@[simp] theorem notices_pure (a : α) : (pure a : Logged α).notices = [] := rfl

@[simp] theorem outcome_give (ns : List Notice) : (give ns).outcome = .ok () := rfl

@[simp] theorem outcome_ofExcept (o : Except Failure α) : (ofExcept o).outcome = o := rfl

/-- **The outcome does not see the notices.** -/
@[simp] theorem outcome_bind (x : Logged α) (f : α → Logged β) :
    (x >>= f).outcome = x.outcome >>= fun a => (f a).outcome := by
  show (Logged.bind x f).outcome = _
  unfold Logged.bind
  cases x.outcome <;> rfl

end Logged

end AtmosChem
