import AtmosChem.Failure
import AtmosChem.Text.Cut

/-!
# The log

A run records its notices as warnings and its failure as an error.  In the text of a log a record
stands behind the time of day, to the end of its line; what a record has below its first line cannot
be told from other text.

* `Record`, `Record.text`: a record, and how it is written.
* `Failure.records`: the records of a failure.
* `Record.firstLine`, `Record.below`: a record as a reader of lines sees it.
* `Record.ofLine?`, `Record.all`: the records in a line and in a text.  `ofText?_text` says that a
  record is read as it is written.
-/

namespace AtmosChem

open Text

/-- A record of the log. -/
inductive Record
  | warning (text : String)
  | error (text : String)
deriving DecidableEq, Repr

/-- The records of a failure.  That a directory is missing is recorded on its own as well. -/
def Failure.records (e : Failure) : List Record :=
  match e with
  | .settings (.noDirectory directory) =>
    [.error (noDirectoryMessage directory), .error e.message]
  | e => [.error e.message]

namespace Record

/-- Whether a record is an error. -/
def isError : Record → Bool
  | .warning _ => false
  | .error _ => true

/-! ### Writing -/

/-- A record with its level in front. -/
def text : Record → String
  | .warning text => "[WARN] " ++ text
  | .error text => "[ERROR] " ++ text

/-- The first line of a record, with its level. -/
def firstLine (r : Record) : String := String.ofList (before '\n' r.text.toList)

/-- The lines of a record below the first one. -/
def below (r : Record) : String :=
  match cutAt '\n' r.text.toList with
  | none => ""
  | some (_, rest) => String.ofList rest ++ "\n"

/-! ### Reading -/

/-- The record that a text is. -/
def ofText? (s : List Char) : Option Record :=
  if "[WARN] ".toList.isPrefixOf s then some (.warning (String.ofList (s.drop 7)))
  else if "[ERROR] ".toList.isPrefixOf s then some (.error (String.ofList (s.drop 8)))
  else none

/-- **A record is read as it is written.** -/
theorem ofText?_text (r : Record) : ofText? r.text.toList = some r := by
  cases r <;> simp [ofText?, text]

/-- Whether a text begins with a time of day. -/
def beginsWithTime : List Char → Bool
  | a :: b :: ':' :: c :: d :: ':' :: e :: f :: ' ' :: _ => [a, b, c, d, e, f].all Char.isDigit
  | _ => false

/-- The record in a line, behind the first time of day that a record follows. -/
def ofLine? : List Char → Option Record
  | [] => none
  | c :: s =>
    match if beginsWithTime (c :: s) then ofText? (s.drop 8) else none with
    | some r => some r
    | none => ofLine? s

/-- The records in the text of a log, a line at most for each. -/
def all (s : List Char) : List Record := (lines s).filterMap ofLine?

example : ofLine? "x12:34:56 [ERROR] e".toList = some (.error "e") ∧
    ofLine? "12:34:56 [INFO] e".toList = none ∧ ofLine? "[WARN] e".toList = none := by
  decide +kernel

end Record

end AtmosChem
