import AtmosChem.Equation.Kpp
import AtmosChem.Equation.Mozart
import AtmosChem.Mechanism.Basic
import AtmosChem.Section
import AtmosChem.Species.Declaration

/-!
# Source formats

A source format says in which files a mechanism is kept, which sections count, and how species and
equations are written there.

* `Format`: KPP or MOZART.
* `Format.translate`: the mechanism of a text, with the labels of the equations that are not in it.
-/

namespace AtmosChem

/-- A source format. -/
inductive Format
  | kpp
  | mozart
deriving DecidableEq, Repr

namespace Format

/-- The name of a format in settings. -/
def key : Format → String
  | kpp => "kpp"
  | mozart => "mozart"

/-- The name of a format in texts. -/
def title : Format → String
  | kpp => "KPP"
  | mozart => "MOZART"

/-- All formats. -/
def all : List Format := [kpp, mozart]

/-- The format with a name. -/
def ofKey? (name : String) : Option Format := all.find? fun f => f.key == name

theorem ofKey?_key (f : Format) : ofKey? f.key = some f := by
  cases f <;> decide

/-- The endings of the files that make up a mechanism, in the order of reading. -/
def suffixes : Format → List String
  | kpp => [".kpp", ".spc", ".eqn", ".def"]
  | mozart => [".spc", ".eqn", ".def"]

/-- The names of the sections that are looked at. -/
def sectionNames : Format → List String
  | kpp => ["ATOMS", "DEFVAR", "DEFFIX", "EQUATIONS"]
  | mozart => ["Variable", "Fixed", "Equations"]

/-- The name of the section of fixed species. -/
def fixedSection : Format → String
  | kpp => "DEFFIX"
  | mozart => "Fixed"

/-- The name of the section of solved species. -/
def solvedSection : Format → String
  | kpp => "DEFVAR"
  | mozart => "Variable"

/-- The name of the section of equations. -/
def equationSection : Format → String
  | kpp => "EQUATIONS"
  | mozart => "Equations"

/-- The sections that are read are among those that are looked at. -/
theorem sections_mem (f : Format) : f.fixedSection ∈ f.sectionNames ∧
    f.solvedSection ∈ f.sectionNames ∧ f.equationSection ∈ f.sectionNames := by
  cases f <;> decide

/-- The species that lines declare. -/
def species : Format → Role → List (List Char) → List Species
  | kpp => Kpp.species
  | mozart => Mozart.species

/-- The notices about lines that declare species. -/
def speciesNotices : Format → List (List Char) → List Notice
  | kpp, lines => Kpp.speciesNotices lines
  | mozart, _ => []

/-- What becomes of the lines of equations. -/
def equations : Format → List (List Char) → Logged Translation
  | kpp => Kpp.translate
  | mozart => Mozart.translate

/-- The mechanism of a text, fixed species first, and the labels of the equations that gave no
reaction. -/
def translate (f : Format) (text : List Char) (name : String) (tolerance : Float) :
    Logged (Mechanism × List String) := do
  let assigned := Section.assign text
  let under (word : String) := Section.linesUnder word.toList assigned
  let fixed := under f.fixedSection
  let solved := under f.solvedSection
  .give (f.speciesNotices fixed ++ f.speciesNotices solved)
  let t ← f.equations (under f.equationSection)
  return (⟨name, f.species .fixed fixed ++ f.species (.solved tolerance) solved, t.reactions⟩,
    t.unknowns)

end Format

end AtmosChem
