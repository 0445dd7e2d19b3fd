import AtmosChem.Failure

/-!
# Species

The species of a mechanism.  A **fixed** species keeps its concentration; a **solved** one
varies, and is solved for up to an absolute tolerance.  A species may carry a formula.

* `Species`, `Role`
* `defaultTolerance`
-/

namespace AtmosChem

/-- How a solver treats a species. -/
inductive Role
  | fixed
  | solved (tolerance : Float)

namespace Role

/-- Whether a role is that of a fixed species. -/
def isFixed : Role → Bool
  | fixed => true
  | solved _ => false

/-- The tolerance of a solved species. -/
def tolerance? : Role → Option Float
  | fixed => none
  | solved tolerance => some tolerance

end Role

/-- The two ways to treat a species, without numbers. -/
inductive SpeciesKind
  | fixed
  | solved
deriving DecidableEq, Repr

/-- The name of a kind of species. -/
def SpeciesKind.name : SpeciesKind → String
  | .fixed => "Fixed"
  | .solved => "Variable"

/-- All kinds of species. -/
def SpeciesKind.all : List SpeciesKind := [.fixed, .solved]

/-- The kind of a role. -/
def Role.kind : Role → SpeciesKind
  | .fixed => .fixed
  | .solved _ => .solved

/-- A species. -/
structure Species where
  name : String
  role : Role
  formula : Option String

/-- The absolute tolerance of solved species, where none is asked for. -/
def defaultTolerance : Float := 1.0e-12

end AtmosChem
