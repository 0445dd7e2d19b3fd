import AtmosChem.Equation.Kpp
import AtmosChem.Species.Basic

/-!
# Declarations of species

KPP declares one species on a line, `O3 = IGNORE ; {ozone}`; only the name in front of the sign is
kept.  MOZART declares species between commas, `O3, O1D -> O`, the formula after an arrow.  Names
may stand in braces in both.

* `Kpp.species`, `Kpp.speciesNotices`: the species of lines, and the lines without a name.
* `Mozart.species`: the species of lines.
-/

namespace AtmosChem

open Text

/-! ### KPP -/

/-- The declarations among the lines of a section. -/
def Kpp.declarations (lines : List (List Char)) : List (List Char) :=
  (lines.filter isContent).map trim

/-- The name that a line declares; it may be empty. -/
def Kpp.declaredName (line : List Char) : List Char := strip (before '=' line)

/-- The species that lines declare. -/
def Kpp.species (role : Role) (lines : List (List Char)) : List Species :=
  (((declarations lines).map declaredName).filter fun name => name ≠ []).map fun name =>
    ⟨String.ofList name, role, none⟩

/-- The notices about lines that declare no name. -/
def Kpp.speciesNotices (lines : List (List Char)) : List Notice :=
  ((declarations lines).filter fun line => declaredName line = []).map fun line =>
    .namelessSpecies (String.ofList line)

/-! ### MOZART -/

/-- The declarations among the lines of a section: what stands between commas. -/
def Mozart.declarations (lines : List (List Char)) : List (List Char) :=
  ((lines.flatMap fun line => line.splitOn ',').map trim).filter fun entry => entry ≠ []

/-- The name that an entry declares, which may be empty, and its formula. -/
def Mozart.declared (entry : List Char) : List Char × Option (List Char) :=
  match cutAtWord ['-', '>'] entry with
  | some (name, formula) => (strip name, some (trim formula))
  | none => (strip entry, none)

/-- The species that lines declare.  An entry without a name declares none. -/
def Mozart.species (role : Role) (lines : List (List Char)) : List Species :=
  (((declarations lines).map declared).filter fun d => d.1 ≠ []).map fun d =>
    ⟨String.ofList d.1, role, d.2.map String.ofList⟩

end AtmosChem
