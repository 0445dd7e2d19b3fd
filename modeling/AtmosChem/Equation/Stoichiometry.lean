import AtmosChem.Equation.Term
import AtmosChem.Rate.Expression

/-!
# Stoichiometry

The two sides of an equation as amounts of species.  The species stand in the order in which they
are first written, and a species that is written twice has the sum of its amounts.

* `Amounts.add`: one more term on a side.
* `Stoichiometry`: the two sides.
* `Sides.read`: the two sides of a written equation.  Photons among the reactants are no species;
  they are only noted.
-/

namespace AtmosChem

/-- The amounts of species, in order of first occurrence. -/
abbrev Amounts := List (String × Float)

namespace Amounts

/-- One more amount of a species.  The sum of a species begins at zero. -/
def add (species : String) (amount : Float) : Amounts → Amounts
  | [] => [(species, 0.0 + amount)]
  | (s, x) :: rest =>
    if s = species then (s, x + amount) :: rest else (s, x) :: add species amount rest

/-- The species of a side. -/
def species (as : Amounts) : List String := as.map Prod.fst

/-- **Adding keeps the order**: a new species goes to the end. -/
theorem species_add (s : String) (x : Float) (as : Amounts) :
    (add s x as).species = if s ∈ as.species then as.species else as.species ++ [s] := by
  induction as with
  | nil => simp [add, species]
  | cons a as ih =>
    obtain ⟨t, y⟩ := a
    by_cases h : t = s
    · simp [add, species, h]
    · simp only [species] at ih
      simp only [add, h, if_false, species, List.map_cons, List.mem_cons, Ne.symm h, false_or, ih]
      by_cases hs : s ∈ as.map Prod.fst <;> simp [hs]

end Amounts

/-- The amounts on both sides of an equation. -/
structure Stoichiometry where
  reactants : Amounts
  products : Amounts

namespace Stoichiometry

/-- Nothing on either side. -/
def empty : Stoichiometry := ⟨[], []⟩

/-- One more reactant. -/
def addReactant (s : Stoichiometry) (species : String) (amount : Float) : Stoichiometry :=
  { s with reactants := s.reactants.add species amount }

/-- One more product. -/
def addProduct (s : Stoichiometry) (species : String) (amount : Float) : Stoichiometry :=
  { s with products := s.products.add species amount }

/-- Whether anything is on the product side. -/
def hasProducts (s : Stoichiometry) : Bool := !s.products.isEmpty

end Stoichiometry

/-! ### Reading the sides of an equation -/

/-- The amounts of a list of terms, on top of amounts that are there already. -/
def Amounts.addTerms : Amounts → List (List Char) → Except Failure Amounts
  | as, [] => .ok as
  | as, t :: ts =>
    match Term.read t with
    | .ok term => Amounts.addTerms (as.add term.species term.coefficient) ts
    | .error e => .error e

/-- The sides of a written equation, and whether a photon was among its reactants. -/
structure Sides where
  stoichiometry : Stoichiometry
  photon : Bool

/-- The sides of an equation from the texts left and right of its sign.  The reactants are read
first. -/
def Sides.read (reactants products : List Char) : Except Failure Sides := do
  let texts := termTexts reactants
  let rs ← Amounts.addTerms [] (texts.filter fun t => !isPhoton t)
  let ps ← Amounts.addTerms [] (termTexts products)
  return ⟨⟨rs, ps⟩, texts.any isPhoton⟩

end AtmosChem
