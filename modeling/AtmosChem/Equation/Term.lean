import AtmosChem.Decimal.Float
import AtmosChem.Failure
import AtmosChem.Text.Alphabetic
import AtmosChem.Text.Cut

/-!
# Terms

A side of an equation is a sum of **terms**, such as `2 NO2`, `0.5*CH2O` or `H2O`.  Everything in
front of the first letter is the coefficient; where nothing is written it is one.

* `Term.read`: the coefficient and the species of a term.
* `termTexts`: the texts of the terms of a side.
-/

namespace AtmosChem

open Text Decimal

/-- A species with the amount in front of it. -/
structure Term where
  coefficient : Float
  species : String

namespace Term

/-- The text of a coefficient: what stands in front of the species, without blanks and without the
multiplication signs at its end. -/
def coefficientText (s : List Char) : List Char := trimEnd (dropEndWhile (· == '*') (trim s))

/-- Whether a number is an amount: finite and above zero. -/
def isAmount (x : Float) : Bool := x.isFinite && x > 0.0

/-- The amount that the text of a coefficient stands for. -/
def amount? (s : List Char) : Option Float :=
  if s = [] then some 1.0 else (readFloat? s).filter isAmount

/-- A term is a coefficient up to the first letter, and a species from there. -/
def read (s : List Char) : Except Failure Term :=
  let front := s.takeWhile fun c => !isAlphabetic c
  let species := s.dropWhile fun c => !isAlphabetic c
  if species = [] then .error (.malformedTerm (String.ofList s))
  else
    let text := coefficientText front
    match amount? text with
    | some x => .ok ⟨x, String.ofList (trimEnd species)⟩
    | none => .error (.invalidCoefficient (String.ofList text) (String.ofList s))

end Term

/-- The texts of the terms of a side: between the plus signs, without braces and outer blanks.  A
text without anything is no term. -/
def termTexts (side : List Char) : List (List Char) :=
  ((side.splitOn '+').map strip).filter fun t => t ≠ []

end AtmosChem
