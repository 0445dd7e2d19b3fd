import AtmosChem.Equation.Basic

/-!
# Equations of KPP

KPP writes one equation on a line:

    <R1> O3 + NO = NO2 + O2 : ARR_ab(3.0D-12, 1500.0_dp) ;

The label stands in angle brackets or in braces in front of the first reactant; an equation without
a label is named after its place.  What follows the semicolon is no part of the equation.  Comment
lines begin with two slashes, or stand in braces as a whole.

* `Kpp.Parts.cut`: the label, the sides and the rate of a line, as texts.
* `Kpp.readEquation`: the equation of a line.
* `Kpp.translate`: what becomes of the lines of a section.
-/

namespace AtmosChem.Kpp

open Text

/-! ### Lines -/

/-- Whether a line is a comment as a whole. -/
def isComment (line : List Char) : Bool :=
  ['/', '/'].isPrefixOf line || (line.head? == some '\x7b' && line.getLast? == some '\x7d')

/-- Whether a line holds something. -/
def isContent (line : List Char) : Bool := trim line != [] && !isComment (trim line)

/-! ### Parts of an equation -/

/-- The texts that a line consists of. -/
structure Parts where
  label : List Char
  reactants : List Char
  products : List Char
  rate : List Char
deriving DecidableEq, Repr

/-- The label in front of the reactants and the text after it: up to the closing bracket, if the
first reactant has one, without the opening ones. -/
def cutLabel? (left : List Char) : Option (List Char × List Char) :=
  let first := before '+' left
  if '>' ∈ first then
    (cutAt '>' left).map fun p => (trim (p.1.filter fun c => c ≠ '<'), p.2)
  else if '\x7d' ∈ first then
    (cutAt '\x7d' left).map fun p => (trim (p.1.filter fun c => c ≠ '\x7b'), p.2)
  else none

/-- The label of the equation at some place that has none of its own. -/
def generatedLabel (index : Nat) : List Char := 'R' :: Decimal.decimalText index

/-- The failure of a line that lacks a separator. -/
def missing (separator : Separator) (line : List Char) : Failure :=
  .missingSeparator separator (String.ofList (trim line))

/-- The parts of the line at some place. -/
def Parts.cut (index : Nat) (line : List Char) : Except Failure Parts :=
  match cutAt '=' line with
  | none => .error (missing .equals line)
  | some (left, right) =>
    match cutAt ':' right with
    | none => .error (missing .colon line)
    | some (products, tail) =>
      let (label, reactants) := (cutLabel? left).getD (generatedLabel index, left)
      .ok { label, reactants, products, rate := before ';' tail }

/-- The equation that parts make up. -/
def Parts.equation (p : Parts) : Except Failure Equation := do
  let sides ← Sides.read p.reactants p.products
  return {
    label := String.ofList p.label
    sides
    rate := classifyExpression p.rate sides.photon sides.stoichiometry.hasProducts
    notices :=
      if countsAsZero p.rate sides.photon then [.notANumber (String.ofList (trim p.rate))] else [] }

/-- The equation of the line at some place. -/
def readEquation (index : Nat) (line : List Char) : Except Failure Equation := do
  let parts ← Parts.cut index line
  parts.equation

/-! ### Sections -/

/-- The equations of lines, counted from some place on. -/
def readEquations : Nat → List (List Char) → List (Except Failure Equation)
  | _, [] => []
  | index, line :: rest => readEquation index line :: readEquations (index + 1) rest

/-- What becomes of the equation of one line. -/
def translateLine (index : Nat) (line : List Char) : Logged Translation :=
  Translation.ofEquations [readEquation index line]

/-- What becomes of the lines of a section.  Equations are counted from one; blank lines and
comments do not count. -/
def translate (lines : List (List Char)) : Logged Translation :=
  Translation.ofEquations (readEquations 1 (lines.filter isContent))

end AtmosChem.Kpp
