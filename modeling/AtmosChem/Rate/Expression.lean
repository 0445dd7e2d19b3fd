import AtmosChem.Rate.Coefficient
import AtmosChem.Rate.Family

/-!
# Rates as they are written

KPP writes a rate as an expression: a call such as `ARR_ab(3.0D-12, 1500.0_dp)` or a plain number.
The name of a call is compared as a whole.  A rate is a photolysis if it mentions the sun or if a
photon is among the reactants, whatever else stands there.

MOZART writes the coefficients alone, and their number says which law they belong to.

* `RateForm`, `RateForm.of`: the shape of an expression.
* `classifyExpression`: the classification of an expression.
* `classifyCoefficients`: the classification of a list of coefficients.
-/

namespace AtmosChem

open Text Decimal

/-! ### Photons -/

/-- Whether a term is the photon `hv`, in any letter case. -/
def isPhoton (s : List Char) : Bool := (trim s).map Char.toLower == ['h', 'v']

/-- The words that mark a photolysis rate. -/
def photolysisMarks : List (List Char) := [['S', 'U', 'N'], ['P', 'j', '_']]

/-- Whether a rate mentions the sun. -/
def marksPhotolysis (rate : List Char) : Bool := photolysisMarks.any fun w => occurs w rate

/-! ### The shape of an expression -/

/-- The shape of a rate expression. -/
inductive RateForm
  | photolysis
  | call (family : Family)
  | k45
  | k57
  /-- No call: a plain number, or what should be one. -/
  | plain
  /-- A call of a function that is not known. -/
  | foreign (name : String)
deriving DecidableEq, Repr

namespace RateForm

/-- The functions that rate expressions call. -/
def functions : List (String × RateForm) := [
  ("ARR_abc", call .arrheniusAbc), ("ARR", call .arrheniusAbc),
  ("ARR_ab", call .arrheniusAb), ("ARR2", call .arrheniusAb),
  ("ARR_ac", call .arrheniusAc),
  ("TROE", call .troe), ("TROEE", call .troeE),
  ("k45", k45), ("k57", k57)]

/-- The form of a call. -/
def ofName (name : String) : RateForm := (functions.lookup name).getD (foreign name)

/-- Whether a character may stand in the name of a function. -/
def isNameChar (c : Char) : Bool := c.isAlphanum || c == '_'

/-- The name that is called at the beginning of an expression, after blanks and opening
parentheses. -/
def callName? (rate : List Char) : Option String :=
  let text := trimStart ((trim rate).dropWhile (· == '('))
  if text.head?.any Char.isAlpha
      && (trimStart (text.dropWhile isNameChar)).head? == some '(' then
    some (String.ofList (text.takeWhile isNameChar))
  else none

/-- The form of an expression. -/
def of (rate : List Char) (photon : Bool) : RateForm :=
  if photon || marksPhotolysis rate then photolysis
  else match callName? rate with
    | some name => ofName name
    | none => plain

end RateForm

/-! ### Classification -/

/-- The number that a plain rate writes, parentheses aside. -/
def plainRate? (rate : List Char) : Option Float :=
  coefficient? (rate.filter fun c => c ≠ '(' && c ≠ ')')

/-- The classification of a plain rate.  Without products it is a first order loss.  A text that is
no number counts as zero, so that its reaction is kept. -/
def classifyPlain (rate : List Char) (hasProducts : Bool) : Classification Float :=
  match plainRate? rate with
  | some a => .single (if hasProducts then .arrhenius (.constant a) else .firstOrderLoss a)
  | none => .single (.arrhenius (.constant 0.0))

/-- The classification of a rate expression. -/
def classifyExpression (rate : List Char) (photon hasProducts : Bool) : Classification Float :=
  match RateForm.of rate photon with
  | .photolysis => .single .photolysis
  | .call family => family.classify (callCoefficients rate)
  | .k45 => k45
  | .k57 => k57
  | .plain => classifyPlain rate hasProducts
  | .foreign name => .unknown (.foreignCall name)

/-- Whether an expression counts as zero because it is no number. -/
def countsAsZero (rate : List Char) (photon : Bool) : Bool :=
  RateForm.of rate photon == .plain && (plainRate? rate).isNone

/-- The classification of a list of coefficients that stands for itself. -/
def classifyCoefficients (cs : List Float) (photon hasProducts : Bool) : Classification Float :=
  if photon then .single .photolysis
  else match cs with
    | [] => .unknown .noCoefficients
    | [a] =>
      if hasProducts then Family.mozartArrhenius.classify [a] else .single (.firstOrderLoss a)
    | [a, c] => Family.mozartArrhenius.classify [a, c]
    | [k₀, n, kInf, m, fc] => Family.mozartTroe.classify [k₀, n, kInf, m, fc]
    | _ => .unknown (.noLaw cs.length)

end AtmosChem
