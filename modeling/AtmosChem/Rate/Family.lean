import AtmosChem.Rate.Law

/-!
# Families of source rates

A mechanism gives a rate as a family and a list of coefficients.  Each family has its own order of
coefficients and its own signs, and `Family.law?` is the table that turns them into a rate law.

KPP writes an Arrhenius rate as `A₀ * exp (-B₀ / T) * (T / 300) ^ C₀`, so the last two coefficients
change places and one changes its sign.  Both formats scale the limits of a falloff by
`(300 / T) ^ n`, so the powers change their signs.

* `Family.law?`: the law of a list of coefficients, if there are as many as the family takes.
* `Classification`: what a rate turns out to be: one law, two laws whose sum it is, or none.
* `Family.classify`: the classification of a list of coefficients.
* `k45`, `k57`: the two rates of RACM that are sums of two laws with fixed constants.
-/

namespace AtmosChem

/-- The families of rates that are given by a list of coefficients. -/
inductive Family
  | arrheniusAbc
  | arrheniusAb
  | arrheniusAc
  | mozartArrhenius
  | troe
  | troeE
  | mozartTroe
deriving DecidableEq, Repr

namespace Family

/-- The name of a family in messages. -/
def label : Family → String
  | arrheniusAbc => "ARR_abc"
  | arrheniusAb => "ARR_ab"
  | arrheniusAc => "ARR_ac"
  | mozartArrhenius => "MOZART Arrhenius"
  | troe => "TROE"
  | troeE => "TROEE"
  | mozartTroe => "MOZART Troe"

/-- How many coefficients a family takes.  Some families take other numbers as well. -/
def arity : Family → Nat
  | arrheniusAbc => 3
  | arrheniusAb => 2
  | arrheniusAc => 2
  | mozartArrhenius => 2
  | troe => 4
  | troeE => 6
  | mozartTroe => 5

variable {α : Type} [Neg α] [Mul α] [OfScientific α]

/-- The falloff of KPP: limits at 300 K with the powers of `300 / T`. -/
def troeLaw (k₀ n kInf m : α) : RateLaw α :=
  .troe (.between
    { factor := k₀, power := -n, activation := 0.0 }
    { factor := kInf, power := -m, activation := 0.0 })

/-- The falloff of KPP with a factor `a * exp (-b / T)` in front, taken into the low limit. -/
def troeELaw (a b k₀ n kInf m : α) : RateLaw α :=
  .troe (.between
    { factor := a * k₀, power := -n, activation := -b }
    { factor := kInf, power := -m, activation := 0.0 })

/-- The law of a list of coefficients.  A falloff may be followed by a temperature and a density,
which are left out of account. -/
def law? : Family → List α → Option (RateLaw α)
  | arrheniusAbc, [a, b, c] =>
    some (.arrhenius { Arrhenius.constant a with power := c, activation := -b })
  | arrheniusAb, [a, b] => some (.arrhenius { Arrhenius.constant a with activation := -b })
  | arrheniusAc, [a, c] => some (.arrhenius { Arrhenius.constant a with power := c })
  | mozartArrhenius, [a] => some (.arrhenius (.constant a))
  | mozartArrhenius, [a, c] => some (.arrhenius { Arrhenius.constant a with activation := c })
  | troe, [k₀, n, kInf, m] => some (troeLaw k₀ n kInf m)
  | troe, [k₀, n, kInf, m, _, _] => some (troeLaw k₀ n kInf m)
  | troeE, [a, b, k₀, n, kInf, m] => some (troeELaw a b k₀ n kInf m)
  | troeE, [a, b, k₀, n, kInf, m, _, _] => some (troeELaw a b k₀ n kInf m)
  | mozartTroe, [k₀, n, kInf, m, fc] =>
    some (.troe {
      low := { factor := k₀, power := -n, activation := 0.0 }
      high := { factor := kInf, power := -m, activation := 0.0 }
      broadening := fc
      width := 1.0 })
  | _, _ => none

end Family

/-! ### Classifications -/

/-- Why a rate is none of the known laws. -/
inductive Rejection
  /-- A family with a wrong number of coefficients. -/
  | wrongCount (family : Family) (found : Nat)
  /-- A call of a function that is not known. -/
  | foreignCall (name : String)
  /-- No coefficients at all. -/
  | noCoefficients
  /-- A number of coefficients that no law has. -/
  | noLaw (count : Nat)
deriving DecidableEq, Repr

/-- A rejection in words. -/
def Rejection.message : Rejection → String
  | .wrongCount family found =>
    family.label ++ " expects " ++ toString family.arity ++ " numeric coefficients, found "
      ++ toString found
  | .foreignCall name => "unrecognized rate law '" ++ name ++ "'"
  | .noCoefficients => "no rate coefficients (user defined rate)"
  | .noLaw count => toString count ++ " rate coefficients match no rate law"

/-- What a rate turns out to be. -/
inductive Classification (α : Type)
  | single (law : RateLaw α)
  /-- A rate that is the sum of two laws. -/
  | pair (first second : RateLaw α)
  | unknown (reason : Rejection)
deriving Repr

namespace Classification

variable {α : Type}

/-- The kind of the first law. -/
def kind : Classification α → RateKind
  | single law => law.kind
  | pair first _ => first.kind
  | unknown _ => .unknown

/-- The laws of a classification. -/
def laws : Classification α → List (RateLaw α)
  | single law => [law]
  | pair first second => [first, second]
  | unknown _ => []

end Classification

section

variable {α : Type} [Neg α] [Mul α] [OfScientific α]

/-- The classification of a list of coefficients within a family. -/
def Family.classify (family : Family) (coefficients : List α) : Classification α :=
  match family.law? coefficients with
  | some law => .single law
  | none => .unknown (.wrongCount family coefficients.length)

/-! ### Sums of two laws -/

/-- `k₀ + k₃ / (1 + k₃ / k₂)` with `k₀ = 2.4e-14 * exp (460 / T)`, `k₂ = 2.7e-17 * exp (2199 / T)`
and `k₃ = 6.5e-34 * exp (1335 / T) * M`.  The second term is a falloff without broadening. -/
def k45 : Classification α :=
  .pair
    (.arrhenius { Arrhenius.constant 2.4e-14 with activation := 460.0 })
    (.troe {
      low := { factor := 6.5e-34, power := 0.0, activation := 1335.0 }
      high := { factor := 2.7e-17, power := 0.0, activation := 2199.0 }
      broadening := 1.0
      width := 0.0 })

/-- A falloff and a ternary chemical activation. -/
def k57 : Classification α :=
  .pair
    (.troe (.between
      { factor := 5.9e-33, power := -1.4, activation := 0.0 }
      { factor := 1.1e-12, power := 1.3, activation := 0.0 }))
    (.ternaryChemicalActivation (.between
      { factor := 1.5e-13, power := 0.6, activation := 0.0 }
      { factor := 2.9e9, power := 6.1, activation := 0.0 }))

end

end AtmosChem
