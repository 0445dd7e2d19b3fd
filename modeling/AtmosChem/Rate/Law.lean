/-!
# Rate laws

The rate laws that a MICM configuration knows.  With the temperature `T`, the pressure `P` and the
density of air `M` they give the rate constants

* Arrhenius: `A * exp (C / T) * (T / D) ^ B * (1 + E * P)`;
* Troe: `k₀ M / (1 + k₀ M / k∞) * Fc ^ (N / (N + log₁₀ (k₀ M / k∞) ^ 2))`, where each of the limits
  `k₀` and `k∞` is `A * exp (C / T) * (T / 300) ^ B`;
* ternary chemical activation: the parameters of Troe with the pressure dependence reversed;
* first order loss: a constant;
* photolysis: a rate that is given from outside.

The laws are generic in the type of their parameters.  The program has them over `Float`; what they
mean can be said over the reals.
-/

namespace AtmosChem

/-- The parameters of an Arrhenius law: `factor * exp (activation / T) * (T / reference) ^ power *
(1 + pressure * P)`. -/
structure Arrhenius (α : Type) where
  factor : α
  power : α
  activation : α
  reference : α
  pressure : α
deriving Repr, BEq

/-- A limit of a falloff law: `factor * exp (activation / T) * (T / 300) ^ power`. -/
structure Limit (α : Type) where
  factor : α
  power : α
  activation : α
deriving Repr, BEq

/-- The parameters of a falloff between a limit at low pressure and one at high pressure. -/
structure Falloff (α : Type) where
  low : Limit α
  high : Limit α
  broadening : α
  width : α
deriving Repr, BEq

/-- The rate law of a reaction. -/
inductive RateLaw (α : Type)
  | arrhenius (p : Arrhenius α)
  | troe (p : Falloff α)
  | ternaryChemicalActivation (p : Falloff α)
  | photolysis
  | firstOrderLoss (factor : α)
deriving Repr, BEq

/-! ### Defaults -/

variable {α : Type} [OfScientific α]

/-- The Arrhenius law of a constant: every parameter but the factor at its default. -/
def Arrhenius.constant (factor : α) : Arrhenius α :=
  { factor, power := 0.0, activation := 0.0, reference := 300.0, pressure := 0.0 }

/-- The Arrhenius law whose parameters are all at their defaults. -/
def Arrhenius.standard : Arrhenius α := .constant 1.0

/-- The limit whose parameters are all at their defaults. -/
def Limit.standard : Limit α := { factor := 1.0, power := 0.0, activation := 0.0 }

/-- The falloff with the given limits and the broadening factor and width of most reactions. -/
def Falloff.between (low high : Limit α) : Falloff α :=
  { low, high, broadening := 0.6, width := 1.0 }

/-- The falloff whose parameters are all at their defaults. -/
def Falloff.standard : Falloff α := .between .standard .standard

/-! ### Kinds -/

/-- The kinds of rate law, with one more for rates that are none. -/
inductive RateKind
  | arrhenius
  | troe
  | ternaryChemicalActivation
  | photolysis
  | firstOrderLoss
  | unknown
deriving DecidableEq, Repr

/-- The name of a kind in documents and tables. -/
def RateKind.tag : RateKind → String
  | .arrhenius => "ARRHENIUS"
  | .troe => "TROE"
  | .ternaryChemicalActivation => "TERNARY_CHEMICAL_ACTIVATION"
  | .photolysis => "PHOTOLYSIS"
  | .firstOrderLoss => "FIRST_ORDER_LOSS"
  | .unknown => "UNKNOWN"

/-- The kinds that a rate law can have, in their usual order. -/
def RateKind.ofLaws : List RateKind :=
  [.arrhenius, .troe, .ternaryChemicalActivation, .photolysis, .firstOrderLoss]

/-- All kinds. -/
def RateKind.all : List RateKind := RateKind.ofLaws ++ [.unknown]

/-- The kind of a rate law. -/
def RateLaw.kind {α : Type} : RateLaw α → RateKind
  | .arrhenius _ => .arrhenius
  | .troe _ => .troe
  | .ternaryChemicalActivation _ => .ternaryChemicalActivation
  | .photolysis => .photolysis
  | .firstOrderLoss _ => .firstOrderLoss

end AtmosChem
