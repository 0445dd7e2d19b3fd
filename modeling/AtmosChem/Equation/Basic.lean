import AtmosChem.Equation.Stoichiometry

/-!
# Equations and what becomes of them

Both source formats write equations: a label, two sides and a rate.  An **equation** here is one
that has been read, its rate classified.  It becomes one reaction, two reactions with the same sides
if its rate is a sum of two laws, or none if its rate is unknown; then its label is kept instead.

* `Equation`, `Reaction`, `Translation`
* `Equation.translation`: what becomes of one equation.
* `Translation.ofEquations`: what becomes of a list of them.  The first that could not be read ends
  the list; the notices of those before it have been given by then.
-/

namespace AtmosChem

open Text

/-- A reaction of a mechanism. -/
structure Reaction where
  name : String
  law : RateLaw Float
  stoichiometry : Stoichiometry

/-- An equation that has been read. -/
structure Equation where
  label : String
  sides : Sides
  rate : Classification Float
  /-- What was odd about the rate. -/
  notices : List Notice

/-- Reactions, and the labels of equations that gave none. -/
structure Translation where
  reactions : List Reaction
  unknowns : List String

namespace Translation

/-- No reactions and no labels. -/
def empty : Translation := ⟨[], []⟩

/-- One translation after the other. -/
def merge (t u : Translation) : Translation :=
  ⟨t.reactions ++ u.reactions, t.unknowns ++ u.unknowns⟩

@[simp] theorem merge_empty (t : Translation) : t.merge empty = t := by
  simp [merge, empty]

@[simp] theorem empty_merge (t : Translation) : empty.merge t = t := by
  simp [merge, empty]

theorem merge_assoc (t u v : Translation) : (t.merge u).merge v = t.merge (u.merge v) := by
  simp [merge]

/-- What a classified rate gives: its laws as reactions, or its label. -/
def ofRate (label : String) (sides : Stoichiometry) : Classification Float → Translation
  | .single law => ⟨[⟨label, law, sides⟩], []⟩
  | .pair first second =>
    ⟨[⟨label ++ "_first_term", first, sides⟩, ⟨label ++ "_second_term", second, sides⟩], []⟩
  | .unknown _ => ⟨[], [label]⟩

end Translation

/-- The notice that a rate is unknown. -/
def Classification.notices (label : String) : Classification Float → List Notice
  | .unknown reason => [.skipped label reason]
  | _ => []

namespace Equation

/-- What becomes of an equation. -/
def translation (e : Equation) : Translation := .ofRate e.label e.sides.stoichiometry e.rate

/-- All notices about an equation. -/
def allNotices (e : Equation) : List Notice := e.notices ++ e.rate.notices e.label

/-- What becomes of an equation, with its notices. -/
def report (e : Equation) : Logged Translation := ⟨e.allNotices, .ok e.translation⟩

end Equation

namespace Translation

/-- What becomes of a list of equations, some of which could not be read. -/
def ofEquations : List (Except Failure Equation) → Logged Translation
  | [] => pure empty
  | .error e :: _ => .ofExcept (.error e)
  | .ok e :: es => do
    let t ← e.report
    let rest ← ofEquations es
    return t.merge rest

/-- **Equations that could all be read** are translated one after the other. -/
theorem outcome_ofEquations_ok (es : List Equation) :
    (ofEquations (es.map .ok)).outcome =
      .ok ((es.map Equation.translation).foldr merge empty) := by
  induction es with
  | nil => rfl
  | cons e es ih =>
    simp only [List.map_cons, ofEquations, Equation.report, Logged.outcome_bind, ih,
      Logged.outcome_pure]
    rfl

end Translation

end AtmosChem
