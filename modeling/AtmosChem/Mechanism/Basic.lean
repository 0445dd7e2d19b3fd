import AtmosChem.Equation.Basic
import AtmosChem.Species.Basic

/-!
# Mechanisms

A mechanism is a name, a list of species and a list of reactions.  Nothing forces the reactions to
use declared species only, or to have names of their own; two reports tell where they do not.

* `Mechanism`
* `Mechanism.undeclared`: the species that reactions use and nobody declares, by first use.
* `Mechanism.repeatedNames`: the names of several reactions, by second use.
-/

namespace AtmosChem

/-- A mechanism. -/
structure Mechanism where
  name : String
  species : List Species
  reactions : List Reaction

namespace Mechanism

/-- A mechanism without species and reactions. -/
def empty (name : String) : Mechanism := ⟨name, [], []⟩

/-- More species. -/
def addSpecies (m : Mechanism) (species : List Species) : Mechanism :=
  { m with species := m.species ++ species }

/-- More reactions. -/
def addReactions (m : Mechanism) (reactions : List Reaction) : Mechanism :=
  { m with reactions := m.reactions ++ reactions }

/-! ### Reports -/

/-- The species that a reaction uses, reactants first. -/
def usedBy (r : Reaction) : List String :=
  r.stoichiometry.reactants.species ++ r.stoichiometry.products.species

/-- The names in a list, each at its first place only, without those that have been seen. -/
def firstUses (seen : List String) : List String → List String
  | [] => []
  | s :: rest => if s ∈ seen then firstUses seen rest else s :: firstUses (s :: seen) rest

/-- **A first use is a name that has not been seen.** -/
theorem mem_firstUses {s : String} {seen names : List String} :
    s ∈ firstUses seen names ↔ s ∈ names ∧ s ∉ seen := by
  induction names generalizing seen with
  | nil => simp [firstUses]
  | cons t names ih =>
    by_cases ht : t ∈ seen
    · rw [firstUses, if_pos ht, ih, List.mem_cons]
      constructor
      · rintro ⟨h, h'⟩
        exact ⟨.inr h, h'⟩
      · rintro ⟨rfl | h, h'⟩
        · exact absurd ht h'
        · exact ⟨h, h'⟩
    · rw [firstUses, if_neg ht, List.mem_cons, ih, List.mem_cons, List.mem_cons]
      by_cases hs : s = t
      · simp [hs, ht]
      · simp [hs]

theorem nodup_firstUses (seen names : List String) : (firstUses seen names).Nodup := by
  induction names generalizing seen with
  | nil => simp [firstUses]
  | cons t names ih =>
    rw [firstUses]
    split
    · exact ih seen
    · exact List.nodup_cons.2 ⟨fun h => (mem_firstUses.1 h).2 (by simp), ih (t :: seen)⟩

/-- The species that reactions use and nobody declares, in order of first use. -/
def undeclared (m : Mechanism) : List String :=
  firstUses (m.species.map Species.name) (m.reactions.flatMap usedBy)

/-- The names in a list at their second places, given the names that have been seen and those that
have been reported. -/
def secondUses (seen reported : List String) : List String → List String
  | [] => []
  | s :: rest =>
    if s ∈ seen then
      if s ∈ reported then secondUses seen reported rest
      else s :: secondUses seen (s :: reported) rest
    else secondUses (s :: seen) reported rest

/-- The names that several reactions have, in order of their second reaction. -/
def repeatedNames (m : Mechanism) : List String :=
  secondUses [] [] (m.reactions.map Reaction.name)

example : secondUses [] [] ["a", "b", "b", "a", "b"] = ["b", "a"] := by decide

example : firstUses ["a"] ["b", "a", "c", "b"] = ["b", "c"] := by decide

/-- The notices about a mechanism and the labels of the equations that are not in it. -/
def notices (m : Mechanism) (unknowns : List String) : List Notice :=
  (if m.undeclared = [] then [] else [.undeclared m.undeclared])
    ++ m.repeatedNames.map .repeatedName
    ++ (if unknowns = [] then [] else [.untranslated unknowns.length])

end Mechanism

end AtmosChem
