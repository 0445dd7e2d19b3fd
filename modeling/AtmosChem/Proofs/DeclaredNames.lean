import Mathlib.Algebra.GroupWithZero.Nat
import Mathlib.Data.List.Nodup
import AtmosChem.Proofs.Outcomes

/-!
# The names that a text declares

Every declaration gives a species: a mechanism has one for each line of KPP, or each entry of
MOZART, that declares a name, whatever has been declared before.  So names that are declared once
are unique and no others are; braces and blanks aside, it does not matter how a name is written or
in which of the two sections.

* `Format.species_append`: species are declared line by line.
* `Format.names_translate`: a mechanism has a name as often as its text declares it.
-/

namespace AtmosChem

/-! ### Declarations line by line -/

namespace Kpp

theorem declarations_append (ls ms : List (List Char)) :
    declarations (ls ++ ms) = declarations ls ++ declarations ms := by
  rw [declarations, List.filter_append, List.map_append]
  rfl

theorem species_append (role : Role) (ls ms : List (List Char)) :
    species role (ls ++ ms) = species role ls ++ species role ms := by
  rw [species, declarations_append, List.map_append, List.filter_append, List.map_append]
  rfl

theorem names_species (role : Role) (lines : List (List Char)) :
    (species role lines).map Species.name = (species .fixed lines).map Species.name := by
  rw [species, List.map_map, species, List.map_map]
  rfl

end Kpp

namespace Mozart

theorem declarations_append (ls ms : List (List Char)) :
    declarations (ls ++ ms) = declarations ls ++ declarations ms := by
  rw [declarations, List.flatMap_append, List.map_append, List.filter_append]
  rfl

theorem species_append (role : Role) (ls ms : List (List Char)) :
    species role (ls ++ ms) = species role ls ++ species role ms := by
  rw [species, declarations_append, List.map_append, List.filter_append, List.map_append]
  rfl

theorem names_species (role : Role) (lines : List (List Char)) :
    (species role lines).map Species.name = (species .fixed lines).map Species.name := by
  rw [species, List.map_map, species, List.map_map]
  rfl

end Mozart

namespace Format

/-- **Species are declared line by line.** -/
theorem species_append (f : Format) (role : Role) (ls ms : List (List Char)) :
    f.species role (ls ++ ms) = f.species role ls ++ f.species role ms := by
  cases f with
  | kpp => exact Kpp.species_append role ls ms
  | mozart => exact Mozart.species_append role ls ms

@[simp] theorem species_nil (f : Format) (role : Role) : f.species role [] = [] := by
  cases f <;> rfl

theorem role_of_mem_species {f : Format} {role : Role} {lines : List (List Char)} {s : Species}
    (h : s ∈ f.species role lines) : s.role = role := by
  cases f with
  | kpp =>
    obtain ⟨name, -, rfl⟩ := List.mem_map.1 h
    rfl
  | mozart =>
    obtain ⟨d, -, rfl⟩ := List.mem_map.1 h
    rfl

/-- The names that a line declares on its own. -/
def namesOn (f : Format) (line : List Char) : List String :=
  (f.species .fixed [line]).map Species.name

theorem names_species (f : Format) (role : Role) (lines : List (List Char)) :
    (f.species role lines).map Species.name = lines.flatMap f.namesOn := by
  have hrole : ∀ ls, (f.species role ls).map Species.name =
      (f.species .fixed ls).map Species.name := by
    intro ls
    cases f with
    | kpp => exact Kpp.names_species role ls
    | mozart => exact Mozart.names_species role ls
  induction lines with
  | nil => rw [species_nil, List.map_nil, List.flatMap_nil]
  | cons line lines ih =>
    rw [← List.singleton_append, species_append, List.map_append, ih, hrole]
    rfl

/-! ### Declarations of a text -/

/-- The lines of the sections of species, fixed ones first. -/
def speciesLines (f : Format) (text : List Char) : List (List Char) :=
  Section.linesUnder f.fixedSection.toList (Section.assign text) ++
    Section.linesUnder f.solvedSection.toList (Section.assign text)

theorem names_declaredSpecies (f : Format) (text : List Char) (tolerance : Float) :
    (f.declaredSpecies text tolerance).map Species.name =
      (f.speciesLines text).flatMap f.namesOn := by
  rw [declaredSpecies, List.map_append, names_species, names_species, speciesLines,
    List.flatMap_append]

/-- **A mechanism has a name as often as its text declares it.**  The species of a mechanism are
named in the order of their declarations, fixed ones first.  They have names of their own if and
only if no line declares a name twice and no two lines declare the same name, be it in one section
or in both. -/
theorem names_translate {f : Format} {text : List Char} {name : String} {tolerance : Float}
    {m : Mechanism} {unknowns : List String}
    (h : (f.translate text name tolerance).outcome = .ok (m, unknowns)) :
    m.species.map Species.name = (f.speciesLines text).flatMap f.namesOn ∧
    (∀ n, (m.species.map Species.name).count n =
      ((f.speciesLines text).map fun line => (f.namesOn line).count n).sum) ∧
    ((m.species.map Species.name).Nodup ↔
      (∀ line ∈ f.speciesLines text, (f.namesOn line).Nodup) ∧
      (f.speciesLines text).Pairwise fun l l' => (f.namesOn l).Disjoint (f.namesOn l')) := by
  obtain ⟨t, -, rfl, -⟩ := exists_of_translate h
  have hnames := f.names_declaredSpecies text tolerance
  refine ⟨hnames, ?_, ?_⟩
  · intro n
    rw [hnames, List.count_flatMap]
    rfl
  · rw [hnames]
    exact List.nodup_flatMap

/-- Ozone is declared on two lines, once in braces. -/
def ozoneTwice : List Char := "#DEFVAR\nO3 = IGNORE ;\n\x7bO3\x7d = IGNORE ;\n".toList

def ozoneTwiceMechanism : Mechanism where
  name := "m"
  species := [⟨"O3", .solved defaultTolerance, none⟩, ⟨"O3", .solved defaultTolerance, none⟩]
  reactions := []

theorem names_translate_ozoneTwice :
    (kpp.translate ozoneTwice "m" defaultTolerance).outcome = .ok (ozoneTwiceMechanism, []) ∧
    (kpp.speciesLines ozoneTwice).map kpp.namesOn = [["O3"], ["O3"]] ∧
    (ozoneTwiceMechanism.species.map Species.name).count "O3" = 2 ∧
    ¬ (ozoneTwiceMechanism.species.map Species.name).Nodup := by
  have h : (kpp.translate ozoneTwice "m" defaultTolerance).outcome =
      .ok (ozoneTwiceMechanism, []) := rfl
  have hlines : (kpp.speciesLines ozoneTwice).map kpp.namesOn = [["O3"], ["O3"]] := by
    decide +kernel
  obtain ⟨-, hcount, hnodup⟩ := names_translate h
  refine ⟨h, hlines, ?_, ?_⟩
  · have hsum := congrArg (fun names => (names.map (List.count "O3")).sum) hlines
    rw [List.map_map] at hsum
    exact (hcount "O3").trans (hsum.trans (by decide))
  · intro hn
    have hpair := (hnodup.1 hn).2
    rw [← List.pairwise_map (R := List.Disjoint), hlines] at hpair
    have hdisjoint := List.rel_of_pairwise_cons hpair List.mem_cons_self
    exact hdisjoint List.mem_cons_self List.mem_cons_self

/-- **Names are not always unique**: a name that is declared twice stands for two species. -/
theorem not_forall_names_nodup :
    ¬ ∀ (f : Format) (text : List Char) (name : String) (tolerance : Float) (m : Mechanism)
      (unknowns : List String),
      (f.translate text name tolerance).outcome = .ok (m, unknowns) →
        (m.species.map Species.name).Nodup := by
  intro h
  have hn := h kpp ozoneTwice "m" defaultTolerance ozoneTwiceMechanism [] rfl
  exact absurd hn (by decide)

end Format

end AtmosChem
