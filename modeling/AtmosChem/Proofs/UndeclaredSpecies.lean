import Mathlib.Data.List.Basic
import Mathlib.Data.List.Induction
import AtmosChem.Mechanism.Basic

/-!
# Species that nobody declares

What reactions use and nobody declares is reported at its first use.  A mechanism grows by species
and by reactions (`Growth`), and the report with it: more reactions only add to its end
(`undeclared_addReactions`), more species only take names out of it (`undeclared_addSpecies`).
After any growth, what has been reported before and is still undeclared stands first.

* `firstUses_append`, `firstUses_append_seen`: more names in a list, and more names seen before it.
* `pairwise_idxOf_firstUses`: first uses stand in the order of the list.
* `undeclared_firstUses`: what is reported of a mechanism, in which order, and how growth changes
  it.
-/

namespace AtmosChem.Mechanism

/-! ### First uses -/

theorem firstUses_cons_of_mem {s : String} {seen : List String} (h : s ∈ seen)
    (names : List String) : firstUses seen (s :: names) = firstUses seen names := by
  rw [firstUses, if_pos h]

theorem firstUses_cons_of_not_mem {s : String} {seen : List String} (h : s ∉ seen)
    (names : List String) :
    firstUses seen (s :: names) = s :: firstUses (s :: seen) names := by
  rw [firstUses, if_neg h]

/-- It does not matter in which order, or how often, names have been seen. -/
theorem firstUses_congr {seen seen' : List String} (h : ∀ s, s ∈ seen ↔ s ∈ seen')
    (names : List String) : firstUses seen names = firstUses seen' names := by
  induction names generalizing seen seen' with
  | nil => rfl
  | cons t names ih =>
    by_cases ht : t ∈ seen
    · rw [firstUses_cons_of_mem ht, firstUses_cons_of_mem ((h t).1 ht), ih h]
    · have ht' : t ∉ seen' := fun hmem => ht ((h t).2 hmem)
      have hcons : ∀ s, s ∈ t :: seen ↔ s ∈ t :: seen' := by
        intro s
        rw [List.mem_cons, List.mem_cons, h s]
      rw [firstUses_cons_of_not_mem ht, firstUses_cons_of_not_mem ht', ih hcons]

/-- **More names in a list** add the first uses among them, all names before them seen. -/
theorem firstUses_append (seen names more : List String) :
    firstUses seen (names ++ more) = firstUses seen names ++ firstUses (names ++ seen) more := by
  induction names generalizing seen with
  | nil => rfl
  | cons t names ih =>
    rw [List.cons_append]
    by_cases ht : t ∈ seen
    · have hseen : ∀ s, s ∈ names ++ seen ↔ s ∈ t :: names ++ seen := by grind
      rw [firstUses_cons_of_mem ht, firstUses_cons_of_mem ht, ih, firstUses_congr hseen]
    · have hseen : ∀ s, s ∈ names ++ t :: seen ↔ s ∈ t :: names ++ seen := by grind
      rw [firstUses_cons_of_not_mem ht, firstUses_cons_of_not_mem ht, ih, firstUses_congr hseen]
      rfl

/-- **More names seen** are taken out of the first uses. -/
theorem firstUses_append_seen (new seen names : List String) :
    firstUses (new ++ seen) names = (firstUses seen names).filter fun s => s ∉ new := by
  induction names generalizing seen with
  | nil => rfl
  | cons t names ih =>
    by_cases ht : t ∈ seen
    · rw [firstUses_cons_of_mem ht, firstUses_cons_of_mem (List.mem_append_right new ht), ih]
    · rw [firstUses_cons_of_not_mem ht]
      by_cases hnew : t ∈ new
      · have hseen : ∀ s, s ∈ new ++ seen ↔ s ∈ new ++ t :: seen := by grind
        rw [firstUses_cons_of_mem (List.mem_append_left seen hnew), firstUses_congr hseen, ih,
          List.filter_cons_of_neg (by simpa using hnew)]
      · have hboth : t ∉ new ++ seen := by simp [hnew, ht]
        have hseen : ∀ s, s ∈ t :: (new ++ seen) ↔ s ∈ new ++ t :: seen := by grind
        rw [firstUses_cons_of_not_mem hboth, firstUses_congr hseen, ih,
          List.filter_cons_of_pos (by simpa using hnew)]

theorem ne_of_mem_firstUses {s u : String} {seen names : List String} (hu : u ∈ seen)
    (hs : s ∈ firstUses seen names) : s ≠ u := by
  rintro rfl
  exact (mem_firstUses.1 hs).2 hu

/-- **First uses stand in the order of the list.** -/
theorem pairwise_idxOf_firstUses (seen names : List String) :
    (firstUses seen names).Pairwise fun s t => names.idxOf s < names.idxOf t := by
  induction names generalizing seen with
  | nil => exact List.Pairwise.nil
  | cons u names ih =>
    -- behind `u`, other names stand one place further on
    have hshift : ∀ {s}, s ≠ u → (u :: names).idxOf s = names.idxOf s + 1 := by
      intro s hs
      exact List.idxOf_cons_ne names (Ne.symm hs)
    have hrest : ∀ {seen' : List String}, u ∈ seen' →
        (firstUses seen' names).Pairwise fun s t =>
          (u :: names).idxOf s < (u :: names).idxOf t := by
      intro seen' hu
      refine (ih seen').imp_of_mem ?_
      intro s t hs ht hlt
      rw [hshift (ne_of_mem_firstUses hu hs), hshift (ne_of_mem_firstUses hu ht)]
      omega
    by_cases hu : u ∈ seen
    · rw [firstUses_cons_of_mem hu]
      exact hrest hu
    · rw [firstUses_cons_of_not_mem hu]
      refine List.Pairwise.cons ?_ (hrest List.mem_cons_self)
      intro s hs
      rw [List.idxOf_cons_self, hshift (ne_of_mem_firstUses List.mem_cons_self hs)]
      omega

/-! ### What is declared and used -/

/-- The names that are declared. -/
def declared (m : Mechanism) : List String := m.species.map Species.name

/-- The names that reactions use, reaction by reaction, the reactants of each before its
products. -/
def used (m : Mechanism) : List String := m.reactions.flatMap usedBy

theorem undeclared_eq (m : Mechanism) : m.undeclared = firstUses m.declared m.used := rfl

theorem mem_used {m : Mechanism} {s : String} :
    s ∈ m.used ↔ ∃ r ∈ m.reactions,
      s ∈ r.stoichiometry.reactants.species ∨ s ∈ r.stoichiometry.products.species := by
  simp only [used, List.mem_flatMap, usedBy, List.mem_append]

theorem mem_declared {m : Mechanism} {s : String} :
    s ∈ m.declared ↔ ∃ d ∈ m.species, d.name = s := List.mem_map

/-- **More species** take their names out of the report. -/
theorem undeclared_addSpecies (m : Mechanism) (ss : List Species) :
    (m.addSpecies ss).undeclared = m.undeclared.filter fun s => s ∉ ss.map Species.name := by
  have hseen : ∀ s, s ∈ (m.addSpecies ss).declared ↔ s ∈ ss.map Species.name ++ m.declared := by
    intro s
    simp only [declared, addSpecies, List.map_append, List.mem_append]
    exact or_comm
  rw [undeclared_eq, undeclared_eq, firstUses_congr hseen, firstUses_append_seen]
  rfl

/-- **More reactions** add to the end of the report what they use first. -/
theorem undeclared_addReactions (m : Mechanism) (rs : List Reaction) :
    (m.addReactions rs).undeclared =
      m.undeclared ++ firstUses (m.used ++ m.declared) (rs.flatMap usedBy) := by
  have hused : (m.addReactions rs).used = m.used ++ rs.flatMap usedBy := List.flatMap_append
  rw [undeclared_eq, undeclared_eq, hused, ← firstUses_append]
  rfl

/-! ### Growth -/

/-- What is added to a mechanism at once. -/
inductive Growth
  | species (ss : List Species)
  | reactions (rs : List Reaction)

namespace Growth

/-- The names that are declared by what is added. -/
def declared : Growth → List String
  | species ss => ss.map Species.name
  | reactions _ => []

end Growth

/-- A mechanism after one addition. -/
def grow (m : Mechanism) : Growth → Mechanism
  | .species ss => m.addSpecies ss
  | .reactions rs => m.addReactions rs

/-- A mechanism after some additions. -/
def grown (m : Mechanism) (gs : List Growth) : Mechanism := gs.foldl grow m

@[simp] theorem grown_nil (m : Mechanism) : m.grown [] = m := rfl

@[simp] theorem grown_concat (m : Mechanism) (gs : List Growth) (g : Growth) :
    m.grown (gs ++ [g]) = (m.grown gs).grow g := by
  rw [grown, List.foldl_concat, grown]

theorem used_subset_grow (m : Mechanism) (g : Growth) : m.used ⊆ (m.grow g).used := by
  intro s hs
  cases g with
  | species ss => exact hs
  | reactions rs =>
    show s ∈ (m.reactions ++ rs).flatMap usedBy
    rw [List.flatMap_append]
    exact List.mem_append_left _ hs

theorem used_subset_grown (m : Mechanism) (gs : List Growth) : m.used ⊆ (m.grown gs).used := by
  induction gs using List.reverseRecOn with
  | nil => exact List.Subset.refl _
  | append_singleton gs g ih =>
    rw [grown_concat]
    exact List.Subset.trans ih (used_subset_grow _ g)

/-- **One addition** keeps what is still undeclared, in its order, and appends names that have not
been used before. -/
theorem undeclared_grow (m : Mechanism) (g : Growth) :
    ∃ new, (m.grow g).undeclared = (m.undeclared.filter fun s => s ∉ g.declared) ++ new ∧
      ∀ s ∈ new, s ∉ m.used := by
  cases g with
  | species ss => exact ⟨[], by rw [List.append_nil]; exact undeclared_addSpecies m ss, nofun⟩
  | reactions rs =>
    refine ⟨firstUses (m.used ++ m.declared) (rs.flatMap usedBy), ?_, ?_⟩
    · have hall : (m.undeclared.filter fun s => s ∉ Growth.declared (.reactions rs)) =
          m.undeclared := by
        rw [List.filter_eq_self]
        simp [Growth.declared]
      rw [hall]
      exact undeclared_addReactions m rs
    · intro s hs hused
      exact (mem_firstUses.1 hs).2 (List.mem_append_left _ hused)

/-- **All additions together** do the same. -/
theorem undeclared_grown (m : Mechanism) (gs : List Growth) :
    ∃ new, (m.grown gs).undeclared =
        (m.undeclared.filter fun s => s ∉ gs.flatMap Growth.declared) ++ new ∧
      ∀ s ∈ new, s ∉ m.used := by
  induction gs using List.reverseRecOn with
  | nil =>
    refine ⟨[], ?_, nofun⟩
    rw [grown_nil, List.append_nil, eq_comm, List.filter_eq_self]
    simp
  | append_singleton gs g ih =>
    obtain ⟨new, hnew, hunused⟩ := ih
    obtain ⟨new', hnew', hunused'⟩ := undeclared_grow (m.grown gs) g
    refine ⟨(new.filter fun s => s ∉ g.declared) ++ new', ?_, ?_⟩
    · rw [grown_concat, hnew', hnew, List.filter_append, List.filter_filter, List.append_assoc]
      congr 2
      funext s
      simp [List.flatMap_append, and_comm]
    · intro s hs
      rcases List.mem_append.1 hs with hs | hs
      · exact hunused s (List.mem_filter.1 hs).1
      · exact fun hused => hunused' s hs (used_subset_grown m gs hused)

/-- **The report of undeclared species.**  It lists the names that some reaction uses on one of its
sides and that no species has, each of them once and in the order of their first uses.  While a
mechanism grows, reactions only append to the report and species only take their names out of it;
after any growth, what was reported before and has not been declared since stands first in the
order it had, and behind it stand only names that no reaction had used before. -/
theorem undeclared_firstUses (m : Mechanism) :
    (∀ s, s ∈ m.undeclared ↔
      (∃ r ∈ m.reactions,
        s ∈ r.stoichiometry.reactants.species ∨ s ∈ r.stoichiometry.products.species) ∧
      ∀ d ∈ m.species, d.name ≠ s) ∧
    m.undeclared.Nodup ∧
    m.undeclared.Pairwise (fun s t => m.used.idxOf s < m.used.idxOf t) ∧
    (∀ gs rs, (m.grown gs).undeclared <+: (m.grown (gs ++ [.reactions rs])).undeclared) ∧
    (∀ gs ss, (m.grown (gs ++ [.species ss])).undeclared =
      (m.grown gs).undeclared.filter fun s => s ∉ ss.map Species.name) ∧
    ∀ gs, ∃ new, (m.grown gs).undeclared =
        (m.undeclared.filter fun s => s ∉ gs.flatMap Growth.declared) ++ new ∧
      ∀ s ∈ new, s ∉ m.used := by
  refine ⟨?_, nodup_firstUses _ _, pairwise_idxOf_firstUses _ _, ?_, ?_, m.undeclared_grown⟩
  · intro s
    rw [undeclared_eq, mem_firstUses, mem_used, mem_declared]
    simp only [not_exists, not_and, ne_eq]
  · intro gs rs
    rw [grown_concat]
    show _ <+: ((m.grown gs).addReactions rs).undeclared
    rw [undeclared_addReactions]
    exact List.prefix_append _ _
  · intro gs ss
    rw [grown_concat]
    exact undeclared_addSpecies _ ss

/-- Ozone is declared, and reacts with a species that is not. -/
def titration : Mechanism where
  name := "titration"
  species := [⟨"O3", .fixed, none⟩]
  reactions := [⟨"R1", .photolysis, ⟨[("NO", 1.0), ("O3", 1.0)], [("NO2", 1.0), ("O2", 1.0)]⟩⟩]

/-- Two species more, one of which has been reported, and then a reaction with a new one. -/
def titrationGrowth : List Growth := [
  .species [⟨"M", .fixed, none⟩, ⟨"NO2", .fixed, none⟩],
  .reactions [⟨"R2", .photolysis, ⟨[("NO2", 1.0)], [("NO", 1.0), ("O", 1.0)]⟩⟩]]

theorem undeclared_firstUses_titration :
    titration.undeclared = ["NO", "NO2", "O2"] ∧
    (titration.grown titrationGrowth).undeclared = ["NO", "O2", "O"] ∧
    "O3" ∉ titration.undeclared ∧
    ∃ new, (titration.grown titrationGrowth).undeclared =
        (titration.undeclared.filter fun s => s ∉ titrationGrowth.flatMap Growth.declared) ++ new ∧
      ∀ s ∈ new, s ∉ titration.used := by
  obtain ⟨hmem, -, -, -, -, hgrown⟩ := undeclared_firstUses titration
  refine ⟨by decide +kernel, by decide +kernel, ?_, hgrown titrationGrowth⟩
  intro h
  exact ((hmem "O3").1 h).2 ⟨"O3", .fixed, none⟩ List.mem_cons_self rfl

end AtmosChem.Mechanism
