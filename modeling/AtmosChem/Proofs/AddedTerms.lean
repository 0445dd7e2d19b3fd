import AtmosChem.Proofs.EquationTexts
import AtmosChem.Proofs.UndeclaredSpecies

/-!
# Terms added one by one

The sides of an equation are filled by adding terms, one after the other, each on its side.  The two
sides do not see one another: what stands on a side in the end is what its own terms give
(`Stoichiometry.on_addAll`), whatever has been added on the other side in between.  And what terms
give is said without adding them: each species at its first place, with the sum of its amounts
(`Amounts.nil_addAll`).

* `Addition`, `Stoichiometry.addAll`: a term with its side, and additions one after the other.
* `Stoichiometry.of_read`: the sides of a written equation are filled in this way.
* `Stoichiometry.addAll_accumulates`: what stands on the sides after any additions.
-/

namespace AtmosChem

/-! ### One side -/

namespace Amounts

open Mechanism

/-- **A new species goes to the end**, the others stay where they are. -/
theorem species_addAll (as : Amounts) (ts : List Term) :
    (as.addAll ts).species = as.species ++ firstUses as.species (ts.map Term.species) := by
  induction ts generalizing as with
  | nil => exact (List.append_nil _).symm
  | cons t ts ih =>
    have hstep : as.addAll (t :: ts) = (as.add t.species t.coefficient).addAll ts := rfl
    rw [hstep, ih, species_add, List.map_cons]
    by_cases h : t.species ∈ as.species
    · rw [if_pos h, firstUses_cons_of_mem h]
    · have hseen : ∀ s, s ∈ as.species ++ [t.species] ↔ s ∈ t.species :: as.species := by
        intro s
        rw [List.mem_append, List.mem_singleton, List.mem_cons]
        exact or_comm
      rw [if_neg h, firstUses_cons_of_not_mem h, firstUses_congr hseen, List.append_assoc,
        List.singleton_append]

/-- A side is told by its species and their amounts. -/
theorem eq_map_species {as : Amounts} (h : as.Distinct) {amount : String → Float}
    (hamount : ∀ s ∈ as.species, as.amount? s = some (amount s)) :
    as = as.species.map fun s => (s, amount s) := by
  rw [species, List.map_map]
  refine (List.map_id as).symm.trans (List.map_congr_left ?_)
  rintro ⟨s, x⟩ ha
  have hx : as.amount? s = some x := (mem_iff_amount? h s x).1 ha
  rw [hamount s (List.mem_map_of_mem ha)] at hx
  rw [Function.comp_apply, Option.some.inj hx, id_eq]

/-- **What terms give**: each species at its first place, with the sum of its amounts. -/
theorem nil_addAll (ts : List Term) :
    addAll [] ts =
      (firstUses [] (ts.map Term.species)).map fun s => (s, Term.sum s ts 0.0) := by
  have hspecies : (addAll [] ts).species = firstUses [] (ts.map Term.species) :=
    species_addAll [] ts
  rw [← hspecies]
  refine eq_map_species (distinct_addAll distinct_nil ts) ?_
  intro s hs
  rw [hspecies, mem_firstUses] at hs
  have hcount : Term.count s ts ≠ 0 := by
    obtain ⟨t, ht, rfl⟩ := List.mem_map.1 hs.1
    have hmem : t ∈ ts.filter fun u => u.species = t.species :=
      List.mem_filter.2 ⟨ht, decide_eq_true rfl⟩
    exact Nat.ne_of_gt (List.length_pos_of_mem hmem)
  rw [amount?_addAll, if_neg hcount]
  rfl

end Amounts

/-! ### Both sides -/

/-- A side of an equation. -/
inductive Side
  | reactants
  | products
deriving DecidableEq, Repr

/-- A term with the side that it is added on. -/
structure Addition where
  side : Side
  term : Term

/-- The terms that are added on a side. -/
def termsOn (side : Side) (as : List Addition) : List Term :=
  (as.filter fun a => a.side = side).map Addition.term

theorem termsOn_cons (side : Side) (a : Addition) (as : List Addition) :
    termsOn side (a :: as) =
      if a.side = side then a.term :: termsOn side as else termsOn side as := by
  rw [termsOn, termsOn, List.filter_cons]
  by_cases h : a.side = side <;> simp [h]

theorem termsOn_append (side : Side) (as bs : List Addition) :
    termsOn side (as ++ bs) = termsOn side as ++ termsOn side bs := by
  rw [termsOn, List.filter_append, List.map_append, termsOn, termsOn]

/-- Terms that are all added on one side. -/
theorem termsOn_map (side other : Side) (ts : List Term) :
    termsOn side (ts.map fun t => ⟨other, t⟩) = if other = side then ts else [] := by
  induction ts with
  | nil => exact (ite_self []).symm
  | cons t ts ih =>
    rw [List.map_cons, termsOn_cons, ih]
    by_cases h : other = side <;> simp [h]

theorem mem_termsOn {side : Side} {t : Term} {as : List Addition} :
    t ∈ termsOn side as ↔ ⟨side, t⟩ ∈ as := by
  rw [termsOn, List.mem_map]
  constructor
  · rintro ⟨⟨other, u⟩, ha, rfl⟩
    obtain ⟨hmem, hside⟩ := List.mem_filter.1 ha
    rwa [← of_decide_eq_true hside]
  · intro ha
    exact ⟨⟨side, t⟩, List.mem_filter.2 ⟨ha, decide_eq_true rfl⟩, rfl⟩

namespace Stoichiometry

/-- What stands on a side. -/
def on (s : Stoichiometry) : Side → Amounts
  | .reactants => s.reactants
  | .products => s.products

/-- One more term on its side. -/
def add (s : Stoichiometry) (a : Addition) : Stoichiometry :=
  match a.side with
  | .reactants => s.addReactant a.term.species a.term.coefficient
  | .products => s.addProduct a.term.species a.term.coefficient

/-- Terms added one after the other, each on its side. -/
def addAll (s : Stoichiometry) (as : List Addition) : Stoichiometry := as.foldl add s

theorem eq_of_on {s t : Stoichiometry} (h : ∀ side, s.on side = t.on side) : s = t := by
  obtain ⟨rs, ps⟩ := s
  obtain ⟨rs', ps'⟩ := t
  have hr : rs = rs' := h .reactants
  have hp : ps = ps' := h .products
  rw [hr, hp]

/-- **One addition** is seen on its own side only. -/
theorem on_add (s : Stoichiometry) (a : Addition) (side : Side) :
    (s.add a).on side =
      if a.side = side then (s.on side).add a.term.species a.term.coefficient else s.on side := by
  rw [add]
  cases a.side <;> cases side <;> rfl

/-- **All additions together** are those of each side. -/
theorem on_addAll (s : Stoichiometry) (as : List Addition) (side : Side) :
    (s.addAll as).on side = (s.on side).addAll (termsOn side as) := by
  induction as generalizing s with
  | nil => rfl
  | cons a as ih =>
    have hstep : s.addAll (a :: as) = (s.add a).addAll as := rfl
    rw [hstep, ih, on_add, termsOn_cons]
    by_cases h : a.side = side
    · rw [if_pos h, if_pos h]
      rfl
    · rw [if_neg h, if_neg h]

/-- **The sides of a written equation** are filled in this way: the reactants that are no photons
first, then the products. -/
theorem of_read {reactants products : List Char} {s : Sides}
    (h : Sides.read reactants products = .ok s) :
    s.stoichiometry = empty.addAll
      ((Term.readAll ((termTexts reactants).filter fun t => !isPhoton t)).map (⟨.reactants, ·⟩) ++
        (Term.readAll (termTexts products)).map (⟨.products, ·⟩)) := by
  rw [Sides.eq_of_read h]
  refine eq_of_on fun side => ?_
  rw [on_addAll, termsOn_append, termsOn_map, termsOn_map]
  cases side with
  | reactants => simp [on, empty]
  | products => simp [on, empty]

theorem hasProducts_iff {s : Stoichiometry} :
    s.hasProducts = true ↔ ∃ name, name ∈ (s.on .products).species := by
  rw [hasProducts, on, Amounts.species]
  cases s.products with
  | nil => simp
  | cons a as => simp

/-! ### Any additions -/

/-- The species that are added on a side, one addition after the other. -/
def namesOn (side : Side) (as : List Addition) : List String := (termsOn side as).map Term.species

theorem species_on_empty_addAll (as : List Addition) (side : Side) :
    ((empty.addAll as).on side).species = Mechanism.firstUses [] (namesOn side as) := by
  rw [on_addAll]
  cases side <;> exact Amounts.species_addAll [] _

theorem on_empty_addAll (as : List Addition) (side : Side) :
    (empty.addAll as).on side = ((empty.addAll as).on side).species.map fun s =>
      (s, Term.sum s (termsOn side as) 0.0) := by
  rw [species_on_empty_addAll, on_addAll]
  cases side <;> exact Amounts.nil_addAll _

/-- **Amounts add up on each side.**  After any additions to nothing, the species of a side are the
distinct ones that have been added there, in the order of their first additions, and each has the
sum of the amounts that have been added for it there, from the left and from zero on.  There are
products exactly if one has been added.  And only the additions of each side count, in their order:
however those of the two sides alternate, the sides are the same. -/
theorem addAll_accumulates (as : List Addition) :
    (∀ side,
      ((empty.addAll as).on side).species.Nodup ∧
      (∀ s, s ∈ ((empty.addAll as).on side).species ↔
        ∃ t, ⟨side, t⟩ ∈ as ∧ t.species = s) ∧
      ((empty.addAll as).on side).species.Pairwise (fun s u =>
        (namesOn side as).idxOf s < (namesOn side as).idxOf u) ∧
      (empty.addAll as).on side = ((empty.addAll as).on side).species.map fun s =>
        (s, ((termsOn side as).filter fun t => t.species = s).foldl
          (fun x t => x + t.coefficient) 0.0)) ∧
    ((empty.addAll as).hasProducts = true ↔ ∃ t, ⟨.products, t⟩ ∈ as) ∧
    ∀ bs, (∀ side, termsOn side bs = termsOn side as) → empty.addAll bs = empty.addAll as := by
  have hmem : ∀ side s, s ∈ ((empty.addAll as).on side).species ↔
      ∃ t, ⟨side, t⟩ ∈ as ∧ t.species = s := by
    intro side s
    rw [species_on_empty_addAll, Mechanism.mem_firstUses, namesOn, List.mem_map]
    simp only [mem_termsOn, List.not_mem_nil, not_false_eq_true, and_true]
  refine ⟨fun side => ⟨?_, hmem side, ?_, ?_⟩, ?_, ?_⟩
  · rw [species_on_empty_addAll]
    exact Mechanism.nodup_firstUses _ _
  · rw [species_on_empty_addAll]
    exact Mechanism.pairwise_idxOf_firstUses _ _
  · have hsum := on_empty_addAll as side
    simp only [Term.sum, List.foldl_map] at hsum
    exact hsum
  · rw [hasProducts_iff]
    constructor
    · rintro ⟨s, hs⟩
      obtain ⟨t, ht, -⟩ := (hmem .products s).1 hs
      exact ⟨t, ht⟩
    · rintro ⟨t, ht⟩
      exact ⟨t.species, (hmem .products t.species).2 ⟨t, ht, rfl⟩⟩
  · intro bs h
    refine eq_of_on fun side => ?_
    rw [on_addAll, on_addAll, h side]

/-- The terms of an equation whose first reactant is written twice. -/
def hydroxylTwice : List Addition := [
  ⟨.reactants, ⟨1.0, "OH"⟩⟩, ⟨.products, ⟨0.5, "O"⟩⟩, ⟨.reactants, ⟨1.0, "NO"⟩⟩,
  ⟨.products, ⟨1.0, "HONO"⟩⟩, ⟨.reactants, ⟨1.0, "OH"⟩⟩]

/-- The same terms in another order, the products first. -/
def hydroxylReordered : List Addition := [
  ⟨.products, ⟨0.5, "O"⟩⟩, ⟨.products, ⟨1.0, "HONO"⟩⟩, ⟨.reactants, ⟨1.0, "OH"⟩⟩,
  ⟨.reactants, ⟨1.0, "NO"⟩⟩, ⟨.reactants, ⟨1.0, "OH"⟩⟩]

theorem addAll_accumulates_hydroxylTwice :
    (∀ side, termsOn side hydroxylReordered = termsOn side hydroxylTwice) ∧
    empty.addAll hydroxylReordered = empty.addAll hydroxylTwice ∧
    (empty.addAll hydroxylTwice).reactants =
      [("OH", 0.0 + 1.0 + 1.0), ("NO", 0.0 + 1.0)] ∧
    (empty.addAll hydroxylTwice).hasProducts = true := by
  have hterms : ∀ side, termsOn side hydroxylReordered = termsOn side hydroxylTwice := by
    intro side
    cases side <;> rfl
  obtain ⟨-, hproducts, hsame⟩ := addAll_accumulates hydroxylTwice
  refine ⟨hterms, hsame hydroxylReordered hterms, ?_, ?_⟩
  · rfl
  · exact hproducts.2 ⟨⟨0.5, "O"⟩, by simp [hydroxylTwice]⟩

end Stoichiometry

end AtmosChem
