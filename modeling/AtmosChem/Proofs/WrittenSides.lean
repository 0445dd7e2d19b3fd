import AtmosChem.Proofs.WrittenTerms

/-!
# Sides as they are written

A side of an equation is written as terms with plus signs between them.

* `side`, `termTexts_side`: the text of a side, and its terms.
* `Stoichiometry.ofTerms`, `read_sides`: what the terms of two sides add up to is what is read.
-/

namespace AtmosChem

open Text

/-! ### The text of a side -/

/-- The text of a side: its terms with plus signs between them. -/
def side (ts : List WrittenTerm) : List Char := ['+'].intercalate (ts.map WrittenTerm.text)

@[simp] theorem side_nil : side [] = [] := rfl

@[simp] theorem side_singleton (t : WrittenTerm) : side [t] = t.text := List.intercalate_singleton

theorem side_cons_cons (t u : WrittenTerm) (ts : List WrittenTerm) :
    side (t :: u :: ts) = t.text ++ '+' :: side (u :: ts) := by
  simp [side, List.intercalate_cons_cons]

theorem exists_side_cons (t : WrittenTerm) (ts : List WrittenTerm) :
    ∃ rest, side (t :: ts) = t.text ++ rest := by
  cases ts with
  | nil => exact ⟨[], by rw [side_singleton, List.append_nil]⟩
  | cons u ts => exact ⟨_, side_cons_cons t u ts⟩

theorem not_mem_side {c : Char} {ts : List WrittenTerm} (hc : c ≠ '+')
    (h : ∀ t ∈ ts, c ∉ t.text) : c ∉ side ts := by
  refine not_mem_intercalate (by simpa using hc) ?_
  intro s hs
  obtain ⟨t, ht, rfl⟩ := List.mem_map.1 hs
  exact h t ht

/-- **The terms of a side are found.** -/
theorem termTexts_side (ts : List WrittenTerm) :
    termTexts (side ts) = ts.map WrittenTerm.body := by
  have hone (t : WrittenTerm) : termTexts t.text = [t.body] := by
    rw [termTexts_of_not_mem t.plus_not_mem_text, t.strip_text, if_neg t.body_ne_nil]
  simp only [side, termTexts_intercalate, List.flatMap_map, hone]
  exact List.map_eq_flatMap.symm

/-! ### What the sides add up to -/

theorem Amounts.add_ne_nil (s : String) (x : Float) (as : Amounts) : Amounts.add s x as ≠ [] := by
  cases as with
  | nil => exact List.cons_ne_nil _ _
  | cons a as =>
    obtain ⟨t, y⟩ := a
    rw [Amounts.add]
    split <;> exact List.cons_ne_nil _ _

theorem addTerms_map_body (as : Amounts) (ts : List WrittenTerm) :
    Amounts.addTerms as (ts.map WrittenTerm.body) =
      .ok (ts.foldl (fun as t => as.add t.name t.value) as) := by
  induction ts generalizing as with
  | nil => rfl
  | cons t ts ih =>
    simp only [List.map_cons, Amounts.addTerms, t.read_body, List.foldl_cons]
    exact ih _

namespace Stoichiometry

/-- The terms of two sides added in order, the reactants without the photons. -/
def ofTerms (reactants products : List WrittenTerm) : Stoichiometry :=
  products.foldl (fun s t => s.addProduct t.name t.value)
    ((reactants.filter fun t => !t.isPhoton).foldl (fun s t => s.addReactant t.name t.value) empty)

theorem foldl_addReactant (ts : List WrittenTerm) (s : Stoichiometry) :
    ts.foldl (fun s t => s.addReactant t.name t.value) s =
      ⟨ts.foldl (fun as t => as.add t.name t.value) s.reactants, s.products⟩ := by
  induction ts generalizing s with
  | nil => rfl
  | cons t ts ih =>
    rw [List.foldl_cons, ih]
    rfl

theorem foldl_addProduct (ts : List WrittenTerm) (s : Stoichiometry) :
    ts.foldl (fun s t => s.addProduct t.name t.value) s =
      ⟨s.reactants, ts.foldl (fun as t => as.add t.name t.value) s.products⟩ := by
  induction ts generalizing s with
  | nil => rfl
  | cons t ts ih =>
    rw [List.foldl_cons, ih]
    rfl

theorem ofTerms_eq (reactants products : List WrittenTerm) :
    ofTerms reactants products =
      ⟨(reactants.filter fun t => !t.isPhoton).foldl (fun as t => as.add t.name t.value) [],
        products.foldl (fun as t => as.add t.name t.value) []⟩ := by
  rw [ofTerms, foldl_addProduct, foldl_addReactant]
  rfl

theorem hasProducts_ofTerms (reactants products : List WrittenTerm) :
    (ofTerms reactants products).hasProducts = !products.isEmpty := by
  rw [ofTerms_eq]
  cases products with
  | nil => rfl
  | cons t ts =>
    have hne : ∀ (us : List WrittenTerm) (as : Amounts), as ≠ [] →
        us.foldl (fun as t => as.add t.name t.value) as ≠ [] := by
      intro us
      induction us with
      | nil => exact fun as h => h
      | cons u us ih => exact fun as _ => ih _ (Amounts.add_ne_nil u.name u.value as)
    have h := hne ts _ (Amounts.add_ne_nil t.name t.value [])
    rw [hasProducts, List.foldl_cons, List.isEmpty_eq_false_iff.2 h]
    rfl

end Stoichiometry

/-- **The sides of a written equation are read back**, from any texts with the terms in them. -/
theorem read_sides {rs ps : List WrittenTerm} {left right : List Char}
    (hl : termTexts left = rs.map WrittenTerm.body)
    (hr : termTexts right = ps.map WrittenTerm.body) :
    Sides.read left right = .ok ⟨.ofTerms rs ps, rs.any WrittenTerm.isPhoton⟩ := by
  have hfilter : (rs.map WrittenTerm.body).filter (fun t => !isPhoton t) =
      (rs.filter fun t => !t.isPhoton).map WrittenTerm.body := by
    rw [List.filter_map]
    congr 1
    exact List.filter_congr fun t _ => by rw [Function.comp_apply, t.isPhoton_body]
  have hany : (rs.map WrittenTerm.body).any isPhoton = rs.any WrittenTerm.isPhoton := by
    rw [List.any_map]
    congr 1
    exact funext WrittenTerm.isPhoton_body
  simp only [Sides.read, hl, hr, hfilter, hany, addTerms_map_body, Stoichiometry.ofTerms_eq]
  rfl

end AtmosChem
