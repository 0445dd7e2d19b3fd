import AtmosChem.Proofs.FiniteDoubles
import AtmosChem.Proofs.Outcomes
import AtmosChem.Proofs.ReactionRecords

/-!
# Amounts as sums

A side of an equation adds up its terms.  The amount of a species is the sum, from left to right, of
the coefficients that are written in front of it (`Amounts.amount?_addAll`).  Coefficients are
finite, so an amount can leave the range of doubles only where a species is written more than once
(`Amounts.forall_isFinite_addAll_iff`).
-/

namespace AtmosChem

/-! ### Terms -/

namespace Term

/-- The terms among texts. -/
def readAll (texts : List (List Char)) : List Term := texts.filterMap fun t => (read t).toOption

/-- What a term says of a species: its coefficient, if the species is its own. -/
def sum (s : String) (ts : List Term) (start : Float) : Float :=
  ((ts.filter fun t => t.species = s).map coefficient).foldl (· + ·) start

/-- How often a species is written. -/
def count (s : String) (ts : List Term) : Nat := (ts.filter fun t => t.species = s).length

theorem isAmount_of_amount? {s : List Char} {x : Float} (h : amount? s = some x) :
    isAmount x = true := by
  rw [amount?] at h
  split at h
  · have hone : isAmount 1.0 = true := by decide +kernel
    rwa [← Option.some.inj h]
  · exact (Option.filter_eq_some_iff.1 h).2

/-- **A coefficient is finite** and above zero. -/
theorem isAmount_of_read {s : List Char} {t : Term} (h : read s = .ok t) :
    isAmount t.coefficient = true := by
  rw [read] at h
  split at h
  · exact absurd h (by simp)
  · generalize coefficientText (s.takeWhile fun c => !Text.isAlphabetic c) = text at h
    cases hx : amount? text with
    | none => simp [hx] at h
    | some x =>
      simp only [hx, Except.ok.injEq] at h
      rw [← h]
      exact isAmount_of_amount? hx

theorem isFinite_of_mem_readAll {texts : List (List Char)} {t : Term} (h : t ∈ readAll texts) :
    t.coefficient.isFinite = true := by
  obtain ⟨text, -, htext⟩ := List.mem_filterMap.1 h
  cases hread : read text with
  | error e => simp [hread, Except.toOption] at htext
  | ok u =>
    rw [hread] at htext
    have hamount := isAmount_of_read hread
    rw [← Option.some.inj htext]
    exact (Bool.and_eq_true_iff.1 hamount).1

end Term

namespace Amounts

/-! ### Adding terms -/

/-- Terms added to a side one after the other. -/
def addAll (as : Amounts) (ts : List Term) : Amounts :=
  ts.foldl (fun as t => as.add t.species t.coefficient) as

/-- **Texts that can all be read** are added as their terms. -/
theorem addAll_of_addTerms {as bs : Amounts} {texts : List (List Char)}
    (h : addTerms as texts = .ok bs) : bs = as.addAll (Term.readAll texts) := by
  induction texts generalizing as with
  | nil => exact (Except.ok.inj h).symm
  | cons text texts ih =>
    rw [addTerms] at h
    cases hread : Term.read text with
    | error e => simp [hread] at h
    | ok t =>
      rw [hread] at h
      rw [ih h, Term.readAll, Term.readAll, List.filterMap_cons, hread]
      rfl

theorem distinct_addAll {as : Amounts} (h : as.Distinct) (ts : List Term) :
    (as.addAll ts).Distinct := by
  induction ts generalizing as with
  | nil => exact h
  | cons t ts ih => exact ih (distinct_add h t.species t.coefficient)

/-- The amount of a species on a side, if it stands there. -/
def amount? (s : String) : Amounts → Option Float
  | [] => none
  | (u, x) :: rest => if u = s then some x else amount? s rest

theorem amount?_add (s u : String) (x : Float) (as : Amounts) :
    (as.add s x).amount? u =
      if s = u then some ((as.amount? u).getD 0.0 + x) else as.amount? u := by
  induction as with
  | nil => by_cases h : s = u <;> simp [add, amount?, h]
  | cons a as ih =>
    obtain ⟨v, y⟩ := a
    by_cases hv : v = s
    · by_cases h : s = u <;> simp [add, amount?, hv, h]
    · by_cases hu : v = u
      · subst hu
        simp [add, amount?, hv, Ne.symm hv]
      · simp [add, amount?, hv, hu, ih]

/-- **The amount of a species** is the sum of its terms, on top of what has been there. -/
theorem amount?_addAll (s : String) (as : Amounts) (ts : List Term) :
    (as.addAll ts).amount? s =
      if Term.count s ts = 0 then as.amount? s
      else some (Term.sum s ts ((as.amount? s).getD 0.0)) := by
  induction ts generalizing as with
  | nil => rfl
  | cons t ts ih =>
    have hstep : as.addAll (t :: ts) = (as.add t.species t.coefficient).addAll ts := rfl
    rw [hstep, ih, amount?_add]
    by_cases h : t.species = s
    · by_cases hrest : Term.count s ts = 0
      · have hnil : ts.filter (fun t => t.species = s) = [] := List.length_eq_zero_iff.1 hrest
        simp [Term.count, Term.sum, h, hnil]
      · simp only [Term.count] at hrest
        simp [Term.count, Term.sum, h, hrest]
    · simp [Term.count, Term.sum, h]

/-! ### Finite amounts -/

theorem mem_iff_amount? {as : Amounts} (h : as.Distinct) (s : String) (x : Float) :
    (s, x) ∈ as ↔ as.amount? s = some x := by
  induction as with
  | nil => simp [amount?]
  | cons b as ih =>
    obtain ⟨u, y⟩ := b
    rw [Distinct, species, List.map_cons, List.nodup_cons] at h
    by_cases hu : u = s
    · subst hu
      have hmem : (u, x) ∉ as := fun hs => h.1 (List.mem_map.2 ⟨_, hs, rfl⟩)
      simp [amount?, hmem, eq_comm]
    · simp [amount?, hu, Ne.symm hu, ih h.2]

/-- A species that is written once has the amount that is written. -/
theorem isFinite_sum_of_count_eq_one {s : String} {ts : List Term}
    (hts : ∀ t ∈ ts, t.coefficient.isFinite = true) (h : Term.count s ts = 1) :
    (Term.sum s ts 0.0).isFinite = true := by
  obtain ⟨t, ht⟩ := List.length_eq_one_iff.1 h
  have hmem : t ∈ ts := (List.mem_filter.1 (ht ▸ List.mem_singleton_self t)).1
  rw [Term.sum, ht, List.map_singleton, List.foldl_cons, List.foldl_nil, Decimal.isFinite_zero_add]
  exact hts t hmem

/-- **A side is finite** if and only if the sums of the species that are written more than once
are. -/
theorem forall_isFinite_addAll_iff {ts : List Term}
    (hts : ∀ t ∈ ts, t.coefficient.isFinite = true) :
    (∀ a ∈ addAll [] ts, a.2.isFinite = true) ↔
      ∀ s, 1 < Term.count s ts → (Term.sum s ts 0.0).isFinite = true := by
  have hmem : ∀ s x, (s, x) ∈ addAll [] ts ↔
      Term.count s ts ≠ 0 ∧ Term.sum s ts 0.0 = x := by
    intro s x
    rw [mem_iff_amount? (distinct_addAll distinct_nil ts), amount?_addAll]
    by_cases h : Term.count s ts = 0 <;> simp [h, amount?]
  constructor
  · intro h s hs
    exact h (s, Term.sum s ts 0.0) ((hmem _ _).2 ⟨Nat.ne_of_gt (Nat.lt_of_succ_lt hs), rfl⟩)
  · rintro h ⟨s, x⟩ ha
    obtain ⟨hcount, rfl⟩ := (hmem s x).1 ha
    by_cases hone : Term.count s ts = 1
    · exact isFinite_sum_of_count_eq_one hts hone
    · exact h s (by omega)

end Amounts

end AtmosChem
