import AtmosChem.Proofs.WrittenCalls

/-!
# The table of rates

What a rate expression turns out to be, for every text.  There are three cases: a photolysis, a
plain rate, and the call of a function.  A call is looked up in a table that has the name and the
numbers of its arguments as its only keys, and it is unknown exactly if the name is not in the table
or has no entry for so many numbers.

* `Family.isSome_law?_iff`: how many numbers a family takes.
* `RateForm.kind_classify_ofName`: the calls that are unknown.
* `classifyExpression_table`: **the whole table**.
-/

namespace AtmosChem

open Text

/-! ### How many numbers a family takes -/

namespace Family

/-- The numbers of coefficients for which a family has a law. -/
def counts : Family → List Nat
  | arrheniusAbc => [3]
  | arrheniusAb => [2]
  | arrheniusAc => [2]
  | mozartArrhenius => [1, 2]
  | troe => [4, 6]
  | troeE => [6, 8]
  | mozartTroe => [5]

section

variable {α : Type} [Neg α] [Mul α] [OfScientific α] {family : Family} {cs : List α}

theorem length_mem_counts {l : RateLaw α} (h : family.law? cs = some l) :
    cs.length ∈ family.counts := by
  rw [law?.eq_def] at h
  split at h
  case h_11 => simp at h
  all_goals simp [counts]

theorem isSome_law?_iff : (family.law? cs).isSome = true ↔ cs.length ∈ family.counts := by
  constructor
  · intro h
    obtain ⟨l, hl⟩ := Option.isSome_iff_exists.1 h
    exact length_mem_counts hl
  · intro h
    cases family <;> simp only [counts, List.mem_cons, List.not_mem_nil, or_false] at h
    case arrheniusAbc => match cs, h with | [_, _, _], _ => rfl
    case arrheniusAb => match cs, h with | [_, _], _ => rfl
    case arrheniusAc => match cs, h with | [_, _], _ => rfl
    case mozartArrhenius => match cs, h with | [_], _ | [_, _], _ => rfl
    case troe => match cs, h with | [_, _, _, _], _ | [_, _, _, _, _, _], _ => rfl
    case troeE => match cs, h with | [_, _, _, _, _, _], _ | [_, _, _, _, _, _, _, _], _ => rfl
    case mozartTroe => match cs, h with | [_, _, _, _, _], _ => rfl

theorem kind_of_law? {l : RateLaw α} (h : family.law? cs = some l) :
    l.kind = .arrhenius ∨ l.kind = .troe := by
  rw [law?.eq_def] at h
  split at h
  case h_11 => simp at h
  all_goals
    rw [← Option.some.inj h]
    simp [RateLaw.kind, troeLaw, troeELaw]

theorem kind_classify_eq_unknown_iff :
    (family.classify cs).kind = .unknown ↔ cs.length ∉ family.counts := by
  rw [← isSome_law?_iff, classify]
  cases h : family.law? cs with
  | none => simp [Classification.kind]
  | some l => rcases kind_of_law? h with hk | hk <;> simp [Classification.kind, hk]

theorem kind_classify_ne_photolysis : (family.classify cs).kind ≠ .photolysis := by
  rw [classify]
  cases h : family.law? cs with
  | none => simp [Classification.kind]
  | some l => rcases kind_of_law? h with hk | hk <;> simp [Classification.kind, hk]

end

end Family

/-! ### The functions of the table -/

namespace RateForm

/-- The functions that take numbers, and how many they take. -/
def countedFunctions : List (String × List Nat) := [
  ("ARR_abc", [3]), ("ARR", [3]), ("ARR_ab", [2]), ("ARR2", [2]), ("ARR_ac", [2]),
  ("TROE", [4, 6]), ("TROEE", [6, 8])]

/-- The functions whose arguments are passed over. -/
def constantFunctions : List String := ["k45", "k57"]

/-- Whether the table has an entry for a name and so many numbers. -/
def Listed (name : String) (count : Nat) : Prop :=
  name ∈ constantFunctions ∨ ∃ r ∈ countedFunctions, r.1 = name ∧ count ∈ r.2

instance (name : String) (count : Nat) : Decidable (Listed name count) :=
  inferInstanceAs (Decidable (_ ∨ _))

/-- A falloff may be given with a temperature and a density, but not with one of them. -/
example : Listed "TROE" 4 ∧ Listed "TROE" 6 ∧ ¬Listed "TROE" 5 ∧ ¬Listed "troe" 4 := by decide

/-- The entries for a function are those of its form. -/
theorem listed_iff_of_mem {name : String} {form : RateForm} (h : (name, form) ∈ functions)
    (count : Nat) :
    Listed name count ↔
      form = k45 ∨ form = k57 ∨ ∃ family, form = call family ∧ count ∈ family.counts := by
  simp only [functions, List.mem_cons, List.not_mem_nil, or_false, Prod.mk.injEq] at h
  rcases h with ⟨rfl, rfl⟩ | ⟨rfl, rfl⟩ | ⟨rfl, rfl⟩ | ⟨rfl, rfl⟩ | ⟨rfl, rfl⟩ | ⟨rfl, rfl⟩ |
    ⟨rfl, rfl⟩ | ⟨rfl, rfl⟩ | ⟨rfl, rfl⟩
  all_goals simp [Listed, constantFunctions, countedFunctions, Family.counts]

theorem not_listed_of_not_mem {name : String} (h : ∀ r ∈ functions, name ≠ r.1) (count : Nat) :
    ¬Listed name count := by
  have hconstant : ∀ n ∈ constantFunctions, n ∈ functions.map Prod.fst := by decide
  have hcounted : ∀ r ∈ countedFunctions, r.1 ∈ functions.map Prod.fst := by decide
  have hnot : name ∉ functions.map Prod.fst := by
    intro hm
    obtain ⟨r, hr, rfl⟩ := List.mem_map.1 hm
    exact h r hr rfl
  rintro (hm | ⟨r, hm, rfl, -⟩)
  · exact hnot (hconstant name hm)
  · exact hnot (hcounted r hm)

/-- **A call is unknown** exactly if the table has no entry for it. -/
theorem kind_classify_ofName (name : String) (cs : List Float) :
    ((ofName name).classify cs).kind = .unknown ↔ ¬Listed name cs.length := by
  rcases ofName_cases name with hmem | ⟨hnot, hforeign⟩
  · rw [listed_iff_of_mem hmem]
    cases hform : ofName name with
    | call family => simp [classify, Family.kind_classify_eq_unknown_iff]
    | k45 => simp [classify, AtmosChem.k45, Classification.kind, RateLaw.kind]
    | k57 => simp [classify, AtmosChem.k57, Classification.kind, RateLaw.kind]
    | photolysis => simp [hform, functions] at hmem
    | plain => simp [hform, functions] at hmem
    | foreign n => simp [hform, functions] at hmem
  · simpa [hforeign, classify, Classification.kind] using not_listed_of_not_mem hnot cs.length

/-- No function takes one number more than it takes anyway. -/
theorem counts_apart {name : String} {family : Family} (h : ofName name = call family) :
    ∀ n ∈ family.counts, n + 1 ∉ family.counts := by
  rcases ofName_cases name with hmem | ⟨-, hforeign⟩
  · rw [h] at hmem
    cases family with
    | mozartArrhenius => simp [functions] at hmem
    | _ => decide
  · rw [hforeign] at h
    exact absurd h nofun

/-- No call is a photolysis. -/
theorem kind_classify_ofName_ne (name : String) (cs : List Float) :
    ((ofName name).classify cs).kind ≠ .photolysis := by
  obtain ⟨hphotolysis, -⟩ := ofName_ne name
  cases h : ofName name with
  | photolysis => exact absurd h hphotolysis
  | call family => exact Family.kind_classify_ne_photolysis
  | k45 => simp [classify, AtmosChem.k45, Classification.kind, RateLaw.kind]
  | k57 => simp [classify, AtmosChem.k57, Classification.kind, RateLaw.kind]
  | plain => simp [classify, Classification.kind, RateLaw.kind]
  | foreign n => simp [classify, Classification.kind]

end RateForm

/-! ### The table -/

/-- Whether a rate is a photolysis: there is a photon, or the rate mentions the sun. -/
def Photolytic (rate : List Char) (photon : Bool) : Prop :=
  photon = true ∨ ['S', 'U', 'N'] <:+: rate ∨ ['P', 'j', '_'] <:+: rate

theorem photolytic_iff {rate : List Char} {photon : Bool} :
    Photolytic rate photon ↔ (photon || marksPhotolysis rate) = true := by
  rw [Photolytic, Bool.or_eq_true, marksPhotolysis_iff]

theorem not_photolytic_iff {rate : List Char} {photon : Bool} :
    ¬Photolytic rate photon ↔ photon = false ∧ marksPhotolysis rate = false := by
  rw [photolytic_iff, Bool.not_eq_true, Bool.or_eq_false_iff]

/-- A rate that calls nothing is plain. -/
theorem classifyExpression_of_not_calls {rate : List Char} {photon : Bool}
    (hphoton : ¬Photolytic rate photon) (h : ∀ name, ¬RateForm.Calls rate name)
    (hasProducts : Bool) :
    classifyExpression rate photon hasProducts = classifyPlain rate hasProducts := by
  obtain ⟨rfl, hmarks⟩ := not_photolytic_iff.1 hphoton
  rw [classifyExpression, RateForm.of, hmarks, RateForm.callName?_eq_none_iff.2 h]
  rfl

theorem classifyExpression_of_calls {rate : List Char} {photon : Bool} {name : String}
    (hphoton : ¬Photolytic rate photon) (h : RateForm.Calls rate name) (hasProducts : Bool) :
    classifyExpression rate photon hasProducts =
      (RateForm.ofName name).classify (callCoefficients rate) := by
  obtain ⟨rfl, hmarks⟩ := not_photolytic_iff.1 hphoton
  exact classifyExpression_of_callName? hmarks (RateForm.callName?_of_calls h) hasProducts

/-- **A rate is a photolysis** exactly if there is a photon or if it mentions the sun. -/
theorem kind_classifyExpression_eq_photolysis_iff (rate : List Char) (photon hasProducts : Bool) :
    (classifyExpression rate photon hasProducts).kind = .photolysis ↔ Photolytic rate photon := by
  by_cases hphoton : Photolytic rate photon
  · rw [classifyExpression_photolysis (photolytic_iff.1 hphoton)]
    simp [hphoton, Classification.kind, RateLaw.kind]
  · refine iff_of_false ?_ hphoton
    cases hname : RateForm.callName? rate with
    | some name =>
      rw [classifyExpression_of_calls hphoton (RateForm.callName?_eq_some_iff.1 hname)]
      exact RateForm.kind_classify_ofName_ne name _
    | none =>
      rw [classifyExpression_of_not_calls hphoton (RateForm.callName?_eq_none_iff.1 hname),
        classifyPlain]
      cases plainRate? rate <;> cases hasProducts <;> simp [Classification.kind, RateLaw.kind]

/-- **What a rate turns out to be.**  It is a photolysis exactly if there is a photon or if it
mentions the sun.  Otherwise, if it calls nothing, it is never unknown: it has the number that the
text writes without its parentheses, as a loss if there are no products, or zero if the text writes
none.  If it calls a function, then the name and the numbers of its arguments decide alone; the call
is unknown exactly if there is no entry for them, and two of the functions pass over their
arguments. -/
theorem classifyExpression_table :
    (∀ rate photon hasProducts,
      (classifyExpression rate photon hasProducts).kind = .photolysis ↔ Photolytic rate photon) ∧
    (∀ rate photon, ¬Photolytic rate photon → (∀ name, ¬RateForm.Calls rate name) →
      (∀ hasProducts, (classifyExpression rate photon hasProducts).kind ≠ .unknown) ∧
      (∀ a, plainRate? rate = some a →
        classifyExpression rate photon false = .single (.firstOrderLoss a) ∧
        classifyExpression rate photon true = .single (.arrhenius (.constant a))) ∧
      (plainRate? rate = none → ∀ hasProducts,
        classifyExpression rate photon hasProducts = .single (.arrhenius (.constant 0.0)))) ∧
    ∃ table : String → List Float → Classification Float,
      (∀ rate photon name, ¬Photolytic rate photon → RateForm.Calls rate name → ∀ hasProducts,
        classifyExpression rate photon hasProducts = table name (callCoefficients rate)) ∧
      (∀ name cs, (table name cs).kind = .unknown ↔ ¬RateForm.Listed name cs.length) ∧
      ∀ cs, table "k45" cs = k45 ∧ table "k57" cs = k57 := by
  refine ⟨kind_classifyExpression_eq_photolysis_iff, ?_, ?_⟩
  · intro rate photon hphoton hcalls
    have hplain := classifyExpression_of_not_calls hphoton hcalls
    simp only [hplain, classifyPlain]
    cases plainRate? rate with
    | none => simp [Classification.kind, RateLaw.kind]
    | some a => simp [Classification.kind, RateLaw.kind]
  · refine ⟨fun name cs => (RateForm.ofName name).classify cs, ?_, RateForm.kind_classify_ofName, ?_⟩
    · intro rate photon name hphoton hcalls hasProducts
      exact classifyExpression_of_calls hphoton hcalls hasProducts
    · intro cs
      exact ⟨rfl, rfl⟩

theorem classifyExpression_table_usual :
    (¬Photolytic "(2.0_dp)".toList false ∧ (∀ name, ¬RateForm.Calls "(2.0_dp)".toList name) ∧
      classifyExpression "(2.0_dp)".toList false false = .single (.firstOrderLoss 2.0)) ∧
    (¬Photolytic "( TROE (1.0, 2.0, TEMP, C_M) )".toList false ∧
      RateForm.Calls "( TROE (1.0, 2.0, TEMP, C_M) )".toList "TROE" ∧
      ∀ hasProducts, (classifyExpression "( TROE (1.0, 2.0, TEMP, C_M) )".toList false
        hasProducts).kind = .unknown) := by
  obtain ⟨-, hplain, table, htable, hunknown, -⟩ := classifyExpression_table
  constructor
  · have hphoton : ¬Photolytic "(2.0_dp)".toList false := not_photolytic_iff.2 (by decide)
    have hcalls : ∀ name, ¬RateForm.Calls "(2.0_dp)".toList name :=
      RateForm.callName?_eq_none_iff.1 (by decide)
    obtain ⟨-, hnumber, -⟩ := hplain _ _ hphoton hcalls
    exact ⟨hphoton, hcalls, (hnumber 2.0 rfl).1⟩
  · have hphoton : ¬Photolytic "( TROE (1.0, 2.0, TEMP, C_M) )".toList false :=
      not_photolytic_iff.2 (by decide)
    have hcalls : RateForm.Calls "( TROE (1.0, 2.0, TEMP, C_M) )".toList "TROE" :=
      RateForm.callName?_eq_some_iff.1 (by decide)
    have hnumbers :
        (callCoefficients "( TROE (1.0, 2.0, TEMP, C_M) )".toList).length = 2 := by rfl
    refine ⟨hphoton, hcalls, ?_⟩
    intro hasProducts
    rw [htable _ _ _ hphoton hcalls, hunknown, hnumbers]
    decide

end AtmosChem
