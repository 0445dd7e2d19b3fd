import AtmosChem.Proofs.DeclaredNames
import AtmosChem.Proofs.FiniteRates
import AtmosChem.Settings.Basic

/-!
# Finite mechanisms

Documents have no infinities and no NaN: a number that is not finite is written as null, and the
document cannot be read back.  The tolerances of species are checked, and coefficients in front of
species too.  The numbers in rates are not, and sums and products may leave the range of doubles.

* `Mechanism.nullFreeText_reactionsText_iff`: null stands for a number of a reaction that is not
  finite, and for nothing else.
* `EquationText.Bounded`: what keeps the numbers of an equation finite.
* `Format.finite_translate`: the species of a translation are always finite, and its reactions are
  if and only if every equation that gives some is bounded.
-/

namespace AtmosChem

/-! ### Documents without null -/

namespace Json

theorem nullFree_ofText (s : String) : (ofText s).NullFree := by
  simp [ofText, NullFree, lexemes]

theorem null_not_mem_lexemesOfItems_iff (vs : List Json) :
    Lexeme.null ∉ lexemesOfItems vs ↔ ∀ v ∈ vs, v.NullFree := by
  induction vs with
  | nil => simp [lexemesOfItems]
  | cons v vs ih => simp [lexemesOfItems, ih, NullFree]

theorem nullFree_array_iff (vs : List Json) : (array vs).NullFree ↔ ∀ v ∈ vs, v.NullFree := by
  cases vs with
  | nil => simp [NullFree, lexemes]
  | cons v vs => simp [NullFree, lexemes, null_not_mem_lexemesOfItems_iff]

theorem null_not_mem_lexemesOfFields_iff (fields : List (String × Json)) :
    Lexeme.null ∉ lexemesOfFields (fields.map fun f => (some f.1, f.2)) ↔
      ∀ f ∈ fields, f.2.NullFree := by
  induction fields with
  | nil => simp [lexemesOfFields]
  | cons f fields ih => simp [lexemesOfFields, ih, NullFree]

theorem nullFree_record_iff (fields : List (String × Json)) :
    (record fields).NullFree ↔ ∀ f ∈ fields, f.2.NullFree := by
  cases fields with
  | nil => simp [record, NullFree, lexemes]
  | cons f fields => simp [record, NullFree, lexemes, null_not_mem_lexemesOfFields_iff]

/-- Whether a text is a document without null. -/
def NullFreeText (text : String) : Prop := ∃ v, read? text = some v ∧ v.NullFree

theorem nullFreeText_render_iff (indent : Indent) (v : Json) :
    NullFreeText (v.render indent) ↔ v.NullFree := by
  simp [NullFreeText, read?_render]

end Json

theorem Species.nullFree_toJson_iff (s : Species) :
    s.toJson.NullFree ↔ ∀ x ∈ s.role.tolerance?, x.isFinite = true := by
  rw [toJson, Json.nullFree_record_iff]
  cases s.formula <;> cases s.role <;>
    simp [Json.nullFree_ofText, Json.nullFree_ofFloat_iff, Role.tolerance?]

theorem Amounts.nullFree_toJson_iff (key : String) (as : Amounts) :
    (as.toJson key).NullFree ↔ ∀ a ∈ as, a.2.isFinite = true := by
  rw [toJson, Json.nullFree_record_iff, List.forall_mem_map]
  simp [Json.nullFree_record_iff, Json.nullFree_ofFloat_iff]

theorem RateLaw.nullFree_fields_iff (l : RateLaw Float) :
    (∀ f ∈ l.fields, f.2.NullFree) ↔ l.Finite := by
  rw [fields, List.forall_mem_cons, List.forall_mem_map]
  simp [Json.nullFree_ofText, Json.nullFree_ofFloat_iff, Finite]

/-- Whether all numbers of a reaction are finite. -/
def Reaction.Finite (r : Reaction) : Prop := ∀ x ∈ r.numbers, x.isFinite = true

/-- Whether all amounts on both sides are finite. -/
def Stoichiometry.Finite (s : Stoichiometry) : Prop :=
  (∀ a ∈ s.reactants, a.2.isFinite = true) ∧ ∀ a ∈ s.products, a.2.isFinite = true

theorem Reaction.finite_iff (r : Reaction) : r.Finite ↔ r.law.Finite ∧ r.stoichiometry.Finite := by
  rw [Finite, numbers, List.forall_mem_append, List.forall_mem_append, List.forall_mem_map,
    List.forall_mem_map, List.forall_mem_map, and_assoc]
  rfl

theorem Reaction.nullFree_toJson_iff (r : Reaction) : r.toJson.NullFree ↔ r.Finite := by
  rw [toJson, Json.nullFree_record_iff, List.forall_mem_append, RateLaw.nullFree_fields_iff,
    Reaction.finite_iff]
  simp [Amounts.nullFree_toJson_iff, Json.nullFree_ofText, Stoichiometry.Finite]

namespace Mechanism

/-- The tolerances of the species that are solved for. -/
def tolerances (m : Mechanism) : List Float := m.species.filterMap fun s => s.role.tolerance?

/-- **The document of the species** is without null if and only if all tolerances are finite. -/
theorem nullFreeText_speciesText_iff (m : Mechanism) :
    Json.NullFreeText m.speciesText ↔ ∀ x ∈ m.tolerances, x.isFinite = true := by
  rw [speciesText, Json.nullFreeText_render_iff, speciesJson, Json.nullFree_record_iff,
    List.forall_mem_singleton, Json.nullFree_array_iff, List.forall_mem_map]
  simp only [Species.nullFree_toJson_iff, tolerances, List.mem_filterMap]
  exact ⟨fun h x ⟨s, hs, hx⟩ => h s hs x hx, fun h s hs x hx => h x ⟨s, hs, hx⟩⟩

/-- **The document of the reactions** is without null if and only if all numbers of its reactions
are finite. -/
theorem nullFreeText_reactionsText_iff (m : Mechanism) :
    Json.NullFreeText m.reactionsText ↔ ∀ x ∈ m.reactionNumbers, x.isFinite = true := by
  have hrecords : (Json.array (m.reactions.map Reaction.toJson)).NullFree ↔
      ∀ r ∈ m.reactions, r.Finite := by
    rw [Json.nullFree_array_iff, List.forall_mem_map]
    simp only [Reaction.nullFree_toJson_iff]
  rw [reactionsText, Json.nullFreeText_render_iff, reactionsJson, Json.nullFree_record_iff,
    List.forall_mem_singleton, Json.nullFree_array_iff, List.forall_mem_singleton,
    Json.nullFree_record_iff, reactionNumbers, List.forall_mem_flatMap]
  simp only [List.forall_mem_cons, List.not_mem_nil, false_implies, implies_true, and_true,
    Json.nullFree_ofText, true_and]
  exact hrecords

end Mechanism

/-! ### Bounded equations -/

namespace EquationText

/-- Whether the numbers of an equation are in range: those that its rate takes, and the sums of the
species that it writes more than once on a side. -/
structure Bounded (w : EquationText) : Prop where
  rate : ∀ x ∈ w.rate.taken w.photon, x.isFinite = true
  reactants : ∀ s, 1 < Term.count s w.reactantTerms →
    (Term.sum s w.reactantTerms 0.0).isFinite = true
  products : ∀ s, 1 < Term.count s w.productTerms →
    (Term.sum s w.productTerms 0.0).isFinite = true

end EquationText

/-- The reactions of an equation have the laws of its rate, all with the same sides. -/
theorem Translation.finite_ofRate_iff (label : String) (sides : Stoichiometry)
    (c : Classification Float) :
    (∀ r ∈ (ofRate label sides c).reactions, r.Finite) ↔
      ∀ l ∈ c.laws, l.Finite ∧ sides.Finite := by
  cases c <;> simp [ofRate, Classification.laws, Reaction.finite_iff]

namespace EquationText

variable {w : EquationText} {e : Equation}

theorem Reads.finite_sides_iff (h : w.Reads e) : e.sides.stoichiometry.Finite ↔
    (∀ s, 1 < Term.count s w.reactantTerms → (Term.sum s w.reactantTerms 0.0).isFinite = true) ∧
    ∀ s, 1 < Term.count s w.productTerms → (Term.sum s w.productTerms 0.0).isFinite = true := by
  rw [Sides.eq_of_read h.sides]
  exact and_congr
    (Amounts.forall_isFinite_addAll_iff fun _ ht => Term.isFinite_of_mem_readAll ht)
    (Amounts.forall_isFinite_addAll_iff fun _ ht => Term.isFinite_of_mem_readAll ht)

/-- **The reactions of an equation are finite** if and only if its texts are bounded, or there are
no reactions. -/
theorem Reads.finite_iff (h : w.Reads e) :
    (∀ r ∈ e.translation.reactions, r.Finite) ↔ (w.classification.laws ≠ [] → w.Bounded) := by
  rw [Equation.translation, Translation.finite_ofRate_iff, h.rate_eq, h.finite_sides_iff]
  by_cases hlaws : w.classification.laws = []
  · simp [hlaws]
  · have hrate : (∀ l ∈ w.classification.laws, l.Finite) ↔
        ∀ x ∈ w.rate.taken w.photon, x.isFinite = true := RateText.finite_laws_iff hlaws
    obtain ⟨l, hl⟩ := List.exists_mem_of_ne_nil _ hlaws
    constructor
    · intro hall _
      obtain ⟨-, hreactants, hproducts⟩ := hall l hl
      exact ⟨hrate.1 fun l hl => (hall l hl).1, hreactants, hproducts⟩
    · intro hbounded l hl
      obtain ⟨htaken, hreactants, hproducts⟩ := hbounded hlaws
      exact ⟨hrate.2 htaken l hl, hreactants, hproducts⟩

end EquationText

namespace Format

theorem finite_equations_iff {f : Format} {lines : List (List Char)} {t : Translation}
    (h : (f.equations lines).outcome = .ok t) :
    (∀ r ∈ t.reactions, r.Finite) ↔
      ∀ w ∈ f.equationTexts lines, w.classification.laws ≠ [] → w.Bounded :=
  forall_reactions_iff (fun _ _ hreads => hreads.finite_iff) h

theorem eq_of_mem_tolerances {f : Format} {text : List Char} {name : String}
    {tolerance x : Float} {reactions : List Reaction}
    (h : x ∈ Mechanism.tolerances ⟨name, f.declaredSpecies text tolerance, reactions⟩) :
    x = tolerance := by
  obtain ⟨s, hs, hx⟩ := List.mem_filterMap.1 h
  rcases List.mem_append.1 hs with hs | hs
  · rw [role_of_mem_species hs] at hx
    exact absurd hx (by simp [Role.tolerance?])
  · rw [role_of_mem_species hs] at hx
    exact (Option.some.inj hx).symm

end Format

theorem Settings.isFinite_of_check {s : Settings} (h : s.check = .ok ()) :
    s.tolerance.isFinite = true := by
  rw [check] at h
  split at h
  · exact absurd h (by simp)
  · split at h
    · exact absurd h (by simp)
    · split at h
      next hrange => exact (Bool.and_eq_true_iff.1 hrange).1
      next => exact absurd h (by simp)

namespace Format

/-- **A translation with a tolerance that has been checked** has finite tolerances only, and no null
in the document of its species.  Its reactions are finite, and their document is without null, if
and only if every equation is bounded that gives reactions: the numbers that its rate takes are
finite, and so are the sums of species that it writes more than once on a side. -/
theorem finite_translate {s : Settings} (hs : s.check = .ok ()) {f : Format} {text : List Char}
    {name : String} {m : Mechanism} {unknowns : List String}
    (h : (f.translate text name s.tolerance).outcome = .ok (m, unknowns)) :
    (∀ x ∈ m.tolerances, x.isFinite = true) ∧
    Json.NullFreeText m.speciesText ∧
    ((∀ x ∈ m.reactionNumbers, x.isFinite = true) ↔
      ∀ w ∈ f.equationTexts (f.equationLines text), w.classification.laws ≠ [] → w.Bounded) ∧
    (Json.NullFreeText m.reactionsText ↔ ∀ x ∈ m.reactionNumbers, x.isFinite = true) := by
  obtain ⟨t, ht, rfl, -⟩ := exists_of_translate h
  have htolerances : ∀ x ∈ Mechanism.tolerances
      ⟨name, f.declaredSpecies text s.tolerance, t.reactions⟩, x.isFinite = true := by
    intro x hx
    rw [eq_of_mem_tolerances hx]
    exact s.isFinite_of_check hs
  refine ⟨htolerances, ?_, ?_, ?_⟩
  · exact (Mechanism.nullFreeText_speciesText_iff _).2 htolerances
  · rw [Mechanism.reactionNumbers, List.forall_mem_flatMap]
    exact finite_equations_iff ht
  · exact Mechanism.nullFreeText_reactionsText_iff _

/-- Settings that pass their check. -/
def sampleSettings : Settings := { Settings.initial with inputName := "ozone" }

theorem check_sampleSettings : sampleSettings.check = .ok () := by
  rw [Settings.check, if_neg, if_neg, if_pos] <;> decide +kernel

/-- A plain rate, a falloff and a species that is written twice. -/
def boundedText : List Char :=
  "#DEFVAR\nO3 = IGNORE ;\n#EQUATIONS\nO + O2 = O3 : 6.0e-34 ;
O3 + O3 = O2 : TROEE(2, 0, 1, 0, 1, 0) ;".toList

/-- A rate that is greater than all doubles. -/
def unboundedText : List Char := "#EQUATIONS\nO + O2 = O3 : 1e999 ;".toList

theorem finite_translate_boundedText : ∃ m unknowns,
    (kpp.translate boundedText "ozone" sampleSettings.tolerance).outcome = .ok (m, unknowns) ∧
    (∀ x ∈ m.tolerances, x.isFinite = true) ∧
    Json.NullFreeText m.speciesText ∧
    ((∀ x ∈ m.reactionNumbers, x.isFinite = true) ↔
      ∀ w ∈ kpp.equationTexts (kpp.equationLines boundedText),
        w.classification.laws ≠ [] → w.Bounded) ∧
    (Json.NullFreeText m.reactionsText ↔ ∀ x ∈ m.reactionNumbers, x.isFinite = true) := by
  have hok : (kpp.translate boundedText "ozone" sampleSettings.tolerance).outcome.toOption.any
      (fun r => r.1.reactionNumbers.all Float.isFinite) = true := by decide +kernel
  obtain ⟨⟨m, unknowns⟩, h, -⟩ := exists_ok_of_any hok
  exact ⟨m, unknowns, h, finite_translate check_sampleSettings h⟩

/-- **Numbers need not be finite**: a rate that is too great is taken as it is. -/
theorem not_forall_finite_translate : ¬∀ (s : Settings) (f : Format) (text : List Char)
    (name : String) (m : Mechanism) (unknowns : List String), s.check = .ok () →
    (f.translate text name s.tolerance).outcome = .ok (m, unknowns) →
    (∀ x ∈ m.tolerances ++ m.reactionNumbers, x.isFinite = true) ∧
      Json.NullFreeText m.speciesText ∧ Json.NullFreeText m.reactionsText := by
  intro hall
  have hok : (kpp.translate unboundedText "ozone" sampleSettings.tolerance).outcome.toOption.any
      (fun r => !r.1.reactionNumbers.all Float.isFinite) = true := by decide +kernel
  obtain ⟨⟨m, unknowns⟩, h, hinfinite⟩ := exists_ok_of_any hok
  obtain ⟨hfinite, -, -⟩ := hall sampleSettings kpp unboundedText "ozone" m unknowns
    check_sampleSettings h
  have hreactions : m.reactionNumbers.all Float.isFinite = true :=
    List.all_eq_true.2 fun x hx => hfinite x (List.mem_append_right _ hx)
  rw [hreactions] at hinfinite
  exact absurd hinfinite (by decide)

end Format

end AtmosChem
