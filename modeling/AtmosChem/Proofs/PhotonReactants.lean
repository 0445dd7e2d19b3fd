import AtmosChem.Proofs.EquationTexts
import AtmosChem.Proofs.SpelledNumbers
import AtmosChem.Proofs.TermTexts

/-!
# Photons among reactants

`hv` stands for a photon, in any letter case.  Whether a reactant is one is asked of the whole
term, before the coefficient is split off.  So a photon with a coefficient, or only with a
multiplication sign, as in `2 hv` or `*hv`, is no photon but a species by the name of `hv`, and it
is not noted.

* `isPhoton_iff`: a term is a photon if it names one and nothing stands in front of the name.
* `Sides.read_photons`: the photons of an equation are noted and left out if and only if all of them
  stand alone.
* `photon_reactants`: the same of the reactions in a section, for both formats.
-/

namespace AtmosChem

open Text Decimal

/-! ### The two parts of a term -/

namespace Term

/-- What stands in front of the first letter of a term. -/
def front (s : List Char) : List Char := s.takeWhile fun c => !isAlphabetic c

/-- A term from its first letter on. -/
def named (s : List Char) : List Char := s.dropWhile fun c => !isAlphabetic c

/-- The species that a term names. -/
def speciesOf (s : List Char) : String := String.ofList (trimEnd (named s))

/-- Whether a term names the photon, whatever its coefficient. -/
def namesPhoton (s : List Char) : Bool := isPhoton (named s)

theorem species_of_read {s : List Char} {t : Term} (h : read s = .ok t) :
    t.species = speciesOf s := by
  rw [read] at h
  split at h
  · simp at h
  · dsimp only at h
    split at h
    · rw [← Except.ok.inj h]
      rfl
    · simp at h

theorem isPhoton_speciesOf (s : List Char) : isPhoton (speciesOf s).toList = namesPhoton s := by
  rw [speciesOf, String.toList_ofList, isPhoton, trim_trimEnd]
  rfl

theorem front_append_named (s : List Char) : front s ++ named s = s :=
  List.takeWhile_append_dropWhile

theorem front_cons_of_isAlphabetic {c : Char} (h : isAlphabetic c = true) (s : List Char) :
    front (c :: s) = [] := by
  rw [front, List.takeWhile_cons, h]
  rfl

end Term

/-! ### Photons -/

theorem isAlphabetic_of_toLower_eq {c : Char} (h : c.toLower = 'h') : isAlphabetic c = true := by
  rcases eq_toLower_or c with he | he <;> rw [he, h] <;> decide +kernel

/-- **A term is a photon** if and only if it names one and nothing stands in front of the name. -/
theorem isPhoton_iff {s : List Char} (hs : Tight s) :
    isPhoton s = true ↔ Term.namesPhoton s = true ∧ Term.front s = [] := by
  have hwhole (hfront : Term.front s = []) : Term.named s = s := by
    have h := Term.front_append_named s
    rwa [hfront, List.nil_append] at h
  constructor
  · intro h
    have hlower : s.map Char.toLower = ['h', 'v'] := by
      rw [isPhoton, trim_of_tight hs] at h
      exact beq_iff_eq.1 h
    -- a photon begins with a letter, so it is its own name
    obtain ⟨c, rest, rfl, hc, -⟩ := List.map_eq_cons_iff.1 hlower
    have hfront := Term.front_cons_of_isAlphabetic (isAlphabetic_of_toLower_eq hc) rest
    exact ⟨by rw [Term.namesPhoton, hwhole hfront, h], hfront⟩
  · rintro ⟨hname, hfront⟩
    rwa [Term.namesPhoton, hwhole hfront] at hname

theorem tight_of_mem_termTexts {side t : List Char} (h : t ∈ termTexts side) : Tight t := by
  obtain ⟨piece, -, rfl⟩ := List.mem_map.1 (List.mem_filter.1 h).1
  exact tight_trim _

/-! ### The species of a side -/

/-- **The species of a side** are those that its terms name, after those that were there before. -/
theorem Amounts.mem_species_of_addTerms {as bs : Amounts} {texts : List (List Char)}
    (h : addTerms as texts = .ok bs) (s : String) :
    s ∈ bs.species ↔ s ∈ as.species ∨ ∃ t ∈ texts, Term.speciesOf t = s := by
  induction texts generalizing as with
  | nil =>
    rw [← Except.ok.inj h]
    simp
  | cons text texts ih =>
    rw [addTerms] at h
    split at h
    next t hread =>
      have hadd : s ∈ (as.add t.species t.coefficient).species ↔ s ∈ as.species ∨ t.species = s := by
        rw [species_add]
        split
        next hm =>
          refine ⟨Or.inl, ?_⟩
          rintro (hs | rfl)
          exacts [hs, hm]
        · rw [List.mem_append, List.mem_singleton, eq_comm (a := s)]
      rw [ih h, hadd, Term.species_of_read hread, or_assoc]
      simp
    · simp at h

/-- Whether no photon is among the reactants. -/
def Stoichiometry.PhotonFree (s : Stoichiometry) : Prop :=
  ∀ key ∈ s.reactants.species, isPhoton key.toList = false

instance (s : Stoichiometry) : Decidable s.PhotonFree :=
  inferInstanceAs (Decidable (∀ key ∈ s.reactants.species, _))

/-- Whether the photons of a side stand alone: nothing is in front of their names. -/
def PhotonsAlone (side : List Char) : Prop :=
  ∀ t ∈ termTexts side, Term.namesPhoton t = true → Term.front t = []

instance (side : List Char) : Decidable (PhotonsAlone side) :=
  inferInstanceAs (Decidable (∀ t ∈ termTexts side, _))

/-- **Photons are noted where they stand alone**, and no other term becomes a reactant by the name
of one. -/
theorem Sides.read_photons {reactants products : List Char} {s : Sides}
    (h : Sides.read reactants products = .ok s) :
    (s.photon = true ↔
      ∃ t ∈ termTexts reactants, Term.namesPhoton t = true ∧ Term.front t = []) ∧
    (s.stoichiometry.PhotonFree ↔ PhotonsAlone reactants) := by
  have hphoton : ∀ t ∈ termTexts reactants,
      (isPhoton t = true ↔ Term.namesPhoton t = true ∧ Term.front t = []) :=
    fun t ht => isPhoton_iff (tight_of_mem_termTexts ht)
  obtain ⟨rs, hrs, h⟩ := exists_of_bind h
  obtain ⟨ps, -, h⟩ := exists_of_bind h
  rw [← Except.ok.inj h]
  constructor
  · show (termTexts reactants).any isPhoton = true ↔ _
    rw [List.any_eq_true]
    exact exists_congr fun t => and_congr_right fun ht => hphoton t ht
  · have hkeys (key : String) : key ∈ rs.species ↔
        ∃ t, (t ∈ termTexts reactants ∧ isPhoton t = false) ∧ Term.speciesOf t = key := by
      rw [Amounts.mem_species_of_addTerms hrs]
      simp [Amounts.species, and_assoc]
    constructor
    · -- a term that names a photon behind something is kept, and so is the name
      intro hfree t ht hname
      by_contra hfront
      have hkept : isPhoton t = false := by
        rw [Bool.eq_false_iff]
        exact fun hp => hfront ((hphoton t ht).1 hp).2
      have hkey := hfree (Term.speciesOf t) ((hkeys _).2 ⟨t, ⟨ht, hkept⟩, rfl⟩)
      rw [Term.isPhoton_speciesOf, hname] at hkey
      exact absurd hkey (by decide)
    · intro halone key hkey
      obtain ⟨t, ⟨ht, hkept⟩, rfl⟩ := (hkeys key).1 hkey
      rw [Term.isPhoton_speciesOf, Bool.eq_false_iff]
      intro hname
      rw [(hphoton t ht).2 ⟨hname, halone t ht hname⟩] at hkept
      exact absurd hkept (by decide)

/-! ### The reactions of a section -/

theorem EquationText.Reads.photonFree_iff {w : EquationText} {e : Equation} (h : w.Reads e) :
    (∀ r ∈ e.translation.reactions, r.stoichiometry.PhotonFree) ↔
      (w.classification.laws ≠ [] → PhotonsAlone w.reactants) := by
  rw [h.forall_stoichiometry_iff, (Sides.read_photons h.sides).2]

/-- **Which reactions have photons among their reactants.**  Two sides that are read have their
photons noted and left out if and only if nothing stands in front of the name of one, and the
reactions of a section are free of photons if and only if this is so for every equation with a
law. -/
theorem photon_reactants (f : Format) :
    (∀ reactants products s, Sides.read reactants products = .ok s →
      (s.photon = true ↔
        ∃ t ∈ termTexts reactants, Term.namesPhoton t = true ∧ Term.front t = []) ∧
      (s.stoichiometry.PhotonFree ↔ PhotonsAlone reactants)) ∧
    ∀ lines t, (f.equations lines).outcome = .ok t →
      ((∀ r ∈ t.reactions, r.stoichiometry.PhotonFree) ↔
        ∀ w ∈ f.equationTexts lines, w.classification.laws ≠ [] → PhotonsAlone w.reactants) :=
  ⟨fun _ _ _ h => Sides.read_photons h,
    fun _ _ h => Format.forall_reactions_iff (fun _ _ hreads => hreads.photonFree_iff) h⟩

/-- Two photolyses of MOZART, the second with an amount in front of a reactant. -/
def photolysisLines : List (List Char) :=
  ["[jno2] NO2 + hv -> NO + O".toList, "[jho2] 2*HO2 + HV -> H2O2 + O2".toList]

theorem photon_reactants_photolysis :
    (∃ s, Sides.read "2*HO2 + HV".toList "H2O2 + O2".toList = .ok s ∧
      s.photon = true ∧ s.stoichiometry.PhotonFree) ∧
    ∃ t, (Format.mozart.equations photolysisLines).outcome = .ok t ∧
      ∀ r ∈ t.reactions, r.stoichiometry.PhotonFree := by
  constructor
  · have hok : (Sides.read "2*HO2 + HV".toList "H2O2 + O2".toList).toOption.any
        (fun _ => true) = true := by decide +kernel
    obtain ⟨s, hs, -⟩ := exists_ok_of_any hok
    obtain ⟨hnoted, hfree⟩ := (photon_reactants .mozart).1 _ _ s hs
    exact ⟨s, hs, hnoted.2 (by decide +kernel), hfree.2 (by decide +kernel)⟩
  · have hok : (Format.mozart.equations photolysisLines).outcome.toOption.any
        (fun t => t.reactions.length = 2) = true := by decide +kernel
    obtain ⟨t, ht, -⟩ := exists_ok_of_any hok
    have halone : ∀ w ∈ Format.mozart.equationTexts photolysisLines, PhotonsAlone w.reactants := by
      decide +kernel
    exact ⟨t, ht, ((photon_reactants .mozart).2 _ t ht).2 fun w hw _ => halone w hw⟩

/-- **A photon with a coefficient becomes a reactant**, and it is not noted. -/
theorem not_forall_photonFree :
    (∃ s, Sides.read "2 hv + O3".toList "O2".toList = .ok s ∧
      s.stoichiometry.reactants.species = ["hv", "O3"] ∧ s.photon = false) ∧
    ¬∀ reactants products s, Sides.read reactants products = .ok s →
      s.stoichiometry.PhotonFree ∧
        ((∃ t ∈ termTexts reactants, Term.namesPhoton t = true) → s.photon = true) := by
  have hok : (Sides.read "2 hv + O3".toList "O2".toList).toOption.any (fun s =>
      s.stoichiometry.reactants.species = ["hv", "O3"] ∧ s.photon = false) = true := by
    decide +kernel
  obtain ⟨s, hs, hread⟩ := exists_ok_of_any hok
  obtain ⟨hspecies, hphoton⟩ := of_decide_eq_true hread
  refine ⟨⟨s, hs, hspecies, hphoton⟩, ?_⟩
  intro hall
  have hnoted := (hall _ _ s hs).2 (by decide +kernel)
  rw [hphoton] at hnoted
  exact absurd hnoted (by decide)

end AtmosChem
