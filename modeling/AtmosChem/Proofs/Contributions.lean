import AtmosChem.Proofs.MozartHeadings

/-!
# What each equation contributes

Every equation of a section contributes one thing: a reaction under its label, a pair of reactions
under its label, or its label alone (`Contribution`).  A translation is the contributions of the
equations, one after the other, so that no equation is lost, duplicated or reordered.

For KPP the equations are the lines that hold something; for MOZART they are the arrow lines.

* `translate_contributions`: what the equations of a section contribute is what becomes of it.
-/

namespace AtmosChem

open Text

/-! ### Contributions -/

/-- What an equation contributes. -/
inductive Contribution
  /-- One reaction, named by the label. -/
  | reaction (label : String) (law : RateLaw Float) (sides : Stoichiometry)
  /-- Two reactions with the same sides, named by the label and their place. -/
  | pair (label : String) (first second : RateLaw Float) (sides : Stoichiometry)
  /-- No reaction; the label is kept. -/
  | rejected (label : String)

namespace Contribution

/-- The label of the equation that contributes. -/
def label : Contribution → String
  | reaction label .. => label
  | pair label .. => label
  | rejected label => label

/-- The reactions contributed. -/
def reactions : Contribution → List Reaction
  | reaction label law sides => [⟨label, law, sides⟩]
  | pair label first second sides =>
    [⟨label ++ "_first_term", first, sides⟩, ⟨label ++ "_second_term", second, sides⟩]
  | rejected _ => []

/-- The label contributed, if the rate is unknown. -/
def unknowns : Contribution → List String
  | reaction .. => []
  | pair .. => []
  | rejected label => [label]

/-- Whether two reactions are contributed. -/
def isPair : Contribution → Bool
  | reaction .. => false
  | pair .. => true
  | rejected _ => false

/-- A contribution alone. -/
def translation (c : Contribution) : Translation := ⟨c.reactions, c.unknowns⟩

end Contribution

/-- Contributions make up a translation if it is theirs, one after the other. -/
structure MakeUp (cs : List Contribution) (t : Translation) : Prop where
  reactions : t.reactions = cs.flatMap Contribution.reactions
  unknowns : t.unknowns = cs.flatMap Contribution.unknowns

theorem makeUp_foldr (cs : List Contribution) :
    MakeUp cs ((cs.map Contribution.translation).foldr Translation.merge Translation.empty) := by
  induction cs with
  | nil => exact ⟨rfl, rfl⟩
  | cons c cs ih =>
    refine ⟨?_, ?_⟩
    · rw [List.flatMap_cons, ← ih.reactions]
      rfl
    · rw [List.flatMap_cons, ← ih.unknowns]
      rfl

namespace Equation

/-- What an equation contributes. -/
def contribution (e : Equation) : Contribution :=
  match e.rate with
  | .single law => .reaction e.label law e.sides.stoichiometry
  | .pair first second => .pair e.label first second e.sides.stoichiometry
  | .unknown _ => .rejected e.label

theorem label_contribution (e : Equation) : e.contribution.label = e.label := by
  rw [contribution]
  cases e.rate <;> rfl

theorem translation_contribution (e : Equation) : e.contribution.translation = e.translation := by
  rw [contribution, translation]
  cases e.rate <;> rfl

theorem isPair_contribution {e : Equation} (h : ∀ first second, e.rate ≠ .pair first second) :
    e.contribution.isPair = false := by
  rw [contribution]
  cases hr : e.rate with
  | single law => rfl
  | pair first second => exact absurd hr (h first second)
  | unknown reason => rfl

end Equation

/-- **A translation is made up** of what its equations contribute, whatever they are read from. -/
theorem Translation.exists_contributions {α : Type} {xs : List α}
    {read : α → Except Failure Equation} {label : α → String} {t : Translation}
    (hlabel : ∀ x e, read x = .ok e → e.label = label x)
    (h : (ofEquations (xs.map read)).outcome = .ok t) :
    ∃ cs : List Contribution,
      cs.map Contribution.label = xs.map label ∧
      xs.map (fun x => (read x).map Equation.translation) = cs.map (fun c => .ok c.translation) ∧
      (∀ c ∈ cs, ∃ x e, read x = .ok e ∧ c = e.contribution) ∧
      MakeUp cs t := by
  obtain ⟨es, hes, ht⟩ := outcome_ofEquations_eq_ok_iff.1 h
  have htranslation : es.map Equation.translation =
      (es.map Equation.contribution).map Contribution.translation := by
    rw [List.map_map]
    exact List.map_congr_left fun e _ => e.translation_contribution.symm
  refine ⟨es.map Equation.contribution, ?_, ?_, ?_, ?_⟩
  · rw [List.map_map]
    refine (map_eq_map_of_ok hes fun x e he => ?_).symm
    exact (e.label_contribution.trans (hlabel x e he)).symm
  · rw [List.map_map]
    refine map_eq_map_of_ok hes ?_
    intro x e he
    rw [he]
    exact congrArg Except.ok e.translation_contribution.symm
  · intro c hc
    obtain ⟨e, he, rfl⟩ := List.mem_map.1 hc
    have hmem : (.ok e : Except Failure Equation) ∈ xs.map read := by
      rw [hes]
      exact List.mem_map_of_mem he
    obtain ⟨x, -, hx⟩ := List.mem_map.1 hmem
    exact ⟨x, e, hx, rfl⟩
  · rw [ht, htranslation]
    exact makeUp_foldr _

/-! ### KPP -/

namespace Kpp

/-- The label of the line at some place. -/
def labelOf (index : Nat) (line : List Char) : List Char :=
  ((cutLabel? (before '=' line)).map Prod.fst).getD (generatedLabel index)

theorem label_of_cut {index : Nat} {line : List Char} {p : Parts}
    (h : Parts.cut index line = .ok p) : p.label = labelOf index line := by
  rw [Parts.cut] at h
  cases he : cutAt '=' line with
  | none => simp [he] at h
  | some lr =>
    obtain ⟨left, right⟩ := lr
    cases hc : cutAt ':' right with
    | none => simp [he, hc] at h
    | some pt =>
      simp only [he, hc, Except.ok.injEq] at h
      have hleft : before '=' line = left := by rw [before, he]; rfl
      rw [← h, labelOf, hleft]
      cases cutLabel? left <;> rfl

theorem label_of_readEquation {index : Nat} {line : List Char} {e : Equation}
    (h : readEquation index line = .ok e) : e.label = String.ofList (labelOf index line) := by
  obtain ⟨p, hp, he⟩ := exists_of_bind h
  obtain ⟨sides, -, hs⟩ := exists_of_bind he
  rw [← Except.ok.inj hs, ← label_of_cut hp]

/-- **Every line contributes** what it becomes on its own. -/
theorem exists_contributions {lines : List (List Char)} {t : Translation}
    (h : (translate lines).outcome = .ok t) :
    ∃ cs : List Contribution,
      cs.map Contribution.label =
        (numbered lines).map (fun p => String.ofList (labelOf p.2 p.1)) ∧
      (numbered lines).map (fun p => (translateLine p.2 p.1).outcome) =
        cs.map (fun c => .ok c.translation) ∧
      MakeUp cs t := by
  rw [translate_eq] at h
  have hlabel : ∀ (p : List Char × Nat) e, readEquation p.2 p.1 = .ok e →
      e.label = String.ofList (labelOf p.2 p.1) := by
    intro p e he
    exact label_of_readEquation he
  obtain ⟨cs, hlabels, hlines, -, hmake⟩ := Translation.exists_contributions hlabel h
  refine ⟨cs, hlabels, ?_, hmake⟩
  simp only [outcome_translateLine]
  exact hlines

end Kpp

/-! ### MOZART -/

/-- The coefficients of MOZART never stand for a sum of two laws. -/
theorem classify_ne_pair (family : Family) (cs : List Float) (first second : RateLaw Float) :
    family.classify cs ≠ .pair first second := by
  rw [Family.classify]
  cases family.law? cs <;> simp

theorem classifyCoefficients_ne_pair (cs : List Float) (photon hasProducts : Bool)
    (first second : RateLaw Float) :
    classifyCoefficients cs photon hasProducts ≠ .pair first second := by
  unfold classifyCoefficients
  split
  · exact nofun
  · split
    · exact nofun
    · split
      · exact classify_ne_pair _ _ first second
      · exact nofun
    · exact classify_ne_pair _ _ first second
    · exact classify_ne_pair _ _ first second
    · exact nofun

namespace Mozart

theorem SubEquation.of_equation_eq_ok {s : SubEquation} {e : Equation} (h : s.equation = .ok e) :
    e.label = String.ofList s.label ∧ ∀ first second, e.rate ≠ .pair first second := by
  obtain ⟨sides, -, hs⟩ := exists_of_bind h
  rw [← Except.ok.inj hs]
  exact ⟨rfl, classifyCoefficients_ne_pair _ _ _⟩

/-- **Every arrow line contributes** one reaction or its label. -/
theorem exists_contributions {lines : List (List Char)} {t : Translation}
    (h : (translate lines).outcome = .ok t) :
    ∃ (es : List SubEquation) (cs : List Contribution),
      collect lines = .ok es ∧
      es.map SubEquation.label = labels none 0 (sectionPieces lines) ∧
      es.map SubEquation.reactants = ((lines.map clean).filter isArrowLine).map leftOf ∧
      cs.map Contribution.label = es.map (fun e => String.ofList e.label) ∧
      es.map (fun e => e.equation.map Equation.translation) =
        cs.map (fun c => .ok c.translation) ∧
      (∀ c ∈ cs, c.isPair = false) ∧
      MakeUp cs t := by
  cases hc : collect lines with
  | error e => simp [translate, hc] at h
  | ok ss =>
    simp only [translate, hc] at h
    obtain ⟨hlabels, hlefts⟩ := headings_collect hc
    obtain ⟨cs, hcs, hequations, hread, hmake⟩ := Translation.exists_contributions
      (fun _ _ he => (SubEquation.of_equation_eq_ok he).1) h
    refine ⟨ss, cs, rfl, hlabels, hlefts, hcs, hequations, ?_, hmake⟩
    intro c hc
    obtain ⟨s, e, hs, rfl⟩ := hread c hc
    exact Equation.isPair_contribution (SubEquation.of_equation_eq_ok hs).2

end Mozart

/-! ### Both formats -/

/-- **What becomes of a section is what its equations contribute**, one after the other.  For KPP
these are the lines that hold something, each contributing what it becomes on its own; the section
fails if one of them fails on its own, and as the first of these does.  For MOZART they are the
arrow lines, and none of them contributes a pair. -/
theorem translate_contributions :
    (∀ lines t, (Kpp.translate lines).outcome = .ok t →
      ∃ cs : List Contribution,
        cs.map Contribution.label =
          (Kpp.numbered lines).map (fun p => String.ofList (Kpp.labelOf p.2 p.1)) ∧
        (Kpp.numbered lines).map (fun p => (Kpp.translateLine p.2 p.1).outcome) =
          cs.map (fun c => .ok c.translation) ∧
        MakeUp cs t) ∧
    (∀ lines, (∃ e, (Kpp.translate lines).outcome = .error e) ↔
      ∃ p ∈ Kpp.numbered lines, ∃ e, (Kpp.translateLine p.2 p.1).outcome = .error e) ∧
    (∀ lines e, (Kpp.translate lines).outcome = .error e ↔
      (Kpp.numbered lines).findSome? (fun p => failure? (Kpp.translateLine p.2 p.1).outcome) =
        some e) ∧
    (∀ lines t, (Mozart.translate lines).outcome = .ok t →
      ∃ (es : List Mozart.SubEquation) (cs : List Contribution),
        Mozart.collect lines = .ok es ∧
        es.map Mozart.SubEquation.label = Mozart.labels none 0 (Mozart.sectionPieces lines) ∧
        es.map Mozart.SubEquation.reactants =
          ((lines.map Mozart.clean).filter Mozart.isArrowLine).map Mozart.leftOf ∧
        cs.map Contribution.label = es.map (fun e => String.ofList e.label) ∧
        es.map (fun e => e.equation.map Equation.translation) =
          cs.map (fun c => .ok c.translation) ∧
        (∀ c ∈ cs, c.isPair = false) ∧
        MakeUp cs t) := by
  refine ⟨?_, Kpp.exists_error_iff, ?_, ?_⟩
  · intro lines t h
    exact Kpp.exists_contributions h
  · intro lines e
    exact Kpp.outcome_translate_eq_error_iff
  · intro lines t h
    exact Mozart.exists_contributions h

/-- One `NO` gives one `O3`. -/
def sampleSides : Stoichiometry := ⟨[("NO", 0.0 + 1.0)], [("O3", 0.0 + 1.0)]⟩

/-- A section of KPP with a comment and one equation of each kind. -/
def kppLines : List (List Char) :=
  ["// one of each".toList, "NO=O3:SUN;".toList, "<b>NO=O3:f(1);".toList,
    "<c>NO=O3:k45(1);".toList]

/-- What becomes of it. -/
def kppTranslation : Translation where
  reactions := [
    ⟨"R1", .photolysis, sampleSides⟩,
    ⟨"c_first_term", .arrhenius { Arrhenius.constant 2.4e-14 with activation := 460.0 },
      sampleSides⟩,
    ⟨"c_second_term",
      .troe {
        low := { factor := 6.5e-34, power := 0.0, activation := 1335.0 }
        high := { factor := 2.7e-17, power := 0.0, activation := 2199.0 }
        broadening := 1.0
        width := 0.0 },
      sampleSides⟩]
  unknowns := ["b"]

/-- A section of MOZART whose second equation has no coefficients. -/
def mozartLines : List (List Char) := ["[a] NO+hv -> O3".toList, "O -> O3".toList]

/-- What becomes of it. -/
def mozartTranslation : Translation where
  reactions := [⟨"a (1)", .photolysis, sampleSides⟩]
  unknowns := ["a (2)"]

/-- The equations of both sections, and a section of KPP that fails on its second line. -/
theorem translate_kppLines_mozartLines :
    (Kpp.translate kppLines).outcome = .ok kppTranslation ∧
    (∃ cs, cs.map Contribution.label = ["R1", "b", "c"] ∧ MakeUp cs kppTranslation) ∧
    (Kpp.translate ["NO=O3:SUN;".toList, "NO".toList]).outcome =
      .error (.missingSeparator .equals "NO") ∧
    (Mozart.translate mozartLines).outcome = .ok mozartTranslation ∧
    (∃ cs, cs.map Contribution.label = ["a (1)", "a (2)"] ∧ (∀ c ∈ cs, c.isPair = false) ∧
      MakeUp cs mozartTranslation) := by
  have hkpp : (Kpp.translate kppLines).outcome = .ok kppTranslation := rfl
  have hmozart : (Mozart.translate mozartLines).outcome = .ok mozartTranslation := rfl
  obtain ⟨hok, -, herror, harrows⟩ := translate_contributions
  refine ⟨hkpp, ?_, ?_, hmozart, ?_⟩
  · obtain ⟨cs, hlabels, -, hmake⟩ := hok kppLines kppTranslation hkpp
    exact ⟨cs, hlabels.trans (by decide +kernel), hmake⟩
  · exact (herror _ _).2 rfl
  · obtain ⟨es, cs, -, hes, -, hcs, -, hpair, hmake⟩ := harrows _ _ hmozart
    refine ⟨cs, ?_, hpair, hmake⟩
    have hlabels := congrArg (List.map String.ofList) hes
    rw [List.map_map] at hlabels
    exact hcs.trans (hlabels.trans (by decide +kernel))

end AtmosChem
