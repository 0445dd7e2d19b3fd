import AtmosChem.Proofs.KppLines
import AtmosChem.Proofs.ReactionRecords

/-!
# Lines without a label

A line of KPP need not have a label; then its equation is named after its place.  But labels and
species may both stand in braces, and a line is cut before its species are known.  What decides is
the first reactant alone: in braces it is the label of the line, whatever it was meant for, and
without braces the line has no label, whatever the other reactants look like.

`WrittenSpecies` is a species on the left of such a line, `unlabelledLine` the line.

* `cutLabel?_bare`, `cutLabel?_braced`: what is taken for the label.
* `translateLine_unlabelled`: a line keeps all its reactants, in any order, if the first one is bare.
-/

namespace AtmosChem

open Text

/-! ### Written species -/

/-- The characters that no name of a species on a line has. -/
def nameMarks : List Char := ['+', '=', '>', '\x7b', '\x7d']

/-- A species as it is written among reactants: blanks, its name with or without braces around it,
blanks.  A name begins with a letter and is not that of the photon. -/
structure WrittenSpecies where
  lead : List Char
  name : List Char
  braced : Bool
  trail : List Char
  lead_blank : ∀ c ∈ lead, isBlank c = true
  trail_blank : ∀ c ∈ trail, isBlank c = true
  name_head : name.head?.any isAlphabetic = true
  name_last : ∀ c ∈ name.getLast?, isBlank c = false
  name_plain : ∀ c ∈ nameMarks, c ∉ name
  name_photon : isPhoton name = false

namespace WrittenSpecies

def opening (u : WrittenSpecies) : List Char := if u.braced then ['\x7b'] else []

def closing (u : WrittenSpecies) : List Char := if u.braced then ['\x7d'] else []

def text (u : WrittenSpecies) : List Char :=
  u.lead ++ u.opening ++ u.name ++ u.closing ++ u.trail

def species (u : WrittenSpecies) : String := String.ofList u.name

def term (u : WrittenSpecies) : WrittenTerm where
  lead := u.lead
  amount := none
  species := u.name
  trail := u.trail
  lead_blank := u.lead_blank
  trail_blank := u.trail_blank
  species_head := u.name_head
  species_last := u.name_last
  species_plain := by
    have hmarks : ∀ c ∈ ['+', '\x7b', '\x7d'], c ∈ nameMarks := forall_mem_of_all (by decide)
    exact fun c hc => u.name_plain c (hmarks c hc)

theorem body_term (u : WrittenSpecies) : u.term.body = u.name := rfl

theorem text_term (u : WrittenSpecies) : u.term.text = u.lead ++ u.name ++ u.trail := rfl

/-- **A written species is found in its text**, with braces as without. -/
theorem strip_text (u : WrittenSpecies) : strip u.text = u.name := by
  have hbraces : withoutBraces u.text = withoutBraces u.term.text := by
    rw [text, opening, closing, text_term]
    cases u.braced <;> simp [withoutBraces]
  rw [strip, hbraces, ← strip, u.term.strip_text, body_term]

theorem name_ne_nil (u : WrittenSpecies) : u.name ≠ [] := u.term.body_ne_nil

theorem tight_name (u : WrittenSpecies) : Tight u.name := u.term.tight_body

theorem read_name (u : WrittenSpecies) : Term.read u.name = .ok ⟨1.0, u.species⟩ :=
  u.term.read_body

theorem not_mem_text {u : WrittenSpecies} {c : Char} (hopen : c ∉ u.opening)
    (hclose : c ∉ u.closing) (hblank : isBlank c = false) (hname : c ∉ u.name) : c ∉ u.text := by
  simp only [text, List.mem_append, not_or]
  exact ⟨⟨⟨⟨not_mem_of_blanks u.lead_blank hblank, hopen⟩, hname⟩, hclose⟩,
    not_mem_of_blanks u.trail_blank hblank⟩

theorem not_mem_braces {u : WrittenSpecies} {c : Char} (h : c ∉ ['\x7b', '\x7d']) :
    c ∉ u.opening ∧ c ∉ u.closing := by
  rw [opening, closing]
  cases u.braced
  · simp
  · simpa using h

theorem mark_not_mem_text (u : WrittenSpecies) {c : Char} (h : c ∈ ['+', '=', '>']) :
    c ∉ u.text := by
  have hmarks : ∀ d ∈ ['+', '=', '>'], d ∉ ['\x7b', '\x7d'] ∧ isBlank d = false ∧ d ∈ nameMarks :=
    forall_mem_of_all (by decide)
  obtain ⟨hbrace, hblank, hname⟩ := hmarks c h
  obtain ⟨hopen, hclose⟩ := not_mem_braces (u := u) hbrace
  exact not_mem_text hopen hclose hblank (u.name_plain c hname)

theorem text_of_braced (u : WrittenSpecies) (h : u.braced = true) :
    u.text = (u.lead ++ '\x7b' :: u.name) ++ '\x7d' :: u.trail := by
  simp [text, opening, closing, h]

theorem closing_not_mem_opened (u : WrittenSpecies) : '\x7d' ∉ u.lead ++ '\x7b' :: u.name := by
  rw [List.mem_append, List.mem_cons, not_or, not_or]
  exact ⟨not_mem_of_blanks u.lead_blank (by decide), by decide, u.name_plain _ (by decide)⟩

end WrittenSpecies

/-! ### Their texts between plus signs -/

def speciesSum (us : List WrittenSpecies) : List Char :=
  ['+'].intercalate (us.map WrittenSpecies.text)

theorem termTexts_speciesSum (us : List WrittenSpecies) :
    termTexts (speciesSum us) = us.map WrittenSpecies.name := by
  have hone (u : WrittenSpecies) : termTexts u.text = [u.name] := by
    rw [termTexts_of_not_mem (u.mark_not_mem_text (by decide)), u.strip_text, if_neg u.name_ne_nil]
  simp only [speciesSum, termTexts_intercalate, List.flatMap_map, hone]
  exact List.map_eq_flatMap.symm

theorem equals_not_mem_speciesSum (us : List WrittenSpecies) : '=' ∉ speciesSum us := by
  refine not_mem_intercalate (by decide) ?_
  intro s hs
  obtain ⟨u, -, rfl⟩ := List.mem_map.1 hs
  exact u.mark_not_mem_text (by decide)

theorem before_speciesSum (u : WrittenSpecies) (us : List WrittenSpecies) :
    before '+' (speciesSum (u :: us)) = u.text :=
  before_intercalate_cons (u.mark_not_mem_text (by decide)) _

theorem exists_speciesSum_cons (u : WrittenSpecies) (us : List WrittenSpecies) :
    ∃ rest, speciesSum (u :: us) = u.text ++ rest ∧
      termTexts (u.trail ++ rest) = us.map WrittenSpecies.name := by
  cases us with
  | nil =>
    refine ⟨[], ?_, ?_⟩
    · rw [speciesSum, List.map_singleton, List.intercalate_singleton, List.append_nil]
    · rw [List.append_nil, termTexts_of_blanks u.trail_blank, List.map_nil]
  | cons v us =>
    refine ⟨'+' :: speciesSum (v :: us), ?_, ?_⟩
    · rw [speciesSum, List.map_cons, List.map_cons, List.intercalate_cons_cons, List.append_assoc]
      rfl
    · rw [termTexts_append_plus, termTexts_of_blanks u.trail_blank, termTexts_speciesSum,
        List.nil_append]

/-! ### What they add up to -/

namespace Amounts

/-- One of each species. -/
def ofSpecies (us : List WrittenSpecies) : Amounts := us.map fun u => (u.species, 1.0)

theorem add_of_not_mem {s : String} {as : Amounts} (h : s ∉ as.species) (x : Float) :
    as.add s x = as ++ [(s, 0.0 + x)] := by
  induction as with
  | nil => rfl
  | cons a as ih =>
    rw [species, List.map_cons, List.mem_cons, not_or] at h
    rw [add, if_neg (Ne.symm h.1), ih h.2, List.cons_append]

/-- **Species that are written once** have an amount of one, in the order in which they stand. -/
theorem addTerms_names {as : Amounts} {us : List WrittenSpecies}
    (h : (as.species ++ us.map WrittenSpecies.species).Nodup) :
    addTerms as (us.map WrittenSpecies.name) = .ok (as ++ ofSpecies us) := by
  have hone : (0.0 + 1.0 : Float) = 1.0 := by decide +kernel
  induction us generalizing as with
  | nil => rw [ofSpecies, List.map_nil, List.map_nil, addTerms, List.append_nil]
  | cons u us ih =>
    have hnew : u.species ∉ as.species := by
      intro hm
      rw [List.nodup_append] at h
      exact h.2.2 _ hm _ (List.mem_map_of_mem List.mem_cons_self) rfl
    have hrest : (species (as ++ [(u.species, 1.0)]) ++ us.map WrittenSpecies.species).Nodup := by
      simpa [species] using h
    simp only [List.map_cons, addTerms, u.read_name, add_of_not_mem hnew, hone]
    rw [ih hrest, List.append_assoc]
    rfl

end Amounts

theorem not_isPhoton_of_mem_names {us : List WrittenSpecies} {t : List Char}
    (h : t ∈ us.map WrittenSpecies.name) : isPhoton t = false := by
  obtain ⟨u, -, rfl⟩ := List.mem_map.1 h
  exact u.name_photon

theorem read_species {left right : List Char} {us : List WrittenSpecies} {ps : Amounts}
    (hleft : termTexts left = us.map WrittenSpecies.name)
    (hdistinct : (us.map WrittenSpecies.species).Nodup)
    (hright : Amounts.addTerms [] (termTexts right) = .ok ps) :
    Sides.read left right = .ok ⟨⟨.ofSpecies us, ps⟩, false⟩ := by
  have hkept : (us.map WrittenSpecies.name).filter (fun t => !isPhoton t) =
      us.map WrittenSpecies.name := by
    refine List.filter_eq_self.2 ?_
    intro t ht
    rw [not_isPhoton_of_mem_names ht]
    rfl
  have hnone : (us.map WrittenSpecies.name).any isPhoton = false :=
    List.any_eq_false.2 fun t ht => by rw [not_isPhoton_of_mem_names ht]; decide
  have hsum := @Amounts.addTerms_names [] us hdistinct
  rw [List.nil_append] at hsum
  simp only [Sides.read, hleft, hkept, hnone, hsum, hright]
  rfl

/-! ### Labels -/

namespace Kpp

/-- **A bare species in front is no label.** -/
theorem cutLabel?_bare {u : WrittenSpecies} (hu : u.braced = false) (us : List WrittenSpecies) :
    cutLabel? (speciesSum (u :: us)) = none := by
  have hbrace : '\x7d' ∉ u.text := by
    refine WrittenSpecies.not_mem_text ?_ ?_ (by decide) (u.name_plain _ (by decide))
    · simp [WrittenSpecies.opening, hu]
    · simp [WrittenSpecies.closing, hu]
  rw [cutLabel?, before_speciesSum, if_neg (u.mark_not_mem_text (by decide)), if_neg hbrace]

theorem trim_filter_opened (u : WrittenSpecies) :
    trim ((u.lead ++ '\x7b' :: u.name).filter fun c => c ≠ '\x7b') = u.name := by
  have hlead : '\x7b' ∉ u.lead := not_mem_of_blanks u.lead_blank (by decide)
  have hname : '\x7b' ∉ u.name := u.name_plain _ (by decide)
  have hpad := trim_pad u.lead_blank isBlank_of_mem_nil u.name
  rw [List.append_nil] at hpad
  rw [List.filter_append, filter_ne_eq_self hlead, List.filter_cons, if_neg (by decide),
    filter_ne_eq_self hname, hpad, trim_of_tight u.tight_name]

/-- **A species in braces in front is the label**, and no reactant. -/
theorem cutLabel?_braced {u : WrittenSpecies} (hu : u.braced = true) (us : List WrittenSpecies) :
    ∃ rest, cutLabel? (speciesSum (u :: us)) = some (u.name, rest) ∧
      termTexts rest = us.map WrittenSpecies.name := by
  have hclosed : '\x7d' ∈ u.text := by simp [u.text_of_braced hu]
  obtain ⟨rest, hsum, hrest⟩ := exists_speciesSum_cons u us
  have hcut : cutAt '\x7d' (speciesSum (u :: us)) =
      some (u.lead ++ '\x7b' :: u.name, u.trail ++ rest) := by
    rw [hsum, u.text_of_braced hu, List.append_assoc, List.cons_append,
      cutAt_append u.closing_not_mem_opened]
  refine ⟨u.trail ++ rest, ?_, hrest⟩
  rw [cutLabel?, before_speciesSum, if_neg (u.mark_not_mem_text (by decide)), if_pos hclosed, hcut,
    Option.map_some, trim_filter_opened]

/-! ### Lines -/

/-- A line with some species on its left, and no label in front of them. -/
def unlabelledLine (us : List WrittenSpecies) (products tail : List Char) : List Char :=
  speciesSum us ++ '=' :: (products ++ ':' :: tail)

theorem outcome_unlabelledLine {us vs : List WrittenSpecies} {label rest products tail : List Char}
    {ps : Amounts} {index : Nat} (hproducts : ':' ∉ products)
    (hps : Amounts.addTerms [] (termTexts products) = .ok ps)
    (hlabel : (cutLabel? (speciesSum us)).getD (generatedLabel index, speciesSum us) = (label, rest))
    (hrest : termTexts rest = vs.map WrittenSpecies.name)
    (hdistinct : (vs.map WrittenSpecies.species).Nodup) :
    (translateLine index (unlabelledLine us products tail)).outcome =
      .ok (.ofRate (String.ofList label) ⟨.ofSpecies vs, ps⟩
        (classifyExpression (before ';' tail) false !ps.isEmpty)) := by
  have hcut : Parts.cut index (unlabelledLine us products tail) =
      .ok ⟨label, rest, products, before ';' tail⟩ := by
    simp only [Parts.cut, unlabelledLine, cutAt_append (equals_not_mem_speciesSum us),
      cutAt_append hproducts, hlabel]
  have hsides := read_species hrest hdistinct hps
  rw [outcome_translateLine, readEquation, hcut]
  show Except.map _ (Parts.equation _) = _
  rw [Parts.equation, hsides]
  rfl

/-- **A line without a label keeps all its reactants**, in any order, if the first one is bare: one
of each, under the label of its place, with the same products and the same rate.  If the first
one is in braces, it is the label, and the others are the reactants. -/
theorem translateLine_unlabelled (index : Nat) {names : List String} (hnames : names.Nodup)
    {products : List Char} (hproducts : ':' ∉ products) {ps : Amounts}
    (hps : Amounts.addTerms [] (termTexts products) = .ok ps) (tail : List Char)
    (u : WrittenSpecies) (us : List WrittenSpecies)
    (hperm : ((u :: us).map WrittenSpecies.species).Perm names) :
    (u.braced = false →
      (translateLine index (unlabelledLine (u :: us) products tail)).outcome =
        .ok (.ofRate (String.ofList (generatedLabel index)) ⟨.ofSpecies (u :: us), ps⟩
          (classifyExpression (before ';' tail) false !ps.isEmpty)) ∧
      (Amounts.ofSpecies (u :: us)).Perm (names.map fun s => (s, 1.0))) ∧
    (u.braced = true →
      (translateLine index (unlabelledLine (u :: us) products tail)).outcome =
        .ok (.ofRate u.species ⟨.ofSpecies us, ps⟩
          (classifyExpression (before ';' tail) false !ps.isEmpty))) := by
  have hdistinct : ((u :: us).map WrittenSpecies.species).Nodup := hperm.nodup_iff.2 hnames
  -- the first reactant decides; the braces of the others are gone before a term is read
  constructor
  · intro hu
    constructor
    · refine outcome_unlabelledLine hproducts hps ?_ (termTexts_speciesSum (u :: us)) hdistinct
      rw [cutLabel?_bare hu, Option.getD_none]
    · have hones := hperm.map fun s => (s, (1.0 : Float))
      rwa [List.map_map] at hones
  · intro hu
    obtain ⟨rest, hcut, hrest⟩ := cutLabel?_braced hu us
    rw [List.map_cons, List.nodup_cons] at hdistinct
    refine outcome_unlabelledLine hproducts hps ?_ hrest hdistinct.2
    rw [hcut, Option.getD_some]

theorem isBlank_of_mem_space : ∀ c ∈ [' '], isBlank c = true := forall_mem_of_all (by decide)

def nitrate (braced : Bool) : WrittenSpecies where
  lead := []
  name := ['N', 'O', '3']
  braced := braced
  trail := [' ']
  lead_blank := isBlank_of_mem_nil
  trail_blank := isBlank_of_mem_space
  name_head := by decide +kernel
  name_last := by
    rintro c ⟨⟩
    decide
  name_plain := forall_mem_of_all (by decide)
  name_photon := rfl

def hydroperoxyl (braced : Bool) : WrittenSpecies where
  lead := [' ']
  name := ['H', 'O', '2']
  braced := braced
  trail := [' ']
  lead_blank := isBlank_of_mem_space
  trail_blank := isBlank_of_mem_space
  name_head := by decide +kernel
  name_last := by
    rintro c ⟨⟩
    decide
  name_plain := forall_mem_of_all (by decide)
  name_photon := rfl

def nitricAcid : Amounts := [("HNO3", 0.0 + 1.0)]

theorem translateLine_unlabelled_nitrate :
    (translateLine 4 "NO3 + \x7bHO2\x7d = HNO3 : 1.0 ;".toList).outcome =
      .ok ⟨[⟨"R4", .arrhenius (.constant 1.0), ⟨[("NO3", 1.0), ("HO2", 1.0)], nitricAcid⟩⟩], []⟩ ∧
    (translateLine 4 " HO2 +NO3 = HNO3 : 1.0 ;".toList).outcome =
      .ok ⟨[⟨"R4", .arrhenius (.constant 1.0), ⟨[("HO2", 1.0), ("NO3", 1.0)], nitricAcid⟩⟩], []⟩ := by
  have hnames : ["NO3", "HO2"].Nodup := by decide
  have hcolon : ':' ∉ " HNO3 ".toList := by decide
  have hps : Amounts.addTerms [] (termTexts " HNO3 ".toList) = .ok nitricAcid := rfl
  have hline₁ : unlabelledLine [nitrate false, hydroperoxyl true] " HNO3 ".toList " 1.0 ;".toList =
      "NO3 + \x7bHO2\x7d = HNO3 : 1.0 ;".toList := by decide
  have hline₂ : unlabelledLine [hydroperoxyl false, nitrate false] " HNO3 ".toList " 1.0 ;".toList =
      " HO2 +NO3 = HNO3 : 1.0 ;".toList := by decide
  have h₁ := (translateLine_unlabelled 4 hnames hcolon hps " 1.0 ;".toList
    (nitrate false) [hydroperoxyl true] (by decide)).1 rfl
  have h₂ := (translateLine_unlabelled 4 hnames hcolon hps " 1.0 ;".toList
    (hydroperoxyl false) [nitrate false] (by decide)).1 rfl
  rw [hline₁] at h₁
  rw [hline₂] at h₂
  exact ⟨h₁.1, h₂.1⟩

/-- **A first reactant in braces is lost as a reactant**: it is taken for the label. -/
theorem not_forall_unlabelled :
    (translateLine 4 "\x7bNO3\x7d + HO2 = HNO3 : 1.0 ;".toList).outcome =
      .ok ⟨[⟨"NO3", .arrhenius (.constant 1.0), ⟨[("HO2", 0.0 + 1.0)], nitricAcid⟩⟩], []⟩ ∧
    ¬∀ (index : Nat) (us : List WrittenSpecies) (products tail : List Char) (t : Translation),
      us ≠ [] → (us.map WrittenSpecies.species).Nodup →
      (translateLine index (unlabelledLine us products tail)).outcome = .ok t →
      ∀ r ∈ t.reactions, r.stoichiometry.reactants.species.Perm (us.map WrittenSpecies.species) := by
  have hlost : (translateLine 4 "\x7bNO3\x7d + HO2 = HNO3 : 1.0 ;".toList).outcome =
      .ok ⟨[⟨"NO3", .arrhenius (.constant 1.0), ⟨[("HO2", 0.0 + 1.0)], nitricAcid⟩⟩], []⟩ := rfl
  refine ⟨hlost, ?_⟩
  intro hall
  have hline : unlabelledLine [nitrate true, hydroperoxyl false] " HNO3 ".toList " 1.0 ;".toList =
      "\x7bNO3\x7d + HO2 = HNO3 : 1.0 ;".toList := by decide
  rw [← hline] at hlost
  have hkept := hall 4 _ _ _ _ (List.cons_ne_nil _ _) (by decide) hlost _ List.mem_cons_self
  exact absurd hkept.length_eq (by decide)

end Kpp

end AtmosChem
