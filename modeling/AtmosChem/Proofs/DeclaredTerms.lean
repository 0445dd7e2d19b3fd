import AtmosChem.Proofs.MozartPieces
import AtmosChem.Proofs.WrittenTerms

/-!
# Declarations and equations read names alike

A text that declares a species may hold braces and blanks, and so may a term that uses the species.
The one is rid of them before it becomes a name; the other is, before its coefficient is split off
at the first letter and its end is trimmed once more.  Both come to the same name.

* `Format.name_of_declaration`: the name that a text declares is the text without its braces and
  outer blanks, in both formats.
* `exists_termTexts_useOf`: the same text with an amount in front of it is one term with this name.
* `Sides.read_declared`: so a species is used under the name under which it is declared.
-/

namespace AtmosChem

open Text

theorem strip_trimStart (s : List Char) : strip (trimStart s) = strip s := by
  obtain ⟨lead, hl, he⟩ := exists_eq_trimStart s
  have h := strip_pad hl isBlank_of_mem_nil (trimStart s)
  rw [List.append_nil, ← he] at h
  exact h.symm

theorem strip_trim (s : List Char) : strip (trim s) = strip s := by
  obtain ⟨lead, trail, hl, ht, he⟩ := exists_eq_trim s
  have h := strip_pad hl ht (trim s)
  rw [← he] at h
  exact h.symm

/-! ### Declarations -/

/-- A text as a declaration: on a line of its own for KPP, as an entry for MOZART. -/
def Format.declarationOf : Format → List Char → List Char
  | kpp, d => d ++ " = IGNORE ;".toList
  | mozart, d => d

theorem Kpp.name_of_declaration {role : Role} {d : List Char} {s : Species} (hequals : '=' ∉ d)
    (hs : s ∈ Kpp.species role [Format.kpp.declarationOf d]) :
    s.name = String.ofList (strip d) := by
  obtain ⟨name, hname, rfl⟩ := List.mem_map.1 hs
  obtain ⟨line, hline, rfl⟩ := List.mem_map.1 (List.mem_filter.1 hname).1
  obtain ⟨given, hgiven, rfl⟩ := List.mem_map.1 hline
  obtain rfl := List.mem_singleton.1 (List.mem_filter.1 hgiven).1
  have hd : '=' ∉ trimStart (d ++ [' ']) := by
    obtain ⟨lead, -, he⟩ := exists_eq_trimStart (d ++ [' '])
    intro hm
    have hmem : '=' ∈ d ++ [' '] := by
      rw [he]
      exact List.mem_append_right lead hm
    simp [hequals] at hmem
  have hline : Format.kpp.declarationOf d = (d ++ [' ']) ++ '=' :: " IGNORE ;".toList := by
    simp [Format.declarationOf]
  have hpad : strip ([] ++ d ++ [' ']) = strip d :=
    strip_pad isBlank_of_mem_nil (forall_mem_of_all (by decide)) d
  rw [declaredName, hline, trim_append_cons (by decide), before_append hd, strip_trimStart]
  exact congrArg String.ofList hpad

theorem Mozart.name_of_declaration {role : Role} {d : List Char} {s : Species} (hcomma : ',' ∉ d)
    (harrow : occurs arrow d = false) (hs : s ∈ Mozart.species role [d]) :
    s.name = String.ofList (strip d) := by
  obtain ⟨declaration, hdeclaration, rfl⟩ := List.mem_map.1 hs
  obtain ⟨entry, hentry, rfl⟩ := List.mem_map.1 (List.mem_filter.1 hdeclaration).1
  obtain ⟨part, hpart, rfl⟩ := List.mem_map.1 (List.mem_filter.1 hentry).1
  rw [List.flatMap_singleton, splitOn_of_not_mem hcomma, List.mem_singleton] at hpart
  have hcut : cutAtWord ['-', '>'] (trim d) = none :=
    occurs_eq_false_iff.1 ((occurs_arrow_trim d).trans harrow)
  rw [hpart, declared, hcut, ← strip_trim d]

/-- **The name that a text declares** is the text without its braces and outer blanks. -/
theorem Format.name_of_declaration {f : Format} {role : Role} {d : List Char} {s : Species}
    (hequals : '=' ∉ d) (hcomma : ',' ∉ d) (harrow : occurs ['-', '>'] d = false)
    (hs : s ∈ f.species role [f.declarationOf d]) : s.name = String.ofList (strip d) := by
  cases f with
  | kpp => exact Kpp.name_of_declaration hequals hs
  | mozart => exact Mozart.name_of_declaration hcomma harrow hs

/-! ### Uses -/

/-- A text with an amount in front of it, or without; the amount may have a plus sign. -/
def useOf (plus : Bool) (amount : Option WrittenAmount) (d : List Char) : List Char :=
  (if plus then ['+'] else []) ++ (amount.elim [] WrittenAmount.text ++ d)

theorem withoutBraces_append (a b : List Char) :
    withoutBraces (a ++ b) = withoutBraces a ++ withoutBraces b := List.filter_append a b

theorem not_mem_withoutBraces {c : Char} (h : c ∈ ['\x7b', '\x7d']) (s : List Char) :
    c ∉ withoutBraces s := by
  have hall : ∀ c ∈ ['\x7b', '\x7d'], (c ≠ '\x7b' && c ≠ '\x7d') = false :=
    forall_mem_of_all (by decide)
  intro hm
  have hkept := (List.mem_filter.1 hm).2
  rw [hall c h] at hkept
  exact absurd hkept (by decide)

theorem withoutBraces_amount (a : WrittenAmount) : withoutBraces a.text = a.text := by
  have hnot : ∀ c, isAmountChar c = false → isBlank c = false → c ∉ a.text := by
    intro c ha hb hc
    rcases WrittenAmount.mem_text hc with h | h
    · rw [ha] at h
      exact absurd h (by decide)
    · rw [hb] at h
      exact absurd h (by decide)
  exact withoutBraces_of_not_mem (hnot _ (by decide) (by decide)) (hnot _ (by decide) (by decide))

/-- An amount with more blanks after it. -/
def WrittenAmount.widen (a : WrittenAmount) {blanks : List Char}
    (h : ∀ c ∈ blanks, isBlank c = true) : WrittenAmount where
  digits := a.digits
  value := a.value
  starred := a.starred
  gap := a.gap ++ blanks
  digits_plain := a.digits_plain
  read_digits := a.read_digits
  isAmount_value := a.isAmount_value
  gap_blank := fun c hc => (List.mem_append.1 hc).elim (a.gap_blank c) (h c)

/-- **A text with an amount in front of it is a written term**, braces aside: the blanks between the
two belong to the amount. -/
theorem exists_writtenTerm (amount : Option WrittenAmount) {d : List Char}
    (hhead : (strip d).head?.any isAlphabetic = true) (hplus : '+' ∉ strip d) :
    ∃ t : WrittenTerm, withoutBraces (amount.elim [] WrittenAmount.text ++ d) = t.text ∧
      t.species = strip d ∧ t.value = amount.elim 1.0 WrittenAmount.value ∧
      t.amount.isNone = amount.isNone := by
  obtain ⟨lead, trail, hl, ht, he⟩ := exists_eq_trim (withoutBraces d)
  have hplain : ∀ c ∈ ['+', '\x7b', '\x7d'], c ∉ strip d := by
    intro c hc
    rcases List.mem_cons.1 hc with rfl | hc
    · exact hplus
    · exact fun hm => not_mem_withoutBraces hc d (mem_of_mem_trim hm)
  have hlast : ∀ c ∈ (strip d).getLast?, isBlank c = false := (tight_trim _).last
  cases amount with
  | none =>
    let t : WrittenTerm := ⟨lead, none, strip d, trail, hl, ht, hhead, hlast, hplain⟩
    exact ⟨t, he, rfl, rfl, rfl⟩
  | some a =>
    let t : WrittenTerm :=
      ⟨[], some (a.widen hl), strip d, trail, isBlank_of_mem_nil, ht, hhead, hlast, hplain⟩
    refine ⟨t, ?_, rfl, rfl, rfl⟩
    have htext : t.text = (a.digits ++ a.star ++ (a.gap ++ lead) ++ strip d) ++ trail := rfl
    rw [Option.elim, withoutBraces_append, withoutBraces_amount, he, htext, WrittenAmount.text]
    simp only [List.append_assoc]
    rfl

/-- **Such a text is one term**, with the name that the text declares. -/
theorem exists_termTexts_useOf (plus : Bool) (amount : Option WrittenAmount) {d : List Char}
    (hhead : (strip d).head?.any isAlphabetic = true) (hplus : '+' ∉ strip d) :
    ∃ t : WrittenTerm, termTexts (useOf plus amount d) = [t.body] ∧ t.species = strip d ∧
      t.value = amount.elim 1.0 WrittenAmount.value ∧ t.amount.isNone = amount.isNone := by
  obtain ⟨t, htext, hspecies, hvalue, hamount⟩ := exists_writtenTerm amount hhead hplus
  refine ⟨t, ?_, hspecies, hvalue, hamount⟩
  have hno : '+' ∉ amount.elim [] WrittenAmount.text ++ d := by
    intro hm
    refine t.plus_not_mem_text ?_
    rw [← htext]
    exact List.mem_filter.2 ⟨hm, by decide⟩
  have hstrip : strip (amount.elim [] WrittenAmount.text ++ d) = t.body := by
    rw [strip, htext, WrittenTerm.text, trim_pad t.lead_blank t.trail_blank,
      trim_of_tight t.tight_body]
  have hterm : termTexts (amount.elim [] WrittenAmount.text ++ d) = [t.body] := by
    rw [termTexts_of_not_mem hno, hstrip, if_neg t.body_ne_nil]
  cases plus with
  | false => exact hterm
  | true =>
    have h := termTexts_append_plus [] (amount.elim [] WrittenAmount.text ++ d)
    rw [termTexts_nil, hterm] at h
    exact h

/-! ### Sides with one term -/

theorem Amounts.addTerms_append (as : Amounts) (ts us : List (List Char)) :
    as.addTerms (ts ++ us) = (as.addTerms ts).bind fun bs => bs.addTerms us := by
  induction ts generalizing as with
  | nil => rfl
  | cons t ts ih =>
    rw [List.cons_append, addTerms, addTerms]
    cases Term.read t with
    | error e => rfl
    | ok term => exact ih _

theorem Amounts.addTerms_singleton (as : Amounts) (t : WrittenTerm) :
    as.addTerms [t.body] = .ok (as.add t.name t.value) := by
  simp only [addTerms, t.read_body]

theorem Sides.read_product {w : List Char} {t : WrittenTerm} (h : termTexts w = [t.body])
    (reactants : List Char) :
    Sides.read reactants w = (Sides.read reactants []).map fun sides =>
      { sides with stoichiometry.products := [(t.name, 0.0 + t.value)] } := by
  simp only [Sides.read, h, termTexts_nil, Amounts.addTerms_singleton]
  cases Amounts.addTerms [] ((termTexts reactants).filter fun t => !isPhoton t) <;> rfl

theorem Sides.read_reactant {w : List Char} {t : WrittenTerm} (h : termTexts w = [t.body])
    (products : List Char) :
    Sides.read w products = (Sides.read [] products).map fun sides =>
      if t.isPhoton then { sides with photon := true }
      else { sides with stoichiometry.reactants := [(t.name, 0.0 + t.value)] } := by
  cases hp : t.isPhoton with
  | true =>
    simp only [Sides.read, h, termTexts_nil, List.filter_cons, List.any_cons, t.isPhoton_body, hp]
    cases Amounts.addTerms [] (termTexts products) <;> rfl
  | false =>
    have hone : Amounts.addTerms [] [t.body] = .ok [(t.name, 0.0 + t.value)] :=
      Amounts.addTerms_singleton [] t
    simp only [Sides.read, h, termTexts_nil, List.filter_cons, List.any_cons, t.isPhoton_body, hp]
    simp only [Bool.not_false, if_true, List.filter_nil, hone]
    cases Amounts.addTerms [] (termTexts products) <;> rfl

/-- Nothing on the left gives no reactants. -/
theorem Sides.reactants_of_read_nil {products : List Char} {sides : Sides}
    (h : Sides.read [] products = .ok sides) : sides.stoichiometry.reactants = [] := by
  rw [Sides.read, termTexts_nil] at h
  obtain ⟨rs, hrs, h⟩ := exists_of_bind h
  obtain ⟨ps, -, h⟩ := exists_of_bind h
  rw [← Except.ok.inj h]
  exact (Except.ok.inj hrs).symm

/-- All that is read from one term is its species, on either side; the photon gives nothing. -/
theorem Sides.eq_of_mem_species {w other : List Char} {t : WrittenTerm}
    (h : termTexts w = [t.body]) {sides : Sides} {name : String} :
    (Sides.read other w = .ok sides → name ∈ sides.stoichiometry.products.species →
      name = t.name) ∧
    (Sides.read w other = .ok sides → name ∈ sides.stoichiometry.reactants.species →
      name = t.name) := by
  constructor
  · intro hread hn
    rw [Sides.read_product h] at hread
    obtain ⟨rest, -, rfl⟩ := exists_of_map hread
    exact List.mem_singleton.1 hn
  · intro hread hn
    rw [Sides.read_reactant h] at hread
    obtain ⟨rest, hrest, rfl⟩ := exists_of_map hread
    cases hp : t.isPhoton with
    | true =>
      rw [hp, if_pos rfl] at hn
      have hnone := reactants_of_read_nil hrest
      simp [Amounts.species, hnone] at hn
    | false =>
      rw [hp, if_neg (by decide)] at hn
      exact List.mem_singleton.1 hn

/-! ### Declared species in equations -/

/-- A declared species is not reported. -/
theorem Mechanism.not_mem_undeclared {m : Mechanism} {s : Species} (h : s ∈ m.species) :
    s.name ∉ m.undeclared := by
  intro hu
  exact (mem_firstUses.1 hu).2 (List.mem_map_of_mem h)

/-- **A species is used under the name under which it is declared.**  Let a text without an equals
sign, a comma or an arrow declare one species, by a name that begins with a letter and has no plus
sign.  Then this text, with an amount in front of it or without,

* is the one product of an equation, if it is all that stands on the right;
* is the one reactant, if it is all that stands on the left, unless the name is that of the photon;
* adds its amount to that of the species, wherever it stands in a sum;

and what is read from it is never reported as undeclared if the species is in the mechanism. -/
theorem Sides.read_declared {f : Format} {role : Role} {d : List Char} {s : Species}
    (hequals : '=' ∉ d) (hcomma : ',' ∉ d) (harrow : occurs ['-', '>'] d = false)
    (hs : f.species role [f.declarationOf d] = [s])
    (hhead : s.name.toList.head?.any isAlphabetic = true) (hplus : '+' ∉ s.name.toList)
    (plus : Bool) (amount : Option WrittenAmount) :
    (∀ reactants, Sides.read reactants (useOf plus amount d) =
      (Sides.read reactants []).map fun sides =>
        { sides with stoichiometry.products :=
            [(s.name, 0.0 + amount.elim 1.0 WrittenAmount.value)] }) ∧
    (isPhoton s.name.toList = false → ∀ products, Sides.read (useOf plus amount d) products =
      (Sides.read [] products).map fun sides =>
        { sides with stoichiometry.reactants :=
            [(s.name, 0.0 + amount.elim 1.0 WrittenAmount.value)] }) ∧
    (∀ (as : Amounts) (before after : List Char),
      as.addTerms (termTexts (before ++ '+' :: (useOf plus amount d ++ '+' :: after))) =
        (as.addTerms (termTexts before)).bind fun bs =>
          (bs.add s.name (amount.elim 1.0 WrittenAmount.value)).addTerms (termTexts after)) ∧
    ∀ m : Mechanism, s ∈ m.species → ∀ (other : List Char) (sides : Sides),
      (Sides.read other (useOf plus amount d) = .ok sides →
        ∀ name ∈ sides.stoichiometry.products.species, name ∉ m.undeclared) ∧
      (Sides.read (useOf plus amount d) other = .ok sides →
        ∀ name ∈ sides.stoichiometry.reactants.species, name ∉ m.undeclared) := by
  have hname : s.name = String.ofList (strip d) :=
    Format.name_of_declaration hequals hcomma harrow (hs ▸ List.mem_singleton_self s)
  rw [hname, String.toList_ofList] at hhead hplus
  obtain ⟨t, hterms, hspecies, hvalue, -⟩ := exists_termTexts_useOf plus amount hhead hplus
  have htname : t.name = s.name := by rw [WrittenTerm.name, hspecies, hname]
  have hproduct := Sides.read_product hterms
  have hreactant := Sides.read_reactant hterms
  have hadd := fun as : Amounts => as.addTerms_singleton t
  simp only [htname, hvalue] at hproduct hreactant hadd
  refine ⟨hproduct, ?_, ?_, ?_⟩
  · intro hno
    have hphoton : t.isPhoton = false := by
      have htight : Tight (strip d) := tight_trim _
      rw [hname, String.toList_ofList, isPhoton, trim_of_tight htight] at hno
      rw [WrittenTerm.isPhoton, hspecies, hno, Bool.and_false]
    simpa only [hphoton, Bool.false_eq_true, if_false] using hreactant
  · intro as before after
    rw [termTexts_append_plus, termTexts_append_plus, hterms, Amounts.addTerms_append]
    congr 1
    funext bs
    rw [Amounts.addTerms_append, hadd]
    rfl
  · intro m hm other sides
    have hdeclared := Mechanism.not_mem_undeclared hm
    rw [← htname] at hdeclared
    constructor
    · intro h name hn
      rw [(Sides.eq_of_mem_species hterms).1 h hn]
      exact hdeclared
    · intro h name hn
      rw [(Sides.eq_of_mem_species hterms).2 h hn]
      exact hdeclared

/-- `2.50*` with a wide blank after it. -/
def twoAndAHalf : WrittenAmount where
  digits := "2.50".toList
  value := 2.5
  starred := true
  gap := ['\u2003']
  digits_plain := forall_mem_of_all (by decide)
  read_digits := by decide +kernel
  isAmount_value := by decide +kernel
  gap_blank := forall_mem_of_all (by decide)

/-- `O3`, with braces and blanks of several kinds in and around it. -/
def bracedOzone : List Char := "\u3000\x7b O\x7d3\x7b\x7d\u00a0".toList

def ozone (role : Role) : Species := ⟨"O3", role, none⟩

theorem read_declared_bracedOzone :
    Format.kpp.species .fixed [Format.kpp.declarationOf bracedOzone] = [ozone .fixed] ∧
    Format.mozart.species .fixed [bracedOzone] = [ozone .fixed] ∧
    (∀ reactants, Sides.read reactants (useOf true (some twoAndAHalf) bracedOzone) =
      (Sides.read reactants []).map fun sides =>
        { sides with stoichiometry.products := [("O3", 0.0 + 2.5)] }) ∧
    (∀ products, Sides.read (useOf false none bracedOzone) products =
      (Sides.read [] products).map fun sides =>
        { sides with stoichiometry.reactants := [("O3", 0.0 + 1.0)] }) := by
  have hkpp : Format.kpp.species .fixed [Format.kpp.declarationOf bracedOzone] =
      [ozone .fixed] := by rfl
  have hmozart : Format.mozart.species .fixed [bracedOzone] = [ozone .fixed] := by rfl
  have hequals : '=' ∉ bracedOzone := by decide
  have hcomma : ',' ∉ bracedOzone := by decide
  have harrow : occurs ['-', '>'] bracedOzone = false := by decide
  have hhead : (ozone .fixed).name.toList.head?.any isAlphabetic = true := by decide +kernel
  have hplus : '+' ∉ (ozone .fixed).name.toList := by decide
  exact ⟨hkpp, hmozart,
    (Sides.read_declared hequals hcomma harrow hkpp hhead hplus true (some twoAndAHalf)).1,
    (Sides.read_declared (f := .mozart) hequals hcomma harrow hmozart hhead hplus false none).2.1
      (by decide)⟩

end AtmosChem
