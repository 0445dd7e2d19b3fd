import AtmosChem.Proofs.SpelledNumbers
import AtmosChem.Proofs.WrittenCalls

/-!
# Rates as they are written

KPP writes a rate as a number or as a call, between two spaces (`padded`).  The form of the rate and
its numbers are found by cuts that know nothing of each other: `of_padded` and `of_callText` say what
the form is, `plainRate?_padded` and `callCoefficients_callText` what the numbers are.

MOZART writes the numbers alone.  Three laws can be written in both formats: a constant, an
Arrhenius rate without a power, and a falloff with the usual broadening (`sameLaw_number`,
`sameLaw_arrhenius`, `sameLaw_troe`).
-/

namespace AtmosChem

open Text

/-! ### Texts without marks -/

/-- The characters that end a number, a list or a rate, and those that no rate has unless it
mentions the sun. -/
def rateMarks : List Char := [',', ';', '!', '(', ')', 'U', 'j']

/-- A text that can stand in a list or a rate. -/
def Plain (s : List Char) : Prop := ∀ c ∈ rateMarks, c ∉ s

/-- Texts that stand for numbers, one by one. -/
def Spells (parts : List (List Char)) (xs : List Float) : Prop :=
  parts.map coefficient? = xs.map some

namespace Spells

variable {parts : List (List Char)} {xs : List Float} (h : Spells parts xs)

include h

theorem exists_of_mem {s : List Char} (hs : s ∈ parts) : ∃ x, coefficient? s = some x := by
  have hm : coefficient? s ∈ xs.map some := h ▸ List.mem_map_of_mem hs
  obtain ⟨x, -, hx⟩ := List.mem_map.1 hm
  exact ⟨x, hx.symm⟩

theorem plain : ∀ s ∈ parts, Plain s := by
  have hno : ∀ c ∈ rateMarks, c ∉ spellingChars := forall_mem_of_all (by decide)
  intro s hs c hc hm
  obtain ⟨x, hx⟩ := h.exists_of_mem hs
  exact hno c hc (mem_spellingChars hx c hm)

theorem filterMap_eq : parts.filterMap coefficient? = xs := by
  have hid : parts.filterMap coefficient? = (parts.map coefficient?).filterMap id := by
    rw [List.filterMap_map, Function.id_comp]
  rw [hid, h, List.filterMap_map, Function.id_comp, List.filterMap_some]

theorem not_mem_commaList {c : Char} (hc : c ∈ rateMarks) (hcomma : c ≠ ',') :
    c ∉ commaList parts := by
  have hspace : c ≠ ' ' := by
    rintro rfl
    exact absurd hc (by decide)
  exact AtmosChem.not_mem_commaList (by simp [hcomma, hspace]) fun s hs => h.plain s hs c hc

/-- No blank of a list of numbers is anything but a space. -/
theorem eq_space_of_isBlank {c : Char} (hc : c ∈ commaList parts) (hb : isBlank c = true) :
    c = ' ' := by
  refine Decidable.byContradiction ?_
  intro hspace
  have hcomma : c ≠ ',' := by
    rintro rfl
    exact absurd hb (by decide)
  refine AtmosChem.not_mem_commaList (by simp [hcomma, hspace]) ?_ hc
  intro s hs hm
  have hspelling : ∀ c ∈ spellingChars, isBlank c = true → c = ' ' :=
    forall_mem_of_all (by decide)
  obtain ⟨x, hx⟩ := h.exists_of_mem hs
  exact hspace (hspelling c (mem_spellingChars hx c hm) hb)

/-- **The numbers of a list** are read, with blanks around it or not. -/
theorem coefficients_eq : coefficients (trimEnd (' ' :: commaList parts)) = xs := by
  have hblank : ∀ c ∈ ' ' :: commaList parts, isBlank c = true → c = ' ' :=
    List.forall_mem_cons.2 ⟨fun _ => rfl, fun _ hc => h.eq_space_of_isBlank hc⟩
  rw [coefficients_congr (withoutSpaces_trimEnd hblank), coefficients_cons_space,
    coefficients_commaList fun s hs => h.plain s hs ',' (by decide), h.filterMap_eq]

end Spells

theorem marksPhotolysis_eq_false {s : List Char} (hU : 'U' ∉ s) (hj : 'j' ∉ s) :
    marksPhotolysis s = false := by
  have hsun : occurs ['S', 'U', 'N'] s = false := occurs_eq_false (c := 'U') (by decide) hU
  have hrate : occurs ['P', 'j', '_'] s = false := occurs_eq_false (c := 'j') (by decide) hj
  rw [marksPhotolysis, photolysisMarks, List.any_cons, List.any_cons, List.any_nil, hsun, hrate]
  rfl

/-- A text between two spaces. -/
def padded (s : List Char) : List Char := [' '] ++ s ++ [' ']

theorem isBlank_of_mem_space : ∀ c ∈ [' '], isBlank c = true := forall_mem_of_all (by decide)

theorem trim_padded (s : List Char) : trim (padded s) = trim s :=
  trim_pad isBlank_of_mem_space isBlank_of_mem_space s

theorem not_mem_padded {c : Char} {s : List Char} (hc : c ≠ ' ') (h : c ∉ s) : c ∉ padded s := by
  simp [padded, hc, h]

/-! ### Plain rates -/

namespace RateForm

/-- Without a parenthesis nothing is called. -/
theorem callName?_of_not_mem {rate : List Char} (h : '(' ∉ rate) : callName? rate = none := by
  rw [callName?]
  refine if_neg ?_
  rw [Bool.and_eq_true, not_and]
  intro _ hopen
  have hmem := List.mem_of_mem_head? (by simpa using hopen)
  have hsuffix : ∀ {p : Char → Bool} {s : List Char}, '(' ∈ s.dropWhile p → '(' ∈ s :=
    fun hm => (List.dropWhile_sublist _).mem hm
  exact h (mem_of_mem_trim (hsuffix (hsuffix (hsuffix (hsuffix hmem)))))

theorem of_padded {s : List Char} (h : Plain s) (photon : Bool) :
    of (padded s) photon = if photon = true then photolysis else plain := by
  have hmark : ∀ c ∈ rateMarks, c ∉ padded s := fun c hc =>
    not_mem_padded (by rintro rfl; exact absurd hc (by decide)) (h c hc)
  rw [of, marksPhotolysis_eq_false (hmark 'U' (by decide)) (hmark 'j' (by decide)),
    callName?_of_not_mem (hmark '(' (by decide)), Bool.or_false]

end RateForm

theorem plainRate?_padded {s : List Char} (h : Plain s) :
    plainRate? (padded s) = coefficient? s := by
  have hfilter : ((padded s).filter fun c => c ≠ '(' && c ≠ ')') = padded s := by
    refine List.filter_eq_self.2 ?_
    intro c hc
    have hopen : c ≠ '(' := by
      rintro rfl
      exact not_mem_padded (by decide) (h '(' (by decide)) hc
    have hclose : c ≠ ')' := by
      rintro rfl
      exact not_mem_padded (by decide) (h ')' (by decide)) hc
    simp [hopen, hclose]
  have hspaces : withoutSpaces (padded s) = withoutSpaces s := by simp [padded, withoutSpaces]
  rw [plainRate?, hfilter, coefficient?_congr hspaces]

/-! ### Calls -/

/-- The call of a function. -/
def callText (name : List Char) (arguments : List (List Char)) : List Char :=
  name ++ '(' :: (commaList arguments ++ [')'])

theorem callText_eq (name : List Char) (arguments : List (List Char)) :
    callText name arguments = callWith name [] (commaList arguments) [] := rfl

theorem not_mem_callText {c : Char} {name : List Char} {arguments : List (List Char)}
    (hc : c ∉ ['(', ')', ',', ' ']) (hname : c ∉ name) (h : ∀ s ∈ arguments, c ∉ s) :
    c ∉ callText name arguments := by
  have hlist : c ∉ commaList arguments := not_mem_commaList (by simp_all) h
  simp_all [callText]

namespace RateForm

section

variable {name : List Char} (hname : isName name = true)

include hname

/-- **A call is recognized** by its name, whatever its arguments are. -/
theorem of_callText {arguments : List (List Char)} (hmarks : Plain name)
    (h : ∀ s ∈ arguments, Plain s) (photon : Bool) :
    of (padded (callText name arguments)) photon =
      if photon = true then photolysis else ofName (String.ofList name) := by
  have hU : 'U' ∉ padded (callText name arguments) :=
    not_mem_padded (by decide) (not_mem_callText (by decide) (hmarks 'U' (by decide))
      fun s hs => h s hs 'U' (by decide))
  have hj : 'j' ∉ padded (callText name arguments) :=
    not_mem_padded (by decide) (not_mem_callText (by decide) (hmarks 'j' (by decide))
      fun s hs => h s hs 'j' (by decide))
  have hcall : callName? (padded (callText name arguments)) = some (String.ofList name) := by
    rw [callName?_congr (trim_padded _), callText_eq, callName?_callWith hname isBlank_of_mem_nil]
  rw [of, marksPhotolysis_eq_false hU hj, hcall, Bool.or_false]

end

end RateForm

/-- **The numbers of a call** are those of its arguments. -/
theorem callCoefficients_callText {name : List Char} (hname : RateForm.isName name = true)
    {arguments : List (List Char)} (h : ∀ s ∈ arguments, Plain s) :
    callCoefficients (padded (callText name arguments)) = arguments.filterMap coefficient? := by
  have hclose : ')' ∉ commaList arguments :=
    not_mem_commaList (by decide) fun s hs => h s hs ')' (by decide)
  have harguments :
      callArguments (padded (callText name arguments)) = some (commaList arguments) := by
    rw [callArguments_congr (trim_padded _), callText_eq,
      callArguments_callWith hname isBlank_of_mem_nil hclose]
  rw [callCoefficients, harguments, Option.elim_some,
    coefficients_commaList fun s hs => h s hs ',' (by decide)]

/-! ### Laws of both formats -/

/-- Whether a rate of KPP and the coefficients of MOZART have the same law, with products or
without, with a photon or not. -/
def SameLaw (rate : List Char) (cs : List Float) : Prop :=
  ∀ photon hasProducts, ∃ law, classifyExpression (padded rate) photon hasProducts = .single law ∧
    classifyCoefficients cs photon hasProducts = .single law

theorem sameLaw_number {s : List Char} {a : Float} (h : Spells [s] [a]) : SameLaw s [a] := by
  have hplain : Plain s := h.plain s List.mem_cons_self
  have hs : coefficient? s = some a := (List.cons.inj h).1
  intro photon hasProducts
  rw [classifyExpression, RateForm.of_padded hplain]
  -- with a photon neither format looks at the number
  cases photon with
  | true => exact ⟨_, rfl, rfl⟩
  | false =>
    have hrate : classifyPlain (padded s) hasProducts =
        .single (if hasProducts then .arrhenius (.constant a) else .firstOrderLoss a) := by
      rw [classifyPlain, plainRate?_padded hplain, hs]
    refine ⟨_, hrate, ?_⟩
    cases hasProducts <;> rfl

/-- A call of a family and coefficients that have the family's law. -/
theorem sameLaw_callText {name : List Char} {arguments : List (List Char)} {family : Family}
    {law : RateLaw Float} {cs : List Float} (hname : RateForm.isName name = true)
    (hmarks : Plain name) (harguments : ∀ s ∈ arguments, Plain s)
    (hform : RateForm.ofName (String.ofList name) = .call family)
    (hlaw : family.law? (arguments.filterMap coefficient?) = some law)
    (hcs : ∀ hasProducts, classifyCoefficients cs false hasProducts = .single law) :
    SameLaw (callText name arguments) cs := by
  intro photon hasProducts
  rw [classifyExpression, RateForm.of_callText hname hmarks harguments, hform]
  cases photon with
  | true => exact ⟨_, rfl, rfl⟩
  | false =>
    refine ⟨law, ?_, hcs hasProducts⟩
    change family.classify (callCoefficients (padded (callText name arguments))) = .single law
    rw [callCoefficients_callText hname harguments, Family.classify, hlaw]

/-- The name of an Arrhenius rate without a power. -/
def arrheniusName : List Char := ['A', 'R', 'R', '_', 'a', 'b']

/-- The name of a falloff. -/
def troeName : List Char := ['T', 'R', 'O', 'E']

/-- What KPP writes for the temperature and for the density of air. -/
def placeholders : List (List Char) := [['T', 'E', 'M', 'P'], ['C', '_', 'M']]

/-- The broadening factor that KPP leaves out. -/
def broadeningText : List Char := ['0', '.', '6']

theorem filterMap_placeholders : placeholders.filterMap coefficient? = [] := by rfl

theorem coefficient?_broadeningText : coefficient? broadeningText = some 0.6 := by rfl

/-- The temperature dependence changes its sign. -/
theorem sameLaw_arrhenius {x y : List Char} {a b : Float} (h : Spells [x, y] [a, b]) :
    SameLaw (callText arrheniusName [x, y]) [a, -b] := by
  have hlaw : Family.law? .arrheniusAb ([x, y].filterMap coefficient?) =
      some (.arrhenius { Arrhenius.constant a with activation := -b }) := by
    rw [h.filterMap_eq]
    rfl
  exact sameLaw_callText (by decide) (forall_mem_of_all (by decide)) h.plain (by decide) hlaw
    fun _ => rfl

theorem plain_of_mem_append_placeholders {parts : List (List Char)} {xs : List Float}
    (h : Spells parts xs) : ∀ s ∈ parts ++ placeholders, Plain s := by
  have hno : ∀ c ∈ rateMarks, c ∉ placeholders.flatten := forall_mem_of_all (by decide)
  intro s hs
  rcases List.mem_append.1 hs with hs | hs
  · exact h.plain s hs
  · intro c hc hm
    exact hno c hc (List.mem_flatten_of_mem hs hm)

/-- The temperature and the density are left out, and the broadening factor is written. -/
theorem sameLaw_troe {k n q m : List Char} {k₀ n₀ kInf m₀ : Float}
    (h : Spells [k, n, q, m] [k₀, n₀, kInf, m₀]) :
    SameLaw (callText troeName ([k, n, q, m] ++ placeholders)) [k₀, n₀, kInf, m₀, 0.6] := by
  have hplain := plain_of_mem_append_placeholders h
  have hlaw : Family.law? .troe (([k, n, q, m] ++ placeholders).filterMap coefficient?) =
      some (Family.troeLaw k₀ n₀ kInf m₀) := by
    rw [List.filterMap_append, h.filterMap_eq, filterMap_placeholders, List.append_nil]
    rfl
  exact sameLaw_callText (by decide) (forall_mem_of_all (by decide)) hplain (by decide) hlaw
    fun _ => rfl

end AtmosChem
