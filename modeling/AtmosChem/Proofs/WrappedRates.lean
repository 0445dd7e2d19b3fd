import AtmosChem.Proofs.RateTable
import AtmosChem.Proofs.SpelledNumbers

/-!
# Calls between parentheses

A call may stand between parentheses.  The reader of its name takes off all opening parentheses that
stand together, and one stretch of blanks behind them; the reader of its arguments takes off one
pair.  So they agree on no pair and on one, and on two pairs and more the arguments are looked for
behind the second parenthesis: the first of them then has the name in front of it, and is no number
any more.

* `wrap`: a text between pairs of parentheses, with blanks anywhere between them.
* `callName?_wrap`, `callName?_wrap_of_not_adjacent`: the name.
* `callCoefficients_wrap`, `callCoefficients_wrap_wrap`: the numbers.
* `classifyExpression_wrapped`: **when parentheses make no difference.**
-/

namespace AtmosChem

open Text

/-! ### Parentheses and blanks -/

/-- Blanks before and after a text. -/
structure Padding where
  lead : List Char
  trail : List Char
  lead_blank : ∀ c ∈ lead, isBlank c = true
  trail_blank : ∀ c ∈ trail, isBlank c = true

/-- A text with blanks around it. -/
def Padding.around (p : Padding) (s : List Char) : List Char := p.lead ++ s ++ p.trail

/-- A text between pairs of parentheses: blanks around all of them, and blanks inside each pair, the
outermost first. -/
def wrap (p : Padding) : List Padding → List Char → List Char
  | [], s => p.around s
  | q :: qs, s => p.around ('(' :: (wrap q qs s ++ [')']))

/-- Whether no blanks stand between the opening parentheses, given the blanks inside each pair.  The
innermost blanks stand behind the last of them. -/
def Adjacent : List Padding → Prop
  | [] => True
  | [_] => True
  | q :: r :: qs => q.lead = [] ∧ Adjacent (r :: qs)

theorem adjacent_of_length_le {qs : List Padding} (h : qs.length ≤ 1) : Adjacent qs := by
  match qs, h with
  | [], _ => trivial
  | [_], _ => trivial

theorem trim_around (p : Padding) (s : List Char) : trim (p.around s) = trim s :=
  trim_pad p.lead_blank p.trail_blank s

theorem trim_wrap_cons (p q : Padding) (qs : List Padding) (s : List Char) :
    trim (wrap p (q :: qs) s) = '(' :: (wrap q qs s ++ [')']) := by
  have htight : Tight ('(' :: (wrap q qs s ++ [')'])) := by
    constructor
    · rintro c ⟨⟩
      decide
    · rw [← List.cons_append, List.getLast?_concat]
      rintro c ⟨⟩
      decide
  rw [wrap, trim_around, trim_of_tight htight]

theorem marksPhotolysis_wrap (p : Padding) (qs : List Padding) (s : List Char) :
    marksPhotolysis (wrap p qs s) = marksPhotolysis s := by
  have hblank : ∀ (p : Padding) (s : List Char),
      marksPhotolysis (p.around s) = marksPhotolysis s := fun p s =>
    marksPhotolysis_pad (fun c hc => not_mem_sunChars_of_isBlank (p.lead_blank c hc))
      (fun c hc => not_mem_sunChars_of_isBlank (p.trail_blank c hc)) s
  have hopen : ∀ c ∈ ['('], c ∉ sunChars := forall_mem_of_all (by decide)
  have hclose : ∀ c ∈ [')'], c ∉ sunChars := forall_mem_of_all (by decide)
  have hpair : ∀ s : List Char, marksPhotolysis ('(' :: (s ++ [')'])) = marksPhotolysis s :=
    marksPhotolysis_pad hopen hclose
  induction qs generalizing p with
  | nil => exact hblank p s
  | cons q qs ih => rw [wrap, hblank, hpair, ih]

theorem photolytic_wrap_iff {p : Padding} {qs : List Padding} {s : List Char} {photon : Bool} :
    Photolytic (wrap p qs s) photon ↔ Photolytic s photon := by
  rw [photolytic_iff, photolytic_iff, marksPhotolysis_wrap]

/-- Opening parentheses that stand together, up to the blanks behind the last one. -/
theorem exists_wrap_eq_of_adjacent {q : Padding} {qs : List Padding} (h : Adjacent (q :: qs))
    (s : List Char) :
    ∃ lead rest, (∀ c ∈ lead, isBlank c = true) ∧
      wrap q qs s = List.replicate qs.length '(' ++ (lead ++ (s ++ rest)) := by
  induction qs generalizing q with
  | nil => exact ⟨q.lead, q.trail, q.lead_blank, List.append_assoc _ _ _⟩
  | cons r rs ih =>
    obtain ⟨hq, hrest⟩ := h
    obtain ⟨lead, rest, hlead, he⟩ := ih hrest
    refine ⟨lead, rest ++ ')' :: q.trail, hlead, ?_⟩
    rw [wrap, Padding.around, hq, he, List.length_cons, List.replicate_succ]
    simp

/-- Opening parentheses up to the first blanks between them. -/
theorem exists_wrap_eq_of_not_adjacent {q : Padding} {qs : List Padding}
    (h : ¬Adjacent (q :: qs)) (s : List Char) :
    ∃ n lead rest, (∀ c ∈ lead, isBlank c = true) ∧ lead ≠ [] ∧
      wrap q qs s = List.replicate n '(' ++ (lead ++ '(' :: rest) := by
  induction qs generalizing q with
  | nil => exact absurd trivial h
  | cons r rs ih =>
    by_cases hq : q.lead = []
    · have hrest : ¬Adjacent (r :: rs) := fun hr => h ⟨hq, hr⟩
      obtain ⟨n, lead, rest, hlead, hne, he⟩ := ih hrest
      refine ⟨n + 1, lead, rest ++ ')' :: q.trail, hlead, hne, ?_⟩
      rw [wrap, Padding.around, hq, he, List.replicate_succ]
      simp
    · refine ⟨0, q.lead, wrap r rs s ++ ')' :: q.trail, q.lead_blank, hq, ?_⟩
      rw [wrap, Padding.around]
      simp

/-! ### The name of a call between parentheses -/

/-- A call whose arguments have no parentheses. -/
structure WrittenCall where
  name : List Char
  gap : List Char
  arguments : List Char
  isName_name : RateForm.isName name = true
  gap_blank : ∀ c ∈ gap, isBlank c = true
  not_mem_arguments : ∀ c ∈ ['(', ')'], c ∉ arguments

namespace WrittenCall

variable (c : WrittenCall)

/-- A call as a text. -/
def text : List Char := callWith c.name c.gap c.arguments []

theorem callName?_text : RateForm.callName? c.text = some (String.ofList c.name) :=
  callName?_callWith c.isName_name c.gap_blank c.arguments []

theorem callArguments_text : callArguments c.text = some c.arguments :=
  callArguments_callWith c.isName_name c.gap_blank (c.not_mem_arguments ')' (by decide)) []

theorem callCoefficients_text : callCoefficients c.text = coefficients c.arguments :=
  callCoefficients_callWith c.isName_name c.gap_blank (c.not_mem_arguments ')' (by decide)) []

theorem calls_of_eq {rate lead rest : List Char} {n : Nat} (hlead : ∀ c ∈ lead, isBlank c = true)
    (h : trim rate = List.replicate n '(' ++ (lead ++ (c.text ++ rest))) :
    RateForm.Calls rate (String.ofList c.name) := by
  refine ⟨by rw [String.toList_ofList]; exact c.isName_name, n, lead, c.gap,
    c.arguments ++ ')' :: rest, hlead, c.gap_blank, ?_⟩
  rw [h, text, callWith, String.toList_ofList]
  simp

/-- **The name is found** behind opening parentheses that stand together. -/
theorem callName?_wrap (p : Padding) {qs : List Padding} (h : Adjacent qs) :
    RateForm.callName? (wrap p qs c.text) = some (String.ofList c.name) := by
  cases qs with
  | nil => rw [wrap, RateForm.callName?_congr (trim_around p c.text), c.callName?_text]
  | cons q qs =>
    obtain ⟨lead, rest, hlead, he⟩ := exists_wrap_eq_of_adjacent h c.text
    have htext : trim (wrap p (q :: qs) c.text) =
        List.replicate (qs.length + 1) '(' ++ (lead ++ (c.text ++ (rest ++ [')']))) := by
      rw [trim_wrap_cons, he, List.replicate_succ]
      simp
    exact RateForm.callName?_of_calls (c.calls_of_eq hlead htext)

/-- **No name is found** if there are blanks between opening parentheses. -/
theorem callName?_wrap_of_not_adjacent (p : Padding) {qs : List Padding} (h : ¬Adjacent qs) :
    RateForm.callName? (wrap p qs c.text) = none := by
  cases qs with
  | nil => exact absurd trivial h
  | cons q qs =>
    obtain ⟨n, lead, rest, hlead, hne, he⟩ := exists_wrap_eq_of_not_adjacent h c.text
    have htext : trim (wrap p (q :: qs) c.text) =
        List.replicate (n + 1) '(' ++ (lead ++ '(' :: (rest ++ [')'])) := by
      rw [trim_wrap_cons, he, List.replicate_succ]
      simp
    rw [RateForm.callName?_eq, htext, RateForm.inside_append_blanks hlead hne]
    rfl

/-! ### Its arguments -/

/-- One pair of parentheses is taken off before the arguments are looked for. -/
theorem callArguments_wrap_cons (p q : Padding) (qs : List Padding) (s : List Char) :
    callArguments (wrap p (q :: qs) s) = (cutAt '(' (wrap q qs s)).map fun r => before ')' r.2 := by
  rw [callArguments, trim_wrap_cons, unwrapOnce, if_pos List.getLast?_concat, List.dropLast_concat]

/-- **The arguments are found** in a call without parentheses around it or with one pair. -/
theorem callArguments_wrap (p : Padding) {qs : List Padding} (h : qs.length ≤ 1) :
    callArguments (wrap p qs c.text) = some c.arguments := by
  cases qs with
  | nil => rw [wrap, callArguments_congr (trim_around p c.text), c.callArguments_text]
  | cons q qs =>
    obtain rfl : qs = [] := List.length_eq_zero_iff.1 (by simpa using h)
    have hlead : '(' ∉ q.lead := not_mem_of_blanks q.lead_blank (by decide)
    have hfront : '(' ∉ q.lead ++ (c.name ++ c.gap) := by
      rw [List.mem_append, not_or]
      exact ⟨hlead, parenthesis_not_mem_front c.isName_name c.gap_blank⟩
    have htext : wrap q [] c.text =
        (q.lead ++ (c.name ++ c.gap)) ++ '(' :: (c.arguments ++ ')' :: q.trail) := by
      simp [wrap, Padding.around, text, callWith]
    rw [callArguments_wrap_cons, htext, cutAt_append hfront, Option.map_some,
      before_append (c.not_mem_arguments ')' (by decide))]

/-- The text between parentheses up to the first closing one. -/
theorem exists_before_wrap (q : Padding) (qs : List Padding) :
    ∃ front, ',' ∉ front ∧ ∀ s,
      before ')' (wrap q qs c.text ++ s) = front ++ '(' :: c.arguments := by
  have hlead : ∀ q : Padding, ',' ∉ q.lead ∧ ')' ∉ q.lead := fun q =>
    ⟨not_mem_of_blanks q.lead_blank (by decide), not_mem_of_blanks q.lead_blank (by decide)⟩
  induction qs generalizing q with
  | nil =>
    have hname : ',' ∉ c.name ∧ ')' ∉ c.name :=
      ⟨RateForm.not_mem_name c.isName_name (by decide),
        RateForm.not_mem_name c.isName_name (by decide)⟩
    have hgap : ',' ∉ c.gap ∧ ')' ∉ c.gap :=
      ⟨not_mem_of_blanks c.gap_blank (by decide), not_mem_of_blanks c.gap_blank (by decide)⟩
    refine ⟨q.lead ++ (c.name ++ c.gap), by simp [hlead q, hname, hgap], ?_⟩
    intro s
    have hclose : ')' ∉ q.lead ++ (c.name ++ c.gap) ++ '(' :: c.arguments := by
      simp [hlead q, hname, hgap, c.not_mem_arguments ')' (by decide)]
    have htext : wrap q [] c.text ++ s =
        (q.lead ++ (c.name ++ c.gap) ++ '(' :: c.arguments) ++ ')' :: (q.trail ++ s) := by
      simp [wrap, Padding.around, text, callWith]
    rw [htext, before_append hclose]
  | cons r rs ih =>
    obtain ⟨front, hfront, he⟩ := ih r
    refine ⟨q.lead ++ '(' :: front, by simp [hlead q, hfront], ?_⟩
    intro s
    have hclose : ')' ∉ q.lead ++ ['('] := by simp [hlead q]
    have htext : wrap q (r :: rs) c.text ++ s =
        (q.lead ++ ['(']) ++ (wrap r rs c.text ++ ')' :: (q.trail ++ s)) := by
      simp [wrap, Padding.around]
    rw [htext, before_append_of_not_mem hclose, he]
    simp

end WrittenCall

/-! ### Lists without their first part -/

/-- What follows the first comma. -/
def afterFirst (s : List Char) : List Char := ((cutAt ',' s).map Prod.snd).getD []

/-- The first part of a list, and the others. -/
theorem coefficients_eq_append (s : List Char) :
    coefficients s = (coefficient? (before ',' s)).toList ++ coefficients (afterFirst s) := by
  cases h : cutAt ',' s with
  | none =>
    have hs := cutAt_eq_none_iff.1 h
    have hnil : coefficients [] = [] := by rfl
    rw [coefficients_of_not_mem hs, before_of_not_mem hs, afterFirst, h, Option.map_none,
      Option.getD_none, hnil, List.append_nil]
  | some r =>
    obtain ⟨a, b⟩ := r
    rw [before, afterFirst, h, eq_append_of_cutAt h, coefficients_append_comma (not_mem_of_cutAt h)]
    rfl

/-- A part with a parenthesis in it is no number. -/
theorem coefficient?_of_mem {s : List Char} (h : '(' ∈ s) : coefficient? s = none := by
  cases hs : coefficient? s with
  | none => rfl
  | some x => exact absurd (mem_spellingChars hs '(' h) (by decide)

/-- **Behind a parenthesis in front of a list**, its first part is no number. -/
theorem coefficients_append_parenthesis {front : List Char} (h : ',' ∉ front) (s : List Char) :
    coefficients (front ++ '(' :: s) = coefficients (afterFirst s) := by
  have hcomma : ',' ∉ front ++ ['('] := by simp [h]
  have hbefore : before ',' (front ++ ['('] ++ s) = front ++ ['('] ++ before ',' s :=
    before_append_of_not_mem hcomma s
  have hafter : afterFirst (front ++ ['('] ++ s) = afterFirst s := by
    rw [afterFirst, cutAt_append_of_not_mem hcomma, Option.map_map]
    rfl
  have hnone : coefficient? (front ++ ['('] ++ before ',' s) = none := coefficient?_of_mem (by simp)
  have happend : front ++ '(' :: s = front ++ ['('] ++ s := by simp
  rw [happend, coefficients_eq_append, hbefore, hafter, hnone]
  rfl

namespace WrittenCall

variable (c : WrittenCall)

/-- **Up to one pair of parentheses** the numbers are those of the call. -/
theorem callCoefficients_wrap (p : Padding) {qs : List Padding} (h : qs.length ≤ 1) :
    callCoefficients (wrap p qs c.text) = callCoefficients c.text := by
  rw [callCoefficients, c.callArguments_wrap p h, c.callCoefficients_text, Option.elim_some]

/-- **From two pairs of parentheses on** the first argument is lost. -/
theorem callCoefficients_wrap_wrap (p q r : Padding) (qs : List Padding) :
    callCoefficients (wrap p (q :: r :: qs) c.text) = coefficients (afterFirst c.arguments) := by
  obtain ⟨front, hfront, he⟩ := c.exists_before_wrap r qs
  have hlead : '(' ∉ q.lead := not_mem_of_blanks q.lead_blank (by decide)
  have htext : wrap q (r :: qs) c.text =
      q.lead ++ '(' :: (wrap r qs c.text ++ ')' :: q.trail) := by
    simp [wrap, Padding.around]
  rw [callCoefficients, callArguments_wrap_cons, htext, cutAt_append hlead, Option.map_some, he,
    Option.elim_some, coefficients_append_parenthesis hfront]

end WrittenCall

/-! ### One number more or less -/

/-- **A number more makes a difference** to every function that takes numbers: it is unknown with it
or without it, and tells how many there were. -/
theorem Family.classify_cons_ne {name : String} {family : Family}
    (h : RateForm.ofName name = .call family) (x : Float) (cs : List Float) :
    family.classify (x :: cs) ≠ family.classify cs := by
  intro heq
  have hkind : (x :: cs).length ∉ family.counts ↔ cs.length ∉ family.counts := by
    rw [← kind_classify_eq_unknown_iff, heq, kind_classify_eq_unknown_iff]
  have hshort : cs.length ∉ family.counts := fun hm =>
    hkind.1 (RateForm.counts_apart h _ hm) hm
  have hlong : (x :: cs).length ∉ family.counts := hkind.2 hshort
  rw [← isSome_law?_iff, Option.not_isSome_iff_eq_none] at hshort hlong
  simp [classify, hshort, hlong] at heq

theorem RateForm.classify_append_eq_iff {name : String} (first : Option Float) (cs : List Float) :
    (ofName name).classify cs = (ofName name).classify (first.toList ++ cs) ↔
      (∀ family, ofName name ≠ .call family) ∨ first = none := by
  cases first with
  | none => simp
  | some x =>
    cases h : ofName name with
    | call family => simpa [classify] using (Family.classify_cons_ne h x cs).symm
    | _ => simp [classify]

/-! ### Classification -/

/-- **When parentheses make no difference.**  Up to one pair makes none, with blanks anywhere, and
none does to a photolysis.  From two pairs on, if no blanks stand between the opening ones, the name
is still that of the call, but its first argument is lost: this makes no difference exactly if the
function takes no numbers or its first argument is no number.  If there are such blanks, the rate
counts as a plain one. -/
theorem classifyExpression_wrapped (c : WrittenCall) (p : Padding) (qs : List Padding)
    (photon hasProducts : Bool) :
    (qs.length ≤ 1 → callCoefficients (wrap p qs c.text) = callCoefficients c.text) ∧
    (qs.length ≤ 1 ∨ Photolytic c.text photon →
      classifyExpression (wrap p qs c.text) photon hasProducts =
        classifyExpression c.text photon hasProducts) ∧
    (2 ≤ qs.length →
      callCoefficients (wrap p qs c.text) = coefficients (afterFirst c.arguments)) ∧
    (2 ≤ qs.length → ¬Photolytic c.text photon →
      (Adjacent qs →
        (classifyExpression (wrap p qs c.text) photon hasProducts =
            classifyExpression c.text photon hasProducts ↔
          (∀ family, RateForm.ofName (String.ofList c.name) ≠ .call family) ∨
            coefficient? (before ',' c.arguments) = none)) ∧
      (¬Adjacent qs →
        classifyExpression (wrap p qs c.text) photon hasProducts =
          classifyPlain (wrap p qs c.text) hasProducts)) := by
  have hnumbers : qs.length ≤ 1 →
      callCoefficients (wrap p qs c.text) = callCoefficients c.text := c.callCoefficients_wrap p
  have hlost : 2 ≤ qs.length →
      callCoefficients (wrap p qs c.text) = coefficients (afterFirst c.arguments) := by
    intro h
    match qs, h with
    | q :: r :: qs, _ => exact c.callCoefficients_wrap_wrap p q r qs
  -- without a photolysis the name and the numbers decide
  have hcall : ¬Photolytic c.text photon → Adjacent qs →
      classifyExpression (wrap p qs c.text) photon hasProducts =
        (RateForm.ofName (String.ofList c.name)).classify (callCoefficients (wrap p qs c.text)) := by
    intro hphoton hadjacent
    exact classifyExpression_of_calls (mt photolytic_wrap_iff.1 hphoton)
      (RateForm.callName?_eq_some_iff.1 (c.callName?_wrap p hadjacent)) hasProducts
  have hbare : ¬Photolytic c.text photon →
      classifyExpression c.text photon hasProducts =
        (RateForm.ofName (String.ofList c.name)).classify (coefficients c.arguments) := by
    intro hphoton
    rw [classifyExpression_of_calls hphoton (RateForm.callName?_eq_some_iff.1 c.callName?_text),
      c.callCoefficients_text]
  refine ⟨hnumbers, ?_, hlost, ?_⟩
  · intro h
    by_cases hphoton : Photolytic c.text photon
    · rw [classifyExpression_photolysis (photolytic_iff.1 hphoton),
        classifyExpression_photolysis (photolytic_iff.1 (photolytic_wrap_iff.2 hphoton))]
    · have hlength := h.resolve_right hphoton
      rw [hcall hphoton (adjacent_of_length_le hlength), hbare hphoton, hnumbers hlength,
        c.callCoefficients_text]
  · intro hlength hphoton
    constructor
    · intro hadjacent
      rw [hcall hphoton hadjacent, hbare hphoton, hlost hlength,
        coefficients_eq_append c.arguments, RateForm.classify_append_eq_iff]
    · intro hadjacent
      exact classifyExpression_of_not_calls (mt photolytic_wrap_iff.1 hphoton)
        (RateForm.callName?_eq_none_iff.1 (c.callName?_wrap_of_not_adjacent p hadjacent)) hasProducts

/-- The rate of ozone and nitrogen oxide. -/
def titrationCall : WrittenCall where
  name := "ARR_ab".toList
  gap := []
  arguments := "3.0D-12, 1500.0_dp".toList
  isName_name := by decide
  gap_blank := isBlank_of_mem_nil
  not_mem_arguments := forall_mem_of_all (by decide)

/-- As many spaces before a text as after it. -/
def spaces (n : Nat) : Padding where
  lead := List.replicate n ' '
  trail := List.replicate n ' '
  lead_blank := by
    intro c hc
    rw [(List.mem_replicate.1 hc).2]
    decide
  trail_blank := by
    intro c hc
    rw [(List.mem_replicate.1 hc).2]
    decide

theorem classifyExpression_wrapped_titration :
    wrap (spaces 1) [spaces 2] titrationCall.text =
      " (  ARR_ab(3.0D-12, 1500.0_dp)  ) ".toList ∧
    classifyExpression " (  ARR_ab(3.0D-12, 1500.0_dp)  ) ".toList false true =
      classifyExpression "ARR_ab(3.0D-12, 1500.0_dp)".toList false true ∧
    wrap (spaces 0) [spaces 0, spaces 0] titrationCall.text =
      "((ARR_ab(3.0D-12, 1500.0_dp)))".toList ∧
    Adjacent [spaces 0, spaces 0] ∧ ¬Photolytic titrationCall.text false ∧
    classifyExpression "((ARR_ab(3.0D-12, 1500.0_dp)))".toList false true ≠
      classifyExpression "ARR_ab(3.0D-12, 1500.0_dp)".toList false true ∧
    ¬Adjacent [spaces 1, spaces 0] ∧
    classifyExpression "( (ARR_ab(3.0D-12, 1500.0_dp)) )".toList false true =
      classifyPlain "( (ARR_ab(3.0D-12, 1500.0_dp)) )".toList true := by
  have hphoton : ¬Photolytic titrationCall.text false := not_photolytic_iff.2 (by decide)
  have hblank : ¬Adjacent [spaces 1, spaces 0] := fun h => absurd h.1 (by decide)
  have hcall : RateForm.ofName (String.ofList titrationCall.name) = .call .arrheniusAb := by decide
  have hnumber : coefficient? (before ',' titrationCall.arguments) = some 3.0e-12 := by rfl
  obtain ⟨-, hone, -, -⟩ := classifyExpression_wrapped titrationCall (spaces 1) [spaces 2] false true
  obtain ⟨-, -, -, htwo⟩ :=
    classifyExpression_wrapped titrationCall (spaces 0) [spaces 0, spaces 0] false true
  obtain ⟨-, -, -, hapart⟩ :=
    classifyExpression_wrapped titrationCall (spaces 0) [spaces 1, spaces 0] false true
  refine ⟨by decide, hone (Or.inl (by decide)), by decide, ⟨rfl, trivial⟩, hphoton, ?_, hblank, ?_⟩
  · intro heq
    rcases ((htwo (by decide) hphoton).1 ⟨rfl, trivial⟩).1 heq with hnone | hnone
    · exact hnone _ hcall
    · rw [hnumber] at hnone
      exact absurd hnone (Option.some_ne_none _)
  · exact (hapart (by decide) hphoton).2 hblank

/-- **Two pairs of parentheses lose an argument**: what is a rate without them is unknown between
them. -/
theorem not_forall_classifyExpression_wrap :
    (classifyExpression "((ARR_ab(3.0D-12, 1500.0_dp)))".toList false true).kind = .unknown ∧
    (classifyExpression "ARR_ab(3.0D-12, 1500.0_dp)".toList false true).kind = .arrhenius ∧
    ¬∀ (c : WrittenCall) (p : Padding) (qs : List Padding) (photon hasProducts : Bool),
      classifyExpression (wrap p qs c.text) photon hasProducts =
        classifyExpression c.text photon hasProducts := by
  have hwrapped :
      (classifyExpression "((ARR_ab(3.0D-12, 1500.0_dp)))".toList false true).kind = .unknown := rfl
  have hbare :
      (classifyExpression "ARR_ab(3.0D-12, 1500.0_dp)".toList false true).kind = .arrhenius := rfl
  refine ⟨hwrapped, hbare, ?_⟩
  intro hall
  have htext : wrap (spaces 0) [spaces 0, spaces 0] titrationCall.text =
      "((ARR_ab(3.0D-12, 1500.0_dp)))".toList := by decide
  have hsame := hall titrationCall (spaces 0) [spaces 0, spaces 0] false true
  rw [htext] at hsame
  have hkind : RateKind.unknown = .arrhenius := by
    rw [← hwrapped, hsame]
    exact hbare
  exact absurd hkind (by decide)

end AtmosChem
