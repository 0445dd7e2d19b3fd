import AtmosChem.Proofs.Cutting
import AtmosChem.Proofs.Trimming
import AtmosChem.Rate.Expression

/-!
# Calls as they are written

A rate may call a function.  Its form is found by what stands in front (`RateForm.callName?`), its
numbers by what stands between two parentheses (`callArguments`), and neither knows of the other.
`callWith` is a call with everything that its text is made of, and both are read back from it.

* `RateForm.Calls`, `RateForm.callName?_eq_some_iff`: **what it means to call a function**, said of
  the text and not of the reader.
* `callName?_callWith`, `callArguments_callWith`: the name and the arguments of a call.
* `classifyExpression_of_callName?`: so a call is classified by its name and its numbers.
* `marksPhotolysis_iff`, `marksPhotolysis_pad`: where a rate mentions the sun.
-/

namespace AtmosChem

open Text

/-! ### Rates that mention the sun -/

theorem marksPhotolysis_iff (rate : List Char) :
    marksPhotolysis rate = true ↔ ['S', 'U', 'N'] <:+: rate ∨ ['P', 'j', '_'] <:+: rate := by
  rw [marksPhotolysis, photolysisMarks, List.any_cons, List.any_cons, List.any_nil, Bool.or_false,
    Bool.or_eq_true, occurs_iff_infix (by decide), occurs_iff_infix (by decide)]

/-- The characters of the words that mention the sun. -/
def sunChars : List Char := photolysisMarks.flatten

theorem not_mem_sunChars_of_isBlank {c : Char} (h : isBlank c = true) : c ∉ sunChars := by
  have hno : ∀ d ∈ sunChars, isBlank d = false := forall_mem_of_all (by decide)
  intro hm
  rw [hno c hm] at h
  exact absurd h (by decide)

/-- Other characters around a rate make no difference. -/
theorem marksPhotolysis_pad {lead trail : List Char} (hl : ∀ c ∈ lead, c ∉ sunChars)
    (ht : ∀ c ∈ trail, c ∉ sunChars) (rate : List Char) :
    marksPhotolysis (lead ++ rate ++ trail) = marksPhotolysis rate := by
  have hlead : ∀ x ∈ sunChars, x ∉ lead := fun x hx hm => hl x hm hx
  have htrail : ∀ w ∈ photolysisMarks, ∀ c ∈ trail, c ∉ w := fun w hw c hc hm =>
    ht c hc (List.mem_flatten_of_mem hw hm)
  rw [marksPhotolysis, marksPhotolysis, photolysisMarks, List.any_cons, List.any_cons, List.any_nil,
    List.any_cons, List.any_cons, List.any_nil,
    occurs_pad (hlead 'S' (by decide)) (htrail _ (by decide)),
    occurs_pad (hlead 'P' (by decide)) (htrail _ (by decide))]

/-! ### Names -/

namespace RateForm

/-- Whether a text is the name of a function. -/
def isName (s : List Char) : Bool := s.head?.any Char.isAlpha && s.all isNameChar

theorem isNameChar_of_isBlank {c : Char} (h : isBlank c = true) : isNameChar c = false := by
  have hall : ∀ n ∈ blankCodes, isNameChar (Char.ofNat n) = false := by decide
  have hn := hall c.toNat (mem_of_inRanges h)
  rwa [Char.ofNat_toNat] at hn

theorem isBlank_of_isNameChar {c : Char} (h : isNameChar c = true) : isBlank c = false := by
  cases hb : isBlank c with
  | false => rfl
  | true => exact absurd h (by simp [isNameChar_of_isBlank hb])

theorem isNameChar_of_isAlpha {c : Char} (h : c.isAlpha = true) : isNameChar c = true := by
  simp [isNameChar, Char.isAlphanum, h]

section

variable {name : List Char} (hname : isName name = true)

include hname

theorem exists_name_eq_cons : ∃ c rest, name = c :: rest ∧ c.isAlpha = true := by
  obtain ⟨hhead, -⟩ := Bool.and_eq_true_iff.1 hname
  cases name with
  | nil => simp at hhead
  | cons c rest => exact ⟨c, rest, rfl, by simpa using hhead⟩

theorem isNameChar_of_mem : ∀ c ∈ name, isNameChar c = true :=
  List.all_eq_true.1 (Bool.and_eq_true_iff.1 hname).2

theorem not_mem_name {c : Char} (hc : isNameChar c = false) : c ∉ name := by
  intro hm
  rw [isNameChar_of_mem hname c hm] at hc
  exact absurd hc (by decide)

/-- Blanks in front of a name end where it begins. -/
theorem trimStart_append_name {lead : List Char} (hlead : ∀ c ∈ lead, isBlank c = true)
    (s : List Char) : trimStart (lead ++ (name ++ s)) = name ++ s := by
  obtain ⟨c, rest, rfl, hc⟩ := exists_name_eq_cons hname
  rw [trimStart_append_of_blanks hlead, List.cons_append,
    trimStart_cons_of_not_blank (isBlank_of_isNameChar (isNameChar_of_isAlpha hc))]

end

/-! ### Calls, said of the text -/

/-- Whether a rate begins with the call of a function: after parentheses and after blanks stands its
name, and after blanks again a parenthesis. -/
def Calls (rate : List Char) (name : String) : Prop :=
  isName name.toList = true ∧
    ∃ n lead gap rest, (∀ c ∈ lead, isBlank c = true) ∧ (∀ c ∈ gap, isBlank c = true) ∧
      trim rate = List.replicate n '(' ++ (lead ++ (name.toList ++ (gap ++ '(' :: rest)))

/-- What is left of a text behind the parentheses and the blanks that it begins with. -/
def inside (text : List Char) : List Char := trimStart (text.dropWhile (· == '('))

theorem callName?_eq (rate : List Char) :
    callName? rate =
      if (inside (trim rate)).head?.any Char.isAlpha
          && (trimStart ((inside (trim rate)).dropWhile isNameChar)).head? == some '(' then
        some (String.ofList ((inside (trim rate)).takeWhile isNameChar))
      else none := rfl

theorem callName?_congr {rate rate' : List Char} (h : trim rate = trim rate') :
    callName? rate = callName? rate' := by
  rw [callName?_eq, callName?_eq, h]

theorem exists_eq_inside (text : List Char) :
    ∃ n lead, (∀ c ∈ lead, isBlank c = true) ∧
      text = List.replicate n '(' ++ (lead ++ inside text) := by
  obtain ⟨lead, hlead, he⟩ := exists_eq_trimStart (text.dropWhile (· == '('))
  have hopen : ∀ c ∈ text.takeWhile (· == '('), c = '(' := by
    intro c hc
    exact eq_of_beq (List.all_eq_true.1 List.all_takeWhile c hc)
  refine ⟨(text.takeWhile (· == '(')).length, lead, hlead, ?_⟩
  rw [inside, ← he, ← List.eq_replicate_iff.2 ⟨rfl, hopen⟩, List.takeWhile_append_dropWhile]

theorem dropWhile_parentheses {s : List Char} (hs : ∀ c ∈ s.head?, c ≠ '(') (n : Nat) :
    (List.replicate n '(' ++ s).dropWhile (· == '(') = s := by
  have hopen : ∀ c ∈ List.replicate n '(', (c == '(') = true := by
    intro c hc
    rw [(List.mem_replicate.1 hc).2]
    rfl
  rw [List.dropWhile_append_of_pos hopen]
  cases s with
  | nil => rfl
  | cons c s => rw [List.dropWhile_cons_of_neg (by simp [hs c rfl])]

theorem ne_parenthesis_of_isBlank {c : Char} (h : isBlank c = true) : c ≠ '(' := by
  rintro rfl
  exact absurd h (by decide)

/-- Parentheses and blanks are taken off up to a name. -/
theorem inside_append_name {name lead : List Char} (hname : isName name = true)
    (hlead : ∀ c ∈ lead, isBlank c = true) (n : Nat) (s : List Char) :
    inside (List.replicate n '(' ++ (lead ++ (name ++ s))) = name ++ s := by
  have hhead : ∀ c ∈ (lead ++ (name ++ s)).head?, c ≠ '(' := by
    cases lead with
    | nil =>
      obtain ⟨c, rest, rfl, hc⟩ := exists_name_eq_cons hname
      rintro d ⟨⟩ rfl
      exact absurd hc (by decide)
    | cons b lead =>
      rintro d ⟨⟩
      exact ne_parenthesis_of_isBlank (hlead b List.mem_cons_self)
  rw [inside, dropWhile_parentheses hhead, trimStart_append_name hname hlead]

/-- Behind blanks no parentheses are taken off. -/
theorem inside_append_blanks {lead : List Char} (hlead : ∀ c ∈ lead, isBlank c = true)
    (hne : lead ≠ []) (n : Nat) (s : List Char) :
    inside (List.replicate n '(' ++ (lead ++ '(' :: s)) = '(' :: s := by
  have hhead : ∀ c ∈ (lead ++ '(' :: s).head?, c ≠ '(' := by
    cases lead with
    | nil => exact absurd rfl hne
    | cons b lead =>
      rintro d ⟨⟩
      exact ne_parenthesis_of_isBlank (hlead b List.mem_cons_self)
  rw [inside, dropWhile_parentheses hhead, trimStart_append_of_blanks hlead,
    trimStart_cons_of_not_blank (by decide)]

theorem takeWhile_name {name s : List Char} (hname : isName name = true)
    (hs : ∀ c ∈ s.head?, isNameChar c = false) : (name ++ s).takeWhile isNameChar = name := by
  rw [List.takeWhile_append_of_pos (isNameChar_of_mem hname)]
  cases s with
  | nil => simp
  | cons c s => rw [List.takeWhile_cons_of_neg (by simp [hs c rfl]), List.append_nil]

theorem dropWhile_name {name s : List Char} (hname : isName name = true)
    (hs : ∀ c ∈ s.head?, isNameChar c = false) : (name ++ s).dropWhile isNameChar = s := by
  rw [List.dropWhile_append_of_pos (isNameChar_of_mem hname)]
  cases s with
  | nil => rfl
  | cons c s => rw [List.dropWhile_cons_of_neg (by simp [hs c rfl])]

theorem head_gap {gap : List Char} (hgap : ∀ c ∈ gap, isBlank c = true) (rest : List Char) :
    ∀ c ∈ (gap ++ '(' :: rest).head?, isNameChar c = false := by
  cases gap with
  | nil =>
    rintro c ⟨⟩
    decide
  | cons b gap =>
    rintro c ⟨⟩
    exact isNameChar_of_isBlank (hgap b List.mem_cons_self)

theorem callName?_of_calls {rate : List Char} {name : String} (h : Calls rate name) :
    callName? rate = some name := by
  obtain ⟨hname, n, lead, gap, rest, hlead, hgap, he⟩ := h
  have hinside : inside (trim rate) = name.toList ++ (gap ++ '(' :: rest) := by
    rw [he, inside_append_name hname hlead]
  have hhead : (name.toList ++ (gap ++ '(' :: rest)).head?.any Char.isAlpha = true := by
    obtain ⟨c, s, hc, halpha⟩ := exists_name_eq_cons hname
    simpa [hc] using halpha
  have hopen : trimStart (gap ++ '(' :: rest) = '(' :: rest := by
    rw [trimStart_append_of_blanks hgap, trimStart_cons_of_not_blank (by decide)]
  rw [callName?_eq, hinside, hhead, dropWhile_name hname (head_gap hgap rest),
    takeWhile_name hname (head_gap hgap rest), hopen, String.ofList_toList]
  rfl

/-- **The name that a rate calls** is the name of a function whose call the rate begins with. -/
theorem callName?_eq_some_iff {rate : List Char} {name : String} :
    callName? rate = some name ↔ Calls rate name := by
  refine ⟨?_, callName?_of_calls⟩
  intro h
  rw [callName?_eq] at h
  split at h
  next hcall =>
    obtain ⟨hhead, hopen⟩ := Bool.and_eq_true_iff.1 hcall
    obtain ⟨n, lead, hlead, htext⟩ := exists_eq_inside (trim rate)
    obtain ⟨gap, hgap, hrest⟩ := exists_eq_trimStart ((inside (trim rate)).dropWhile isNameChar)
    obtain ⟨rest, hparen⟩ : ∃ rest,
        trimStart ((inside (trim rate)).dropWhile isNameChar) = '(' :: rest :=
      List.head?_eq_some_iff.1 (eq_of_beq hopen)
    have hsplit : inside (trim rate) =
        (inside (trim rate)).takeWhile isNameChar ++ (gap ++ '(' :: rest) := by
      rw [← hparen, ← hrest, List.takeWhile_append_dropWhile]
    have hname : name.toList = (inside (trim rate)).takeWhile isNameChar := by
      rw [← Option.some.inj h, String.toList_ofList]
    refine ⟨?_, n, lead, gap, rest, hlead, hgap, ?_⟩
    · rw [hname, isName, List.all_takeWhile, Bool.and_true]
      cases hinside : inside (trim rate) with
      | nil => simp [hinside] at hhead
      | cons c s =>
        have hc : c.isAlpha = true := by simpa [hinside] using hhead
        rw [List.takeWhile_cons_of_pos (isNameChar_of_isAlpha hc)]
        simpa using hc
    · rw [hname, ← hsplit]
      exact htext
  · simp at h

theorem callName?_eq_none_iff {rate : List Char} :
    callName? rate = none ↔ ∀ name, ¬Calls rate name := by
  simp only [Option.eq_none_iff_forall_ne_some, ne_eq, callName?_eq_some_iff]

end RateForm

/-! ### Calls from their parts -/

/-- A call: its name, blanks, its arguments between parentheses, and what follows. -/
def callWith (name gap arguments tail : List Char) : List Char :=
  name ++ (gap ++ '(' :: (arguments ++ ')' :: tail))

theorem callArguments_congr {rate rate' : List Char} (h : trim rate = trim rate') :
    callArguments rate = callArguments rate' := by
  rw [callArguments, callArguments, h]

theorem trim_callWith {name : List Char} (hname : RateForm.isName name = true)
    (gap arguments tail : List Char) :
    trim (callWith name gap arguments tail) = callWith name gap arguments (trimEnd tail) := by
  have hstart : trimStart (name ++ gap) = name ++ gap :=
    RateForm.trimStart_append_name hname isBlank_of_mem_nil gap
  rw [callWith, ← List.append_assoc, trim_append_cons (by decide), hstart,
    trimEnd_append_cons (by decide), List.append_assoc, callWith]

section

variable {name gap : List Char} (hname : RateForm.isName name = true)
  (hgap : ∀ c ∈ gap, isBlank c = true)

include hname hgap

/-- **The name of a call** is read, whatever its arguments are and whatever follows. -/
theorem callName?_callWith (arguments tail : List Char) :
    RateForm.callName? (callWith name gap arguments tail) = some (String.ofList name) := by
  refine RateForm.callName?_of_calls ⟨by rwa [String.toList_ofList], 0, [], gap,
    arguments ++ ')' :: trimEnd tail, isBlank_of_mem_nil, hgap, ?_⟩
  rw [trim_callWith hname, String.toList_ofList]
  rfl

theorem parenthesis_not_mem_front : '(' ∉ name ++ gap := by
  rw [List.mem_append, not_or]
  exact ⟨RateForm.not_mem_name hname (by decide), not_mem_of_blanks hgap (by decide)⟩

/-- **The arguments of a call** are read, up to its closing parenthesis. -/
theorem callArguments_callWith {arguments : List Char} (hclose : ')' ∉ arguments)
    (tail : List Char) : callArguments (callWith name gap arguments tail) = some arguments := by
  have hunwrap : ∀ s, unwrapOnce (callWith name gap arguments s) = callWith name gap arguments s := by
    intro s
    have hopen := RateForm.not_mem_name hname (c := '(') (by decide)
    obtain ⟨c, rest, rfl, -⟩ := RateForm.exists_name_eq_cons hname
    unfold unwrapOnce
    split
    next t ht =>
      rw [callWith, List.cons_append] at ht
      exact absurd (List.cons.inj ht).1 fun hc => hopen (hc ▸ List.mem_cons_self)
    · rfl
  rw [callArguments, trim_callWith hname, hunwrap, callWith, ← List.append_assoc,
    cutAt_append (parenthesis_not_mem_front hname hgap), Option.map_some, before_append hclose]

theorem callCoefficients_callWith {arguments : List Char} (hclose : ')' ∉ arguments)
    (tail : List Char) :
    callCoefficients (callWith name gap arguments tail) = coefficients arguments := by
  rw [callCoefficients, callArguments_callWith hname hgap hclose, Option.elim_some]

end

/-! ### Classification by name and numbers -/

/-- The classification of a rate by its form, given the numbers of its arguments.  A plain rate has
none and counts as zero here. -/
def RateForm.classify (form : RateForm) (cs : List Float) : Classification Float :=
  match form with
  | .photolysis => .single .photolysis
  | .call family => family.classify cs
  | .k45 => AtmosChem.k45
  | .k57 => AtmosChem.k57
  | .plain => .single (.arrhenius (.constant 0.0))
  | .foreign name => .unknown (.foreignCall name)

/-- A name is that of one of the functions, or foreign. -/
theorem RateForm.ofName_cases (name : String) :
    (name, ofName name) ∈ functions ∨
      (∀ r ∈ functions, name ≠ r.1) ∧ ofName name = .foreign name := by
  rw [ofName]
  cases h : functions.lookup name with
  | none =>
    right
    exact ⟨fun r hr => by simpa using List.lookup_eq_none_iff.1 h r hr, rfl⟩
  | some form =>
    left
    obtain ⟨front, back, he, -⟩ := List.lookup_eq_some_iff.1 h
    simp [he]

/-- The functions have forms of calls. -/
theorem RateForm.ofName_ne (name : String) : ofName name ≠ .photolysis ∧ ofName name ≠ .plain := by
  have hrows : ∀ r ∈ functions, r.2 ≠ .photolysis ∧ r.2 ≠ .plain := by decide
  rcases ofName_cases name with hmem | ⟨-, hforeign⟩
  · exact hrows _ hmem
  · rw [hforeign]
    exact ⟨nofun, nofun⟩

/-- **A call is classified** by its name and its numbers alone. -/
theorem classifyExpression_of_callName? {rate : List Char} {name : String}
    (hmarks : marksPhotolysis rate = false) (h : RateForm.callName? rate = some name)
    (hasProducts : Bool) :
    classifyExpression rate false hasProducts =
      (RateForm.ofName name).classify (callCoefficients rate) := by
  have hform : RateForm.of rate false = RateForm.ofName name := by
    rw [RateForm.of, hmarks, h]
    rfl
  obtain ⟨-, hplain⟩ := RateForm.ofName_ne name
  rw [classifyExpression, hform]
  cases hn : RateForm.ofName name with
  | plain => exact absurd hn hplain
  | photolysis => rfl
  | call family => rfl
  | k45 => rfl
  | k57 => rfl
  | foreign name => rfl

theorem classifyExpression_photolysis {rate : List Char} {photon : Bool}
    (h : (photon || marksPhotolysis rate) = true) (hasProducts : Bool) :
    classifyExpression rate photon hasProducts = .single .photolysis := by
  rw [classifyExpression, RateForm.of, if_pos h]

end AtmosChem
