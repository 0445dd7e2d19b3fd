import AtmosChem.Proofs.Cutting
import AtmosChem.Proofs.Outcomes
import AtmosChem.Proofs.Trimming

/-!
# What follows the semicolon of an equation

An equation of KPP ends at its semicolon.  The **body** is the text in front of it, the **tail** the
text behind it, which should be no part of the equation.  But two questions are asked about a line
before it is cut at the semicolon: whether it is a comment as a whole, and where its equals sign and
its colon stand.  So a tail is seen in two ways:

* a closing brace at its end makes a comment of a line that begins with a brace, although that brace
  belongs to a label (`isContent_tailed`);
* an equals sign or a colon in it takes the place of one that the body lacks (`cut_tailed` has the
  body's own separators).

There is no third way: `tailBlind_iff` says which bodies have tails that make no difference, and
`kindOf_translate_tailed` which tails of the other bodies make none.
-/

namespace AtmosChem

open Text

/-! ### Kinds of failure -/

/-- The kinds of failure. -/
inductive Failure.Kind
  | missingSeparator
  | malformedTerm
  | invalidCoefficient
  | file
  | settings
  | document
deriving DecidableEq, Repr

/-- The kind of a failure. -/
def Failure.kind : Failure → Failure.Kind
  | missingSeparator .. => .missingSeparator
  | malformedTerm .. => .malformedTerm
  | invalidCoefficient .. => .invalidCoefficient
  | file .. => .file
  | settings .. => .settings
  | document => .document

/-- An outcome that tells only the kind of a failure. -/
def kindOf {α : Type} (x : Except Failure α) : Except Failure.Kind α := x.mapError Failure.kind

@[simp] theorem kindOf_ok {α : Type} (a : α) : kindOf (.ok a) = .ok a := rfl

@[simp] theorem kindOf_error {α : Type} (e : Failure) :
    kindOf (.error e : Except Failure α) = .error e.kind := rfl

theorem kindOf_eq_ok_iff {α : Type} {x : Except Failure α} {a : α} :
    kindOf x = .ok a ↔ x = .ok a := by
  cases x <;> simp

theorem kindOf_eq_error_iff {α : Type} {x : Except Failure α} {k : Failure.Kind} :
    kindOf x = .error k ↔ ∃ e, x = .error e ∧ e.kind = k := by
  cases x <;> simp

/-- What is wrong with a term is never a missing separator. -/
theorem Term.kind_of_read {s : List Char} {e : Failure} (h : Term.read s = .error e) :
    e.kind ≠ .missingSeparator := by
  unfold Term.read at h
  dsimp only at h
  split at h
  · rw [← Except.error.inj h]
    exact nofun
  · split at h
    · simp at h
    · rw [← Except.error.inj h]
      exact nofun

theorem Amounts.kind_of_addTerms {as : Amounts} {ts : List (List Char)} {e : Failure}
    (h : as.addTerms ts = .error e) : e.kind ≠ .missingSeparator := by
  induction ts generalizing as with
  | nil => simp [Amounts.addTerms] at h
  | cons t ts ih =>
    rw [Amounts.addTerms] at h
    split at h
    · exact ih h
    next f ht =>
      rw [← Except.error.inj h]
      exact Term.kind_of_read ht

theorem Sides.kind_of_read {reactants products : List Char} {e : Failure}
    (h : Sides.read reactants products = .error e) : e.kind ≠ .missingSeparator := by
  rcases error_of_bind h with hr | ⟨rs, -, hrest⟩
  · exact Amounts.kind_of_addTerms hr
  · rcases error_of_bind hrest with hp | ⟨ps, -, hdone⟩
    · exact Amounts.kind_of_addTerms hp
    · exact absurd hdone nofun

theorem Equation.translation_ne_empty (e : Equation) : e.translation ≠ .empty := by
  rw [translation]
  cases e.rate <;> simp [Translation.ofRate, Translation.empty]

namespace Kpp

/-! ### Lines with a tail -/

/-- A line with a tail behind its semicolon. -/
def tailed (body tail : List Char) : List Char := body ++ ';' :: tail

/-- Whether a body begins like a comment with two slashes. -/
def opensSlashes (body : List Char) : Bool := ['/', '/'].isPrefixOf (trimStart body)

/-- Whether a body begins with a brace, be it that of a label. -/
def opensBrace (body : List Char) : Bool := (trimStart body).head? == some '\x7b'

/-- Whether a tail ends with a closing brace. -/
def closesBrace (tail : List Char) : Bool := (trimEnd tail).getLast? == some '\x7d'

theorem trim_tailed (body tail : List Char) :
    trim (tailed body tail) = trimStart body ++ ';' :: trimEnd tail :=
  trim_append_cons (by decide) body tail

/-- **A line is a comment** by its body alone, or by a brace at its beginning together with one at
its end. -/
theorem isComment_tailed (body tail : List Char) :
    isComment (trim (tailed body tail)) =
      (opensSlashes body || (opensBrace body && closesBrace tail)) := by
  have hhead : ((trimStart body ++ ';' :: trimEnd tail).head? == some '\x7b') =
      opensBrace body := by
    rw [opensBrace]
    cases trimStart body with
    | nil => rfl
    | cons c s => rfl
  have hlast : ((trimStart body ++ ';' :: trimEnd tail).getLast? == some '\x7d') =
      closesBrace tail := by
    rw [closesBrace, getLast?_append_right (List.cons_ne_nil _ _)]
    cases trimEnd tail with
    | nil => rfl
    | cons c s => rw [List.getLast?_cons_cons]
  rw [trim_tailed, isComment, isPrefixOf_append_cons (by decide), hhead, hlast, opensSlashes]

theorem isContent_tailed (body tail : List Char) :
    isContent (tailed body tail) =
      !(opensSlashes body || (opensBrace body && closesBrace tail)) := by
  have hne : trim (tailed body tail) ≠ [] := by
    rw [trim_tailed]
    exact List.append_ne_nil_of_right_ne_nil _ (List.cons_ne_nil _ _)
  rw [isContent, isComment_tailed, bne_iff_ne.2 hne, Bool.true_and]

/-- A section of one line is that line's equation, or nothing. -/
theorem outcome_translate_singleton (line : List Char) :
    (translate [line]).outcome =
      if isContent line = true then (readEquation 1 line).map Equation.translation
      else .ok .empty := by
  rw [translate]
  split
  next h =>
    rw [List.filter_cons_of_pos h, List.filter_nil, readEquations, readEquations,
      Translation.outcome_ofEquations_singleton]
  next h =>
    rw [List.filter_cons_of_neg h, List.filter_nil, readEquations,
      Translation.outcome_ofEquations_nil]

/-! ### Separators -/

/-- Whether a text has an equals sign and a colon behind it. -/
def hasSeparators (s : List Char) : Bool := ((cutAt '=' s).bind fun p => cutAt ':' p.2).isSome

theorem hasSeparators_iff {s : List Char} :
    hasSeparators s = true ↔
      ∃ left right products rate,
        cutAt '=' s = some (left, right) ∧ cutAt ':' right = some (products, rate) := by
  rw [hasSeparators, Option.isSome_iff_exists]
  constructor
  · rintro ⟨⟨products, rate⟩, h⟩
    obtain ⟨⟨left, right⟩, hleft, hright⟩ := Option.bind_eq_some_iff.1 h
    exact ⟨left, right, products, rate, hleft, hright⟩
  · rintro ⟨left, right, products, rate, hleft, hright⟩
    exact ⟨(products, rate), Option.bind_eq_some_iff.2 ⟨(left, right), hleft, hright⟩⟩

theorem exists_cut_of_hasSeparators {line : List Char} (h : hasSeparators line = true)
    (index : Nat) : ∃ p, Parts.cut index line = .ok p := by
  obtain ⟨left, right, products, rate, hleft, hright⟩ := hasSeparators_iff.1 h
  rw [Parts.cut, hleft]
  simp only [hright]
  exact ⟨_, rfl⟩

theorem cut_eq_error_of_hasSeparators {line : List Char} (h : hasSeparators line = false)
    (index : Nat) : ∃ separator, Parts.cut index line = .error (missing separator line) := by
  cases hleft : cutAt '=' line with
  | none => exact ⟨.equals, by simp only [Parts.cut, hleft]⟩
  | some p =>
    cases hright : cutAt ':' p.2 with
    | none => exact ⟨.colon, by simp only [Parts.cut, hleft, hright]⟩
    | some q => simp [hasSeparators, hleft, hright] at h

/-- **A body with its own separators** is cut there, whatever its tail is. -/
theorem cut_tailed {body : List Char} (hs : ';' ∉ body) (h : hasSeparators body = true)
    (index : Nat) (tail : List Char) :
    Parts.cut index (tailed body tail) = Parts.cut index body := by
  obtain ⟨left, right, products, rate, hleft, hright⟩ := hasSeparators_iff.1 h
  have hrate : ';' ∉ rate := by
    intro hm
    refine hs ?_
    rw [eq_append_of_cutAt hleft, eq_append_of_cutAt hright]
    simp [hm]
  simp only [Parts.cut, tailed, hleft, hright, cutAt_append_of_eq_some hleft,
    cutAt_append_of_eq_some hright, before_append hrate, before_of_not_mem hrate]

theorem hasSeparators_tailed (body : List Char) {tail : List Char}
    (h : ∀ c ∈ ['=', ':'], c ∉ tail) :
    hasSeparators (tailed body tail) = hasSeparators body := by
  have hcolon : ':' ∉ tail := h ':' (by decide)
  have hequals : '=' ∉ tail := h '=' (by decide)
  cases hleft : cutAt '=' body with
  | none =>
    have hnone : cutAt '=' (tailed body tail) = none := by
      rw [cutAt_eq_none_iff] at hleft ⊢
      simp [tailed, hleft, hequals]
    rw [hasSeparators, hasSeparators, hleft, hnone]
  | some p =>
    obtain ⟨left, right⟩ := p
    cases hright : cutAt ':' right with
    | none =>
      have hnone : cutAt ':' (right ++ ';' :: tail) = none := by
        rw [cutAt_eq_none_iff] at hright ⊢
        simp [hright, hcolon]
      simp [hasSeparators, tailed, hleft, hright, hnone, cutAt_append_of_eq_some hleft]
    | some q =>
      simp [hasSeparators, tailed, hleft, hright, cutAt_append_of_eq_some hleft,
        cutAt_append_of_eq_some hright]

/-- With both separators in its tail a line has both, wherever the body is cut. -/
theorem hasSeparators_tailed_both (body : List Char) :
    hasSeparators (tailed body ['=', ':']) = true := by
  rw [hasSeparators_iff]
  cases hleft : cutAt '=' body with
  | none =>
    have hequals : '=' ∉ body ++ [';'] := by
      rw [cutAt_eq_none_iff] at hleft
      simp [hleft]
    refine ⟨body ++ [';'], [':'], [], [], ?_, rfl⟩
    rw [tailed, List.append_cons, cutAt_append hequals]
  | some p =>
    obtain ⟨left, right⟩ := p
    have hcolon : ':' ∈ right ++ [';', '=', ':'] := by simp
    cases hright : cutAt ':' (right ++ [';', '=', ':']) with
    | none => exact absurd hcolon (cutAt_eq_none_iff.1 hright)
    | some q => exact ⟨left, _, q.1, q.2, cutAt_append_of_eq_some hleft _, hright⟩

/-! ### What is read from a line -/

theorem readEquation_tailed {body : List Char} (hs : ';' ∉ body) (h : hasSeparators body = true)
    (index : Nat) (tail : List Char) :
    readEquation index (tailed body tail) = readEquation index body := by
  rw [readEquation, cut_tailed hs h index tail, readEquation]

theorem readEquation_eq_error {line : List Char} (h : hasSeparators line = false) (index : Nat) :
    ∃ e, readEquation index line = .error e ∧ e.kind = .missingSeparator := by
  obtain ⟨separator, hcut⟩ := cut_eq_error_of_hasSeparators h index
  exact ⟨missing separator line, by rw [readEquation, hcut]; rfl, rfl⟩

/-- A line with both separators does not fail for want of one. -/
theorem kind_of_readEquation {line : List Char} (h : hasSeparators line = true) {index : Nat}
    {e : Failure} (he : readEquation index line = .error e) : e.kind ≠ .missingSeparator := by
  obtain ⟨p, hcut⟩ := exists_cut_of_hasSeparators h index
  rw [readEquation, hcut] at he
  change p.equation = .error e at he
  rcases error_of_bind he with hr | ⟨sides, -, hdone⟩
  · exact Sides.kind_of_read hr
  · exact absurd hdone nofun

/-! ### Tails that make no difference -/

/-- **Tails that make no difference**: they end alike where the line begins with a brace, and they
hold no separator where the body lacks one. -/
theorem kindOf_translate_tailed {body t u : List Char} (hs : ';' ∉ body)
    (hbrace : opensBrace body = true → closesBrace t = closesBrace u)
    (hsep : hasSeparators body = true ∨ ∀ c ∈ ['=', ':'], c ∉ t ∧ c ∉ u) :
    kindOf (translate [tailed body t]).outcome = kindOf (translate [tailed body u]).outcome := by
  have hcontent : isContent (tailed body t) = isContent (tailed body u) := by
    rw [isContent_tailed, isContent_tailed]
    cases hb : opensBrace body with
    | false => rfl
    | true => rw [hbrace hb]
  rw [outcome_translate_singleton, outcome_translate_singleton, hcontent]
  split
  · by_cases hbody : hasSeparators body = true
    · rw [readEquation_tailed hs hbody, readEquation_tailed hs hbody]
    · have hplain := hsep.resolve_left hbody
      rw [Bool.not_eq_true] at hbody
      have ht := hasSeparators_tailed body fun c hc => (hplain c hc).1
      have hu := hasSeparators_tailed body fun c hc => (hplain c hc).2
      obtain ⟨e, he, hk⟩ := readEquation_eq_error (ht.trans hbody) 1
      obtain ⟨f, hf, hl⟩ := readEquation_eq_error (hu.trans hbody) 1
      rw [he, hf]
      exact congrArg Except.error (hk.trans hl.symm)
  · rfl

/-- Whether the tails of a body make no difference: all of them give the same translation, or a
failure of the same kind. -/
def TailBlind (body : List Char) : Prop :=
  ∀ t u, '\n' ∉ t → '\n' ∉ u →
    kindOf (translate [tailed body t]).outcome = kindOf (translate [tailed body u]).outcome

/-- A brace at the end of the tail makes a comment of a line that begins with one. -/
theorem not_tailBlind_of_opensBrace {body : List Char} (hslashes : opensSlashes body = false)
    (h : opensBrace body = true) : ¬ TailBlind body := by
  intro hblind
  -- without a tail the line is an equation; that fails, or contributes something
  have hclosed := hblind ['\x7d'] [] (by decide) (by decide)
  have hcomment : isContent (tailed body ['\x7d']) = false := by
    rw [isContent_tailed, h, show closesBrace ['\x7d'] = true by decide]
    simp
  have hcontent : isContent (tailed body []) = true := by
    rw [isContent_tailed, hslashes, show closesBrace [] = false by decide]
    simp
  rw [outcome_translate_singleton, outcome_translate_singleton, hcomment, hcontent, if_pos rfl,
    if_neg (by decide)] at hclosed
  have hempty := kindOf_eq_ok_iff.1 hclosed.symm
  cases hr : readEquation 1 (tailed body []) with
  | error e => simp [hr, Except.map] at hempty
  | ok e =>
    rw [hr] at hempty
    exact e.translation_ne_empty (Except.ok.inj hempty)

/-- An equals sign and a colon in the tail take the places of those that a body lacks. -/
theorem not_tailBlind_of_hasSeparators {body : List Char} (hslashes : opensSlashes body = false)
    (hbrace : opensBrace body = false) (h : hasSeparators body = false) : ¬ TailBlind body := by
  intro hblind
  have hlacking := hblind [] ['=', ':'] (by decide) (by decide)
  have hcontent : ∀ tail, isContent (tailed body tail) = true := by
    intro tail
    rw [isContent_tailed, hslashes, hbrace]
    rfl
  -- without a tail a separator is missing, with this one none is
  have hnone := (hasSeparators_tailed body fun c _ => List.not_mem_nil).trans h
  obtain ⟨e, he, hk⟩ := readEquation_eq_error hnone 1
  rw [outcome_translate_singleton, outcome_translate_singleton, if_pos (hcontent _),
    if_pos (hcontent _), he] at hlacking
  have hfails : kindOf ((readEquation 1 (tailed body ['=', ':'])).map Equation.translation) =
      .error .missingSeparator := by
    rw [← hlacking, ← hk]
    rfl
  obtain ⟨f, hf, hkind⟩ := kindOf_eq_error_iff.1 hfails
  cases hr : readEquation 1 (tailed body ['=', ':']) with
  | error g =>
    rw [hr] at hf
    rw [← Except.error.inj hf] at hkind
    exact kind_of_readEquation (hasSeparators_tailed_both body) hr hkind
  | ok g => simp [hr, Except.map] at hf

/-- **The bodies whose tails make no difference** are those that begin like a comment with slashes,
and those that have separators of their own and do not begin with a brace. -/
theorem tailBlind_iff {body : List Char} (hs : ';' ∉ body) :
    TailBlind body ↔
      opensSlashes body = true ∨ opensBrace body = false ∧ hasSeparators body = true := by
  constructor
  · intro hblind
    cases hslashes : opensSlashes body with
    | true => exact Or.inl rfl
    | false =>
      right
      cases hbrace : opensBrace body with
      | true => exact absurd hblind (not_tailBlind_of_opensBrace hslashes hbrace)
      | false =>
        refine ⟨rfl, ?_⟩
        cases hsep : hasSeparators body with
        | true => rfl
        | false => exact absurd hblind (not_tailBlind_of_hasSeparators hslashes hbrace hsep)
  · rintro (hslashes | ⟨hbrace, hsep⟩) t u - -
    · have hcomment : ∀ tail, isContent (tailed body tail) = false := by
        intro tail
        rw [isContent_tailed, hslashes]
        rfl
      rw [outcome_translate_singleton, outcome_translate_singleton, hcomment, hcomment]
      rfl
    · refine kindOf_translate_tailed hs ?_ (Or.inl hsep)
      rw [hbrace]
      exact nofun

/-- **What the tail of an equation can do**: it makes no difference for exactly those bodies that
begin like a comment with slashes, or have separators of their own and do not begin with a brace.
For any other body, tails make no difference if they end alike and hold no separator. -/
theorem translate_tails (body : List Char) (hs : ';' ∉ body) :
    (TailBlind body ↔
      opensSlashes body = true ∨ opensBrace body = false ∧ hasSeparators body = true) ∧
    ∀ t u, (opensBrace body = true → closesBrace t = closesBrace u) →
      (hasSeparators body = true ∨ ∀ c ∈ ['=', ':'], c ∉ t ∧ c ∉ u) →
      kindOf (translate [tailed body t]).outcome = kindOf (translate [tailed body u]).outcome := by
  refine ⟨tailBlind_iff hs, ?_⟩
  intro t u hbrace hsep
  exact kindOf_translate_tailed hs hbrace hsep

/-- A tail with both separators, in braces, behind a label in angle brackets and behind a label in
braces whose comment does not close the line. -/
theorem translate_tails_of_labels :
    kindOf (translate ["<R1> A = B : 1.0 ; \x7bk: A = 2.0\x7d".toList]).outcome =
      kindOf (translate ["<R1> A = B : 1.0 ;".toList]).outcome ∧
    kindOf (translate ["\x7bR1\x7d A = B : 1.0 ; \x7bk: A = 2.0\x7d .".toList]).outcome =
      kindOf (translate ["\x7bR1\x7d A = B : 1.0 ;".toList]).outcome := by
  constructor
  · have h := (translate_tails "<R1> A = B : 1.0 ".toList (by decide +kernel)).1.2
      (Or.inr (by decide +kernel))
    exact h " \x7bk: A = 2.0\x7d".toList [] (by decide +kernel) (by decide)
  · exact (translate_tails "\x7bR1\x7d A = B : 1.0 ".toList (by decide +kernel)).2
      " \x7bk: A = 2.0\x7d .".toList [] (fun _ => by decide +kernel) (Or.inl (by decide +kernel))

/-- One `A` gives one of some product, by a rate of one. -/
def fromA (product : String) : Translation :=
  ⟨[⟨"R1", .arrhenius (.constant 1.0), ⟨[("A", 0.0 + 1.0)], [(product, 0.0 + 1.0)]⟩⟩], []⟩

/-- **Tails do make a difference**: a comment in braces makes the labelled equation in front of it
disappear, and a colon in a comment lets a line without a rate pass. -/
theorem not_forall_tailBlind :
    (translate ["\x7bR1\x7d A = B : 1.0 ;".toList]).outcome = .ok (fromA "B") ∧
    (translate ["\x7bR1\x7d A = B : 1.0 ; \x7bnote\x7d".toList]).outcome = .ok .empty ∧
    (translate ["A = B ;".toList]).outcome = .error (.missingSeparator .colon "A = B ;") ∧
    (translate ["A = B ; see: 1.0".toList]).outcome = .ok (fromA "B ; see") ∧
    ¬ ∀ body, ';' ∉ body → TailBlind body := by
  refine ⟨rfl, rfl, rfl, rfl, ?_⟩
  intro h
  have hblind := h "\x7bR1\x7d A = B : 1.0 ".toList (by decide +kernel)
  exact not_tailBlind_of_opensBrace (by decide +kernel) (by decide +kernel) hblind

end Kpp

end AtmosChem
