import AtmosChem.Format

/-!
# What becomes of a list of equations

`Translation.ofEquations` goes through a list of equations, some of which could not be read.  Its
outcome is a matter of two questions only: which equations there are if all of them could be read
(`outcome_ofEquations_eq_ok_iff`), and which failure is the first one if not
(`outcome_ofEquations_eq_error_iff`).

A section of KPP is such a list: its equations are the lines that hold something, each with its
place among them (`Kpp.numbered`).  The translation of a whole text is that of its section of
equations, together with its species (`Format.outcome_translate`).
-/

namespace AtmosChem

/-- The failure of a computation that has failed. -/
def failure? {α : Type} : Except Failure α → Option Failure
  | .ok _ => none
  | .error e => some e

@[simp] theorem failure?_ok {α : Type} (a : α) : failure? (.ok a) = none := rfl

@[simp] theorem failure?_error {α : Type} (e : Failure) :
    failure? (.error e : Except Failure α) = some e := rfl

theorem failure?_eq_some_iff {α : Type} {x : Except Failure α} {e : Failure} :
    failure? x = some e ↔ x = .error e := by
  cases x <;> simp

theorem failure?_map {α β : Type} (f : α → β) (x : Except Failure α) :
    failure? (x.map f) = failure? x := by
  cases x <;> rfl

theorem exists_of_bind {α β : Type} {x : Except Failure α} {f : α → Except Failure β} {b : β}
    (h : x.bind f = .ok b) : ∃ a, x = .ok a ∧ f a = .ok b := by
  cases x with
  | error e => exact absurd h (by simp [Except.bind])
  | ok a => exact ⟨a, rfl, h⟩

theorem exists_of_map {α β : Type} {x : Except Failure α} {f : α → β} {b : β}
    (h : x.map f = .ok b) : ∃ a, x = .ok a ∧ f a = b := by
  cases x with
  | error e => exact absurd h (by simp [Except.map])
  | ok a => exact ⟨a, rfl, Except.ok.inj h⟩

theorem error_of_bind {α β : Type} {x : Except Failure α} {f : α → Except Failure β} {e : Failure}
    (h : x.bind f = .error e) : x = .error e ∨ ∃ a, x = .ok a ∧ f a = .error e := by
  cases x with
  | error e' => exact Or.inl (congrArg Except.error (Except.error.inj h))
  | ok a => exact Or.inr ⟨a, rfl, h⟩

/-- A computation whose result passes a test has a result. -/
theorem exists_ok_of_any {α : Type} {x : Except Failure α} {p : α → Bool}
    (h : x.toOption.any p = true) : ∃ a, x = .ok a ∧ p a = true := by
  cases x with
  | error e => exact absurd h (by simp [Except.toOption])
  | ok a => exact ⟨a, rfl, h⟩

/-- What holds of every computation that succeeds holds of a list of them. -/
theorem map_eq_map_of_ok {α β γ : Type} {xs : List α} {es : List β} {f : α → Except Failure β}
    {g : α → γ} {k : β → γ} (h : xs.map f = es.map .ok) (hg : ∀ x e, f x = .ok e → g x = k e) :
    xs.map g = es.map k := by
  induction xs generalizing es with
  | nil => rw [List.map_eq_nil_iff.1 h.symm]; rfl
  | cons x xs ih =>
    cases es with
    | nil => simp at h
    | cons e es =>
      rw [List.map_cons, List.map_cons, List.cons.injEq] at h
      rw [List.map_cons, List.map_cons, hg x e h.1, ih h.2]

namespace Translation

@[simp] theorem outcome_ofEquations_nil : (ofEquations []).outcome = .ok empty := rfl

theorem outcome_ofEquations_cons_error (e : Failure) (xs : List (Except Failure Equation)) :
    (ofEquations (.error e :: xs)).outcome = .error e := rfl

theorem outcome_ofEquations_cons_ok (e : Equation) (xs : List (Except Failure Equation)) :
    (ofEquations (.ok e :: xs)).outcome = (ofEquations xs).outcome.map e.translation.merge := by
  simp only [ofEquations, Equation.report, Logged.outcome_bind, Logged.outcome_pure]
  cases (ofEquations xs).outcome <;> rfl

theorem outcome_ofEquations_singleton (x : Except Failure Equation) :
    (ofEquations [x]).outcome = x.map Equation.translation := by
  cases x with
  | error e => rfl
  | ok e =>
    rw [outcome_ofEquations_cons_ok, outcome_ofEquations_nil]
    simp only [Except.map, merge_empty]

/-- **Two lists of equations** are translated one after the other. -/
theorem outcome_ofEquations_append (xs ys : List (Except Failure Equation)) :
    (ofEquations (xs ++ ys)).outcome =
      (ofEquations xs).outcome.bind fun t => (ofEquations ys).outcome.map t.merge := by
  induction xs with
  | nil =>
    show (ofEquations ys).outcome = (ofEquations ys).outcome.map empty.merge
    cases (ofEquations ys).outcome <;> simp [Except.map]
  | cons x xs ih =>
    cases x with
    | error e => rfl
    | ok e =>
      rw [List.cons_append, outcome_ofEquations_cons_ok, ih, outcome_ofEquations_cons_ok]
      cases (ofEquations xs).outcome with
      | error f => rfl
      | ok t =>
        cases (ofEquations ys).outcome with
        | error f => rfl
        | ok u => exact congrArg Except.ok (merge_assoc e.translation t u).symm

/-- **All equations could be read** if and only if there is a translation, and it is that of one
equation after the other. -/
theorem outcome_ofEquations_eq_ok_iff {xs : List (Except Failure Equation)} {t : Translation} :
    (ofEquations xs).outcome = .ok t ↔
      ∃ es : List Equation, xs = es.map .ok ∧
        t = (es.map Equation.translation).foldr merge empty := by
  constructor
  · intro h
    induction xs generalizing t with
    | nil => exact ⟨[], rfl, (Except.ok.inj h).symm⟩
    | cons x xs ih =>
      cases x with
      | error e => simp [outcome_ofEquations_cons_error] at h
      | ok e =>
        rw [outcome_ofEquations_cons_ok] at h
        obtain ⟨u, hxs, rfl⟩ := exists_of_map h
        obtain ⟨es, he, hu⟩ := ih hxs
        refine ⟨e :: es, by rw [he, List.map_cons], ?_⟩
        rw [List.map_cons, List.foldr_cons, ← hu]
  · rintro ⟨es, rfl, rfl⟩
    exact outcome_ofEquations_ok es

/-- **The first failure counts.** -/
theorem outcome_ofEquations_eq_error_iff {xs : List (Except Failure Equation)} {e : Failure} :
    (ofEquations xs).outcome = .error e ↔ xs.findSome? failure? = some e := by
  induction xs with
  | nil => simp
  | cons x xs ih =>
    cases x with
    | error f =>
      rw [outcome_ofEquations_cons_error, List.findSome?_cons, failure?_error, Except.error.injEq,
        Option.some.injEq]
    | ok a =>
      rw [outcome_ofEquations_cons_ok, List.findSome?_cons, failure?_ok, ← ih]
      cases (ofEquations xs).outcome <;> simp [Except.map]

end Translation

namespace Kpp

/-- The lines of a section that are equations, each with its place among them. -/
def numbered (lines : List (List Char)) : List (List Char × Nat) :=
  (lines.filter isContent).zipIdx 1

theorem readEquations_eq (index : Nat) (lines : List (List Char)) :
    readEquations index lines = (lines.zipIdx index).map fun p => readEquation p.2 p.1 := by
  induction lines generalizing index with
  | nil => rfl
  | cons line lines ih => rw [readEquations, List.zipIdx_cons, List.map_cons, ih]

theorem translate_eq (lines : List (List Char)) :
    translate lines =
      Translation.ofEquations ((numbered lines).map fun p => readEquation p.2 p.1) := by
  rw [translate, readEquations_eq, numbered]

theorem outcome_translateLine (index : Nat) (line : List Char) :
    (translateLine index line).outcome = (readEquation index line).map Equation.translation :=
  Translation.outcome_ofEquations_singleton _

/-- **The first line that fails** on its own is the failure of a section. -/
theorem outcome_translate_eq_error_iff {lines : List (List Char)} {e : Failure} :
    (translate lines).outcome = .error e ↔
      (numbered lines).findSome? (fun p => failure? (translateLine p.2 p.1).outcome) = some e := by
  simp only [translate_eq, Translation.outcome_ofEquations_eq_error_iff, List.findSome?_map,
    outcome_translateLine, failure?_map]
  rfl

/-- A section fails if and only if one of its lines fails on its own. -/
theorem exists_error_iff (lines : List (List Char)) :
    (∃ e, (translate lines).outcome = .error e) ↔
      ∃ p ∈ numbered lines, ∃ e, (translateLine p.2 p.1).outcome = .error e := by
  simp only [outcome_translate_eq_error_iff, ← Option.isSome_iff_exists,
    List.findSome?_isSome_iff]
  simp only [Option.isSome_iff_exists, failure?_eq_some_iff]

end Kpp

namespace Format

/-- The lines of the section of equations. -/
def equationLines (f : Format) (text : List Char) : List (List Char) :=
  Section.linesUnder f.equationSection.toList (Section.assign text)

/-- The species that a text declares. -/
def declaredSpecies (f : Format) (text : List Char) (tolerance : Float) : List Species :=
  f.species .fixed (Section.linesUnder f.fixedSection.toList (Section.assign text))
    ++ f.species (.solved tolerance)
      (Section.linesUnder f.solvedSection.toList (Section.assign text))

/-- **A translation** has the species and the equations of its text. -/
theorem outcome_translate (f : Format) (text : List Char) (name : String) (tolerance : Float) :
    (f.translate text name tolerance).outcome =
      (f.equations (f.equationLines text)).outcome.map fun t =>
        (⟨name, f.declaredSpecies text tolerance, t.reactions⟩, t.unknowns) := by
  simp only [translate, equationLines, declaredSpecies, Logged.outcome_bind, Logged.outcome_give,
    Logged.outcome_pure]
  cases (f.equations (Section.linesUnder f.equationSection.toList (Section.assign text))).outcome
    <;> rfl

theorem exists_of_translate {f : Format} {text : List Char} {name : String} {tolerance : Float}
    {m : Mechanism} {unknowns : List String}
    (h : (f.translate text name tolerance).outcome = .ok (m, unknowns)) :
    ∃ t, (f.equations (f.equationLines text)).outcome = .ok t ∧
      m = ⟨name, f.declaredSpecies text tolerance, t.reactions⟩ ∧ unknowns = t.unknowns := by
  rw [outcome_translate] at h
  obtain ⟨t, ht, heq⟩ := exists_of_map h
  obtain ⟨rfl, rfl⟩ := Prod.mk.inj heq
  exact ⟨t, ht, rfl, rfl⟩

end Format

end AtmosChem
