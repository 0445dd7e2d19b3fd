import AtmosChem.Equation.Stoichiometry
import AtmosChem.Proofs.TermTexts

/-!
# Terms as they are written

`WrittenTerm` is a term of an equation with everything that its text is made of: the blanks around
it, an amount with an optional multiplication sign (`WrittenAmount`), and a species.  Amounts are
written with characters that no species begins with, so a term falls into its parts at its first
letter.

* `WrittenTerm.strip_text`: a term is found in its text.
* `WrittenTerm.read_body`: a term is read back.
-/

namespace AtmosChem

open Text Decimal

/-! ### Written amounts -/

/-- The characters that amounts are written with. -/
def isAmountChar (c : Char) : Bool := c.isDigit || c == '.' || c == '*'

theorem toNat_of_isAmountChar {c : Char} (h : isAmountChar c = true) :
    c.toNat = 42 ∨ 46 ≤ c.toNat ∧ c.toNat < 58 := by
  simp only [isAmountChar, Bool.or_eq_true, beq_iff_eq] at h
  rcases h with (h | rfl) | rfl
  · simp only [Char.isDigit, Bool.and_eq_true, decide_eq_true_eq, UInt32.le_iff_toNat_le] at h
    right
    exact ⟨Nat.le_trans (by decide) h.1, Nat.lt_succ_of_le h.2⟩
  · decide
  · decide

theorem of_isAmountChar {p : Nat → Prop} (hp : ∀ n < 58, 42 ≤ n → p n) {c : Char}
    (h : isAmountChar c = true) : p c.toNat := by
  refine hp c.toNat ?_ ?_ <;> rcases toNat_of_isAmountChar h with hc | hc <;> omega

theorem isBlank_of_isAmountChar {c : Char} (h : isAmountChar c = true) : isBlank c = false :=
  of_isAmountChar (p := fun n => inRanges blankRanges n = false) (by decide +kernel) h

theorem isAlphabetic_of_isAmountChar {c : Char} (h : isAmountChar c = true) :
    isAlphabetic c = false :=
  of_isAmountChar (p := fun n => inRanges alphabeticRanges n = false) (by decide +kernel) h

theorem toLower_ne_of_isAmountChar {c : Char} (h : isAmountChar c = true) : c.toLower ≠ 'h' := by
  have hn := of_isAmountChar (p := fun n => (Char.ofNat n).toLower ≠ 'h') (by decide +kernel) h
  rwa [Char.ofNat_toNat] at hn

/-- An amount in front of a species: digits with an optional point that stand for a finite number
above zero, then a multiplication sign or not, then blanks or not. -/
structure WrittenAmount where
  digits : List Char
  value : Float
  starred : Bool
  gap : List Char
  digits_plain : ∀ c ∈ digits, c.isDigit = true ∨ c = '.'
  read_digits : readFloat? digits = some value
  isAmount_value : Term.isAmount value = true
  gap_blank : ∀ c ∈ gap, isBlank c = true

namespace WrittenAmount

/-- The multiplication sign, if there is one. -/
def star (a : WrittenAmount) : List Char := if a.starred then ['*'] else []

/-- An amount as a text. -/
def text (a : WrittenAmount) : List Char := a.digits ++ a.star ++ a.gap

theorem digits_ne_nil (a : WrittenAmount) : a.digits ≠ [] := by
  intro h
  have hnone : (readFloat? []).isSome = false := by decide +kernel
  rw [← h, a.read_digits] at hnone
  exact absurd hnone (by simp)

theorem isAmountChar_of_mem_digits {a : WrittenAmount} {c : Char} (h : c ∈ a.digits) :
    isAmountChar c = true := by
  rcases a.digits_plain c h with hc | rfl
  · simp [isAmountChar, hc]
  · decide

theorem isAmountChar_of_mem_star {a : WrittenAmount} {c : Char} (h : c ∈ a.star) :
    isAmountChar c = true := by
  rw [star] at h
  split at h
  · rw [List.mem_singleton] at h
    subst h
    decide
  · simp at h

theorem mem_text {a : WrittenAmount} {c : Char} (h : c ∈ a.text) :
    isAmountChar c = true ∨ isBlank c = true := by
  simp only [text, List.mem_append] at h
  rcases h with (h | h) | h
  · exact Or.inl (isAmountChar_of_mem_digits h)
  · exact Or.inl (isAmountChar_of_mem_star h)
  · exact Or.inr (a.gap_blank c h)

theorem isAlphabetic_of_mem_text {a : WrittenAmount} {c : Char} (h : c ∈ a.text) :
    isAlphabetic c = false :=
  (mem_text h).elim isAlphabetic_of_isAmountChar isAlphabetic_of_isBlank

theorem tight_of_isAmountChar {s : List Char} (h : ∀ c ∈ s, isAmountChar c = true) : Tight s :=
  ⟨fun c hc => isBlank_of_isAmountChar (h c (List.mem_of_mem_head? hc)),
    fun c hc => isBlank_of_isAmountChar (h c (List.mem_of_getLast? hc))⟩

/-- The multiplication sign is taken off the digits, and nothing else. -/
theorem dropEndWhile_star (a : WrittenAmount) :
    dropEndWhile (· == '*') (a.digits ++ a.star) = a.digits := by
  have hd : ∀ c ∈ a.digits.reverse.head?, (c == '*') = false := by
    intro c hc
    rw [beq_eq_false_iff_ne]
    rintro rfl
    have hm := List.mem_reverse.1 (List.mem_of_mem_head? hc)
    exact (a.digits_plain _ hm).elim (by decide) (by decide)
  have hdrop : a.digits.reverse.dropWhile (· == '*') = a.digits.reverse := by
    cases hr : a.digits.reverse with
    | nil => rfl
    | cons c s =>
      rw [List.dropWhile_cons, if_neg]
      rw [hd c (by rw [hr]; rfl)]
      decide
  rw [dropEndWhile, List.reverse_append, star]
  split
  · rw [List.reverse_singleton, List.singleton_append, List.dropWhile_cons, if_pos (by decide),
      hdrop, List.reverse_reverse]
  · rw [List.reverse_nil, List.nil_append, hdrop, List.reverse_reverse]

/-- **A written amount is read back.** -/
theorem coefficientText_text (a : WrittenAmount) : Term.coefficientText a.text = a.digits := by
  have hall : ∀ c ∈ a.digits ++ a.star, isAmountChar c = true := by
    intro c hc
    exact (List.mem_append.1 hc).elim isAmountChar_of_mem_digits isAmountChar_of_mem_star
  have htrim : trim a.text = a.digits ++ a.star := by
    have h := trim_pad isBlank_of_mem_nil a.gap_blank (a.digits ++ a.star)
    rw [trim_of_tight (tight_of_isAmountChar hall)] at h
    exact h
  rw [Term.coefficientText, htrim, dropEndWhile_star]
  exact trimEnd_of_last (tight_of_isAmountChar fun c => isAmountChar_of_mem_digits).last

theorem amount?_digits (a : WrittenAmount) : Term.amount? a.digits = some a.value := by
  rw [Term.amount?, if_neg a.digits_ne_nil, a.read_digits, Option.filter_some,
    if_pos a.isAmount_value]

end WrittenAmount

/-! ### Written terms -/

/-- A term as it is written: blanks, an amount or none, a species, blanks.  A species begins with a
letter, does not end in a blank and has no plus sign and no braces. -/
structure WrittenTerm where
  lead : List Char
  amount : Option WrittenAmount
  species : List Char
  trail : List Char
  lead_blank : ∀ c ∈ lead, isBlank c = true
  trail_blank : ∀ c ∈ trail, isBlank c = true
  species_head : species.head?.any isAlphabetic = true
  species_last : ∀ c ∈ species.getLast?, isBlank c = false
  species_plain : ∀ c ∈ ['+', '\x7b', '\x7d'], c ∉ species

namespace WrittenTerm

/-- The amount with what belongs to it. -/
def front (t : WrittenTerm) : List Char := t.amount.elim [] WrittenAmount.text

/-- A term without the blanks around it. -/
def body (t : WrittenTerm) : List Char := t.front ++ t.species

/-- A term as a text. -/
def text (t : WrittenTerm) : List Char := t.lead ++ t.body ++ t.trail

/-- The amount of a term; it is one where none is written. -/
def value (t : WrittenTerm) : Float := t.amount.elim 1.0 WrittenAmount.value

/-- The species of a term. -/
def name (t : WrittenTerm) : String := String.ofList t.species

/-- Whether a term is the photon: `hv` in any letter case, without an amount. -/
def isPhoton (t : WrittenTerm) : Bool :=
  t.amount.isNone && t.species.map Char.toLower == ['h', 'v']

theorem isAlphabetic_of_mem_front {t : WrittenTerm} {c : Char} (h : c ∈ t.front) :
    isAlphabetic c = false := by
  rw [front] at h
  cases ha : t.amount with
  | none => simp [ha] at h
  | some a => exact a.isAlphabetic_of_mem_text (by simpa [ha] using h)

theorem mem_front {t : WrittenTerm} {c : Char} (h : c ∈ t.front) :
    isAmountChar c = true ∨ isBlank c = true := by
  rw [front] at h
  cases ha : t.amount with
  | none => simp [ha] at h
  | some a => exact a.mem_text (by simpa [ha] using h)

/-- A character that is no part of amounts and no blank stands in a term only if it stands in its
species. -/
theorem not_mem_text {t : WrittenTerm} {c : Char} (ha : isAmountChar c = false)
    (hb : isBlank c = false) (hs : c ∉ t.species) : c ∉ t.text := by
  simp only [text, body, List.mem_append, not_or]
  refine ⟨⟨not_mem_of_blanks t.lead_blank hb, fun h => ?_, hs⟩, not_mem_of_blanks t.trail_blank hb⟩
  rcases mem_front h with h | h
  · rw [h] at ha
    exact absurd ha (by decide)
  · rw [h] at hb
    exact absurd hb (by decide)

theorem plus_not_mem_text (t : WrittenTerm) : '+' ∉ t.text :=
  not_mem_text (by decide) (by decide) (t.species_plain _ (by simp))

theorem exists_species_eq_cons (t : WrittenTerm) :
    ∃ c rest, t.species = c :: rest ∧ isAlphabetic c = true := by
  have h := t.species_head
  cases hs : t.species with
  | nil => simp [hs] at h
  | cons c rest => exact ⟨c, rest, rfl, by simpa [hs] using h⟩

theorem tight_body (t : WrittenTerm) : Tight t.body := by
  obtain ⟨c, rest, hs, hc⟩ := t.exists_species_eq_cons
  constructor
  · rw [body, front]
    cases ha : t.amount with
    | none => simpa [hs] using isBlank_of_isAlphabetic hc
    | some a =>
      cases hd : a.digits with
      | nil => exact absurd hd a.digits_ne_nil
      | cons d ds =>
        have hm : isAmountChar d = true :=
          WrittenAmount.isAmountChar_of_mem_digits (by rw [hd]; exact List.mem_cons_self)
        simpa [WrittenAmount.text, hd] using isBlank_of_isAmountChar hm
  · have hne : t.species ≠ [] := by rw [hs]; exact List.cons_ne_nil c rest
    rw [body, getLast?_append_right hne]
    exact t.species_last

/-- **A term is found in its text**: the blanks around it go, nothing else does. -/
theorem strip_text (t : WrittenTerm) : strip t.text = t.body := by
  have h₁ : '\x7b' ∉ t.text := not_mem_text (by decide) (by decide) (t.species_plain _ (by simp))
  have h₂ : '\x7d' ∉ t.text := not_mem_text (by decide) (by decide) (t.species_plain _ (by simp))
  rw [strip, withoutBraces_of_not_mem h₁ h₂, text, trim_pad t.lead_blank t.trail_blank,
    trim_of_tight t.tight_body]

theorem head_body_ne {c : Char} (ha : isAmountChar c = false) (hb : isBlank c = false)
    (hl : isAlphabetic c = false) (t : WrittenTerm) : t.body.head? ≠ some c := by
  intro h
  rw [body] at h
  cases hf : t.front with
  | nil =>
    obtain ⟨d, rest, hs, hd⟩ := t.exists_species_eq_cons
    rw [hf, hs] at h
    rw [List.nil_append, List.head?_cons, Option.some.injEq] at h
    rw [h, hl] at hd
    exact absurd hd (by decide)
  | cons d rest =>
    rw [hf, List.cons_append, List.head?_cons, Option.some.injEq] at h
    have hd : d ∈ t.front := by rw [hf]; exact List.mem_cons_self
    rw [h] at hd
    rcases mem_front hd with hm | hm
    · rw [ha] at hm
      exact absurd hm (by decide)
    · rw [hb] at hm
      exact absurd hm (by decide)

theorem body_ne_nil (t : WrittenTerm) : t.body ≠ [] := by
  obtain ⟨c, rest, hs, _⟩ := t.exists_species_eq_cons
  rw [body, hs]
  simp

/-- **A written term is read back.** -/
theorem read_body (t : WrittenTerm) : Term.read t.body = .ok ⟨t.value, t.name⟩ := by
  obtain ⟨c, rest, hs, hc⟩ := t.exists_species_eq_cons
  have hfront : ∀ d ∈ t.front, (!isAlphabetic d) = true := by
    intro d hd
    rw [isAlphabetic_of_mem_front hd]
    rfl
  have htake : t.body.takeWhile (fun c => !isAlphabetic c) = t.front := by
    rw [body, hs, List.takeWhile_append_of_pos hfront, List.takeWhile_cons, hc]
    simp
  have hdrop : t.body.dropWhile (fun c => !isAlphabetic c) = t.species := by
    rw [body, hs, List.dropWhile_append_of_pos hfront, List.dropWhile_cons, hc]
    simp
  have hamount : Term.amount? (Term.coefficientText t.front) = some t.value := by
    rw [front, value]
    cases t.amount with
    | none => rfl
    | some a => rw [Option.elim, Option.elim, a.coefficientText_text, a.amount?_digits]
  have hne : t.species ≠ [] := by rw [hs]; exact List.cons_ne_nil c rest
  rw [Term.read, htake, hdrop, if_neg hne]
  simp only [hamount, trimEnd_of_last t.species_last, name]

theorem isPhoton_body (t : WrittenTerm) : AtmosChem.isPhoton t.body = t.isPhoton := by
  rw [AtmosChem.isPhoton, trim_of_tight t.tight_body, isPhoton, body, front]
  cases ha : t.amount with
  | none => rfl
  | some a =>
    cases hd : a.digits with
    | nil => exact absurd hd a.digits_ne_nil
    | cons d ds =>
      have hm : isAmountChar d = true :=
        WrittenAmount.isAmountChar_of_mem_digits (by rw [hd]; exact List.mem_cons_self)
      have hne : ¬ ((d :: ds ++ a.star ++ a.gap ++ t.species).map Char.toLower = ['h', 'v']) := by
        intro h
        simp only [List.cons_append, List.map_cons, List.cons.injEq] at h
        exact toLower_ne_of_isAmountChar hm h.1
      simpa [WrittenAmount.text, hd] using hne

end WrittenTerm

/-! ### Three terms -/

/-- The term `2*NO` with a blank after it. -/
def twoNO : WrittenTerm where
  lead := []
  amount := some {
    digits := ['2']
    value := 2.0
    starred := true
    gap := []
    digits_plain := forall_mem_of_all (by decide)
    read_digits := by decide +kernel
    isAmount_value := by decide +kernel
    gap_blank := forall_mem_of_all (by decide) }
  species := ['N', 'O']
  trail := [' ']
  lead_blank := forall_mem_of_all (by decide)
  trail_blank := forall_mem_of_all (by decide)
  species_head := by decide +kernel
  species_last := by
    rintro c ⟨⟩
    decide
  species_plain := forall_mem_of_all (by decide)

/-- The photon with a blank before it. -/
def photonTerm : WrittenTerm where
  lead := [' ']
  amount := none
  species := ['h', 'v']
  trail := []
  lead_blank := forall_mem_of_all (by decide)
  trail_blank := forall_mem_of_all (by decide)
  species_head := by decide +kernel
  species_last := by
    rintro c ⟨⟩
    decide
  species_plain := forall_mem_of_all (by decide)

/-- The term `.5 O3`. -/
def halfO3 : WrittenTerm where
  lead := []
  amount := some {
    digits := ['.', '5']
    value := 0.5
    starred := false
    gap := [' ']
    digits_plain := forall_mem_of_all (by decide)
    read_digits := by decide +kernel
    isAmount_value := by decide +kernel
    gap_blank := forall_mem_of_all (by decide) }
  species := ['O', '3']
  trail := []
  lead_blank := forall_mem_of_all (by decide)
  trail_blank := forall_mem_of_all (by decide)
  species_head := by decide +kernel
  species_last := by
    rintro c ⟨⟩
    decide
  species_plain := forall_mem_of_all (by decide)

end AtmosChem
