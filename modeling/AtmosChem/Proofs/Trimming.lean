import AtmosChem.Text.Alphabetic
import AtmosChem.Text.Cut

/-!
# Trimmed texts

What trimming does to a text that is put together from parts.  A text is **tight** if no blank
stands at its ends; trimming gives the tight text in the middle (`exists_eq_trim`), and a character
that is not blank keeps everything on its other side as it is (`trim_append_cons`).

* `Tight`, `trim_eq_self_iff`: the texts that trimming leaves alone.
* `trim_pad`: blanks around a text are taken off.
* `isAlphabetic_of_isBlank`: no blank is a letter.
-/

namespace AtmosChem.Text

/-! ### Blanks are no letters -/

/-- The 25 blanks, one by one. -/
def blankCodes : List Nat := blankRanges.flatMap fun r => List.range' r.1 (r.2 - r.1 + 1)

theorem mem_of_inRanges {rs : List (Nat × Nat)} {n : Nat} (h : inRanges rs n = true) :
    n ∈ rs.flatMap fun r => List.range' r.1 (r.2 - r.1 + 1) := by
  induction rs with
  | nil => simp [inRanges] at h
  | cons r rs ih =>
    obtain ⟨lo, hi⟩ := r
    rw [inRanges] at h
    rw [List.flatMap_cons, List.mem_append]
    split at h
    · simp at h
    · rw [Bool.or_eq_true, decide_eq_true_eq] at h
      rcases h with h | h
      · left
        rw [List.mem_range'_1]
        omega
      · exact Or.inr (ih h)

/-- **No blank is a letter.** -/
theorem isAlphabetic_of_isBlank {c : Char} (h : isBlank c = true) : isAlphabetic c = false := by
  have hall : ∀ n ∈ blankCodes, inRanges alphabeticRanges n = false := by decide +kernel
  exact hall c.toNat (mem_of_inRanges h)

theorem isBlank_of_isAlphabetic {c : Char} (h : isAlphabetic c = true) : isBlank c = false := by
  cases hb : isBlank c with
  | false => rfl
  | true =>
    rw [isAlphabetic_of_isBlank hb] at h
    exact absurd h (by decide)

/-! ### One end -/

theorem isBlank_of_mem_nil : ∀ c ∈ ([] : List Char), isBlank c = true := nofun

theorem not_mem_of_blanks {c : Char} {s : List Char} (h : ∀ d ∈ s, isBlank d = true)
    (hc : isBlank c = false) : c ∉ s := by
  intro hm
  rw [h c hm] at hc
  exact absurd hc (by decide)

/-- What can be checked of a character can be checked of all characters of a text. -/
theorem forall_mem_of_all {s : List Char} {p : Char → Prop} [DecidablePred p]
    (h : s.all (fun c => p c) = true) : ∀ c ∈ s, p c := by
  intro c hc
  exact of_decide_eq_true (List.all_eq_true.1 h c hc)

theorem trimEnd_eq_reverse (s : List Char) : trimEnd s = (trimStart s.reverse).reverse := rfl

theorem trimStart_append_of_blanks {lead : List Char} (h : ∀ c ∈ lead, isBlank c = true)
    (s : List Char) : trimStart (lead ++ s) = trimStart s :=
  List.dropWhile_append_of_pos h

theorem trimEnd_append_of_blanks {trail : List Char} (h : ∀ c ∈ trail, isBlank c = true)
    (s : List Char) : trimEnd (s ++ trail) = trimEnd s := by
  rw [trimEnd_eq_reverse, List.reverse_append,
    trimStart_append_of_blanks (fun c hc => h c (List.mem_reverse.1 hc)), ← trimEnd_eq_reverse]

theorem trimStart_append_cons {c : Char} (h : isBlank c = false) (a b : List Char) :
    trimStart (a ++ c :: b) = trimStart a ++ c :: b := by
  induction a with
  | nil => exact trimStart_cons_of_not_blank h
  | cons x a ih =>
    cases hx : isBlank x with
    | true => rw [List.cons_append, trimStart_cons_of_blank hx, trimStart_cons_of_blank hx, ih]
    | false =>
      rw [List.cons_append, trimStart_cons_of_not_blank hx, trimStart_cons_of_not_blank hx]
      rfl

theorem trimEnd_append_cons {c : Char} (h : isBlank c = false) (a b : List Char) :
    trimEnd (a ++ c :: b) = a ++ c :: trimEnd b := by
  have he : (a ++ c :: b).reverse = b.reverse ++ c :: a.reverse := by simp
  rw [trimEnd_eq_reverse, he, trimStart_append_cons h, trimEnd_eq_reverse]
  simp

theorem trimStart_of_head {s : List Char} (h : ∀ c ∈ s.head?, isBlank c = false) :
    trimStart s = s := by
  cases s with
  | nil => rfl
  | cons c s => exact trimStart_cons_of_not_blank (h c rfl)

theorem trimEnd_of_last {s : List Char} (h : ∀ c ∈ s.getLast?, isBlank c = false) :
    trimEnd s = s := by
  rw [trimEnd_eq_reverse, trimStart_of_head (by simpa using h), List.reverse_reverse]

theorem head_trimStart (s : List Char) : ∀ c ∈ (trimStart s).head?, isBlank c = false := by
  induction s with
  | nil => simp
  | cons x s ih =>
    cases hx : isBlank x with
    | true => rw [trimStart_cons_of_blank hx]; exact ih
    | false => rw [trimStart_cons_of_not_blank hx]; simpa using hx

theorem last_trimEnd (s : List Char) : ∀ c ∈ (trimEnd s).getLast?, isBlank c = false := by
  rw [trimEnd_eq_reverse, List.getLast?_reverse]
  exact head_trimStart s.reverse

theorem exists_eq_trimStart (s : List Char) :
    ∃ lead, (∀ c ∈ lead, isBlank c = true) ∧ s = lead ++ trimStart s := by
  refine ⟨s.takeWhile isBlank, fun c hc => ?_, List.takeWhile_append_dropWhile.symm⟩
  exact List.all_eq_true.1 List.all_takeWhile c hc

theorem exists_eq_trimEnd (s : List Char) :
    ∃ trail, (∀ c ∈ trail, isBlank c = true) ∧ s = trimEnd s ++ trail := by
  obtain ⟨lead, hb, he⟩ := exists_eq_trimStart s.reverse
  refine ⟨lead.reverse, fun c hc => hb c (List.mem_reverse.1 hc), ?_⟩
  rw [trimEnd_eq_reverse, ← List.reverse_append, ← he, List.reverse_reverse]

/-! ### Both ends -/

/-- A text without blanks at its ends. -/
structure Tight (s : List Char) : Prop where
  head : ∀ c ∈ s.head?, isBlank c = false
  last : ∀ c ∈ s.getLast?, isBlank c = false

theorem tight_of_forall {s : List Char} (h : ∀ c ∈ s, isBlank c = false) : Tight s :=
  ⟨fun c hc => h c (List.mem_of_mem_head? hc), fun c hc => h c (List.mem_of_getLast? hc)⟩

theorem trim_of_tight {s : List Char} (h : Tight s) : trim s = s := by
  rw [trim, trimStart_of_head h.head, trimEnd_of_last h.last]

/-- **Blanks around a text are taken off.** -/
theorem trim_pad {lead trail : List Char} (hl : ∀ c ∈ lead, isBlank c = true)
    (ht : ∀ c ∈ trail, isBlank c = true) (s : List Char) : trim (lead ++ s ++ trail) = trim s := by
  rw [trim, List.append_assoc, trimStart_append_of_blanks hl, trim]
  obtain ⟨front, hf, he⟩ := exists_eq_trimStart s
  cases hs : trimStart s with
  | nil =>
    rw [hs, List.append_nil] at he
    subst he
    have hblank : ∀ c ∈ s ++ trail, isBlank c = true := by
      intro c hc
      exact (List.mem_append.1 hc).elim (hf c) (ht c)
    have h := trimStart_append_of_blanks hblank []
    rw [List.append_nil] at h
    rw [h]
    rfl
  | cons c rest =>
    have hc : isBlank c = false := head_trimStart s c (by rw [hs]; rfl)
    rw [he, hs, List.append_assoc, trimStart_append_of_blanks hf, List.cons_append,
      trimStart_cons_of_not_blank hc, ← List.cons_append, trimEnd_append_of_blanks ht]

theorem exists_eq_trim (s : List Char) :
    ∃ lead trail, (∀ c ∈ lead, isBlank c = true) ∧ (∀ c ∈ trail, isBlank c = true) ∧
      s = lead ++ trim s ++ trail := by
  obtain ⟨lead, hl, he⟩ := exists_eq_trimStart s
  obtain ⟨trail, ht, he'⟩ := exists_eq_trimEnd (trimStart s)
  refine ⟨lead, trail, hl, ht, ?_⟩
  rw [trim, List.append_assoc, ← he', ← he]

theorem trim_eq_nil_iff {s : List Char} : trim s = [] ↔ ∀ c ∈ s, isBlank c = true := by
  constructor
  · intro h
    obtain ⟨lead, trail, hl, ht, he⟩ := exists_eq_trim s
    rw [he, h, List.append_nil]
    exact List.forall_mem_append.2 ⟨hl, ht⟩
  · intro h
    have hpad := trim_pad h isBlank_of_mem_nil []
    rwa [List.append_nil, List.append_nil] at hpad

/-- A character that is not blank keeps each side from being trimmed at the other's end. -/
theorem trim_append_cons {c : Char} (h : isBlank c = false) (a b : List Char) :
    trim (a ++ c :: b) = trimStart a ++ c :: trimEnd b := by
  rw [trim, trimStart_append_cons h, trimEnd_append_cons h]

theorem tight_trim (s : List Char) : Tight (trim s) := by
  refine ⟨?_, last_trimEnd _⟩
  obtain ⟨trail, _, he⟩ := exists_eq_trimEnd (trimStart s)
  have hh := head_trimStart s
  cases ht : trim s with
  | nil => simp
  | cons c rest =>
    intro d hd
    rw [← trim, ht] at he
    rw [he] at hh
    exact hh d (by simpa using hd)

theorem trim_eq_self_iff {s : List Char} : trim s = s ↔ Tight s :=
  ⟨fun h => h ▸ tight_trim s, trim_of_tight⟩

instance (s : List Char) : Decidable (Tight s) := decidable_of_iff (trim s = s) trim_eq_self_iff

@[simp] theorem trim_trimEnd (s : List Char) : trim (trimEnd s) = trim s := by
  obtain ⟨trail, ht, he⟩ := exists_eq_trimEnd s
  have h := trim_pad isBlank_of_mem_nil ht (trimEnd s)
  rw [List.nil_append, ← he] at h
  exact h.symm

theorem getLast?_append_right {a b : List Char} (hb : b ≠ []) :
    (a ++ b).getLast? = b.getLast? := by
  rw [List.getLast?_append, Option.or_of_isSome (List.getLast?_isSome.2 hb)]

/-- Two texts that do not end in a blank are trimmed at the beginning of the first one only. -/
theorem trim_append {a b : List Char} (ha : trim a ≠ []) (hb : b ≠ [])
    (hal : ∀ c ∈ a.getLast?, isBlank c = false) (hbl : ∀ c ∈ b.getLast?, isBlank c = false) :
    trim (a ++ b) = trim a ++ b := by
  obtain ⟨lead, hl, he⟩ := exists_eq_trimStart a
  have hne : trimStart a ≠ [] := by
    intro h
    rw [trim, h, trimEnd_nil] at ha
    exact ha rfl
  have hstart : trimStart (a ++ b) = trimStart a ++ b := by
    have hhead : ∀ c ∈ (trimStart a ++ b).head?, isBlank c = false := by
      rw [List.head?_append, Option.or_of_isSome (List.isSome_head?.2 hne)]
      exact head_trimStart a
    rw [he, List.append_assoc, trimStart_append_of_blanks hl, trimStart_of_head hhead, ← he]
  have hlast : ∀ c ∈ (trimStart a).getLast?, isBlank c = false := by
    rw [he, getLast?_append_right hne] at hal
    exact hal
  rw [trim, hstart, trim, trimEnd_of_last hlast]
  refine trimEnd_of_last ?_
  rw [getLast?_append_right hb]
  exact hbl

theorem mem_of_mem_trim {c : Char} {s : List Char} (h : c ∈ trim s) : c ∈ s := by
  obtain ⟨lead, trail, _, _, he⟩ := exists_eq_trim s
  rw [he]
  simp [h]

end AtmosChem.Text
