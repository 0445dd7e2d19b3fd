import AtmosChem.Proofs.Cutting
import AtmosChem.Proofs.Trimming
import AtmosChem.Rate.Coefficient

/-!
# Spelled numbers

The marks that keep numbers apart cannot be part of one: what is read as a number consists of
digits, signs, points and a few letters (`mem_numberChars`), and its spelling has a few characters
more (`mem_spellingChars`).  So a list of spelled numbers is read number by number, and spaces make
no difference anywhere.

* `coefficients_intercalate`: the numbers of a list are those of its parts.
* `coefficients_congr`: texts that differ in spaces only have the same numbers.
-/

namespace AtmosChem

open Text

namespace Decimal

/-! ### The characters of numbers -/

/-- The letters of the names of doubles. -/
def nameLetters : List Char := ['n', 'a', 'i', 'f', 't', 'y']

/-- The characters of numbers: digits, signs, the point, the exponent letter and the letters of the
names. -/
def numberChars : List Char :=
  (List.finRange 10).map digitChar ++ ['+', '-', '.', 'e', 'E'] ++ nameLetters ++
    nameLetters.map Char.toUpper

theorem digitChar_of_digit? {c : Char} {d : Digit} (h : digit? c = some d) : digitChar d = c := by
  rw [digit?] at h
  split at h
  next hc =>
    have hsum : 48 + (c.toNat - 48) = c.toNat := by omega
    rw [← Option.some.inj h, digitChar, hsum, Char.ofNat_toNat]
  · simp at h

theorem digitChar_mem (d : Digit) : digitChar d ∈ numberChars := by
  revert d
  decide

/-- What stands in front of the rest is digits. -/
theorem mem_takeDigits {s : List Char} {c : Char} (h : c ∈ s) :
    c ∈ (takeDigits s).2 ∨ c ∈ numberChars := by
  induction s with
  | nil => exact absurd h List.not_mem_nil
  | cons x s ih =>
    rw [takeDigits]
    split
    next d hd =>
      rcases List.mem_cons.1 h with rfl | hm
      · right
        rw [← digitChar_of_digit? hd]
        exact digitChar_mem d
      · exact ih hm
    · exact Or.inl h

theorem forall_mem_of_takeDigits {s rest : List Char} {ds : List Digit}
    (h : takeDigits s = (ds, rest)) (hrest : ∀ c ∈ rest, c ∈ numberChars) :
    ∀ c ∈ s, c ∈ numberChars := by
  intro c hc
  have hm := mem_takeDigits hc
  rw [h] at hm
  exact hm.elim (hrest c) id

theorem mem_of_readExponentPart? {s : List Char} {e : Int} (h : readExponentPart? s = some e) :
    ∀ c ∈ s, c ∈ numberChars := by
  unfold readExponentPart? at h
  split at h
  next negative digits hsign =>
    split at h
    next d ds htake =>
      have hdigits := forall_mem_of_takeDigits htake nofun
      -- a plus, a minus or no sign
      split at hsign
      · obtain ⟨-, rfl⟩ := Prod.mk.inj hsign
        exact List.forall_mem_cons.2 ⟨by decide, hdigits⟩
      · obtain ⟨-, rfl⟩ := Prod.mk.inj hsign
        exact List.forall_mem_cons.2 ⟨by decide, hdigits⟩
      · obtain ⟨-, rfl⟩ := Prod.mk.inj hsign
        exact hdigits
    · simp at h

theorem mem_of_readUnsigned? {s : List Char} {x : Float} (h : readUnsigned? s = some x) :
    ∀ c ∈ s, c ∈ numberChars := by
  rw [readUnsigned?] at h
  split at h
  next whole afterWhole hwhole =>
    split at h
    next fraction afterFraction hfraction =>
      -- nothing is left, or an exponent
      have hrest : ∀ c ∈ afterFraction, c ∈ numberChars := by
        split at h
        · simp at h
        · split at h
          · exact nofun
          next c r =>
            split at h
            next he =>
              obtain ⟨e, hexp, -⟩ := Option.map_eq_some_iff.1 h
              refine List.forall_mem_cons.2 ⟨?_, mem_of_readExponentPart? hexp⟩
              rcases he with rfl | rfl <;> decide
            · simp at h
      refine forall_mem_of_takeDigits hwhole ?_
      split at hfraction
      next r => exact List.forall_mem_cons.2 ⟨by decide, forall_mem_of_takeDigits hfraction hrest⟩
      next r =>
        obtain ⟨-, rfl⟩ := Prod.mk.inj hfraction
        exact hrest

/-- A character is its lower case or the upper case of it. -/
theorem eq_toLower_or (c : Char) : c = c.toLower ∨ c = c.toLower.toUpper := by
  have hupper : ∀ n ∈ List.range' 65 26, Char.ofNat n = (Char.ofNat n).toLower.toUpper := by decide
  by_cases h : 65 ≤ c.toNat ∧ c.toNat < 91
  · right
    have hn := hupper c.toNat (List.mem_range'_1.2 h)
    rwa [Char.ofNat_toNat] at hn
  · left
    have hno : ¬ (c.val ≥ 'A'.val ∧ c.val ≤ 'Z'.val) := fun hc =>
      h ⟨UInt32.le_iff_toNat_le.1 hc.1, Nat.lt_succ_of_le (UInt32.le_iff_toNat_le.1 hc.2)⟩
    have hlower : c.toLower = c := dif_neg hno
    exact hlower.symm

theorem mem_of_named? {s : List Char} {x : Float} (h : named? (s.map Char.toLower) = some x) :
    ∀ c ∈ s, c ∈ numberChars := by
  have hletters : ∀ c ∈ s.map Char.toLower, c ∈ nameLetters := by
    rw [named?] at h
    split at h
    next hs =>
      rw [hs]
      exact forall_mem_of_all (by decide)
    · split at h
      next hs => rcases hs with hs | hs <;> rw [hs] <;> exact forall_mem_of_all (by decide)
      · simp at h
  have hboth : ∀ c ∈ nameLetters, c ∈ numberChars ∧ c.toUpper ∈ numberChars :=
    forall_mem_of_all (by decide)
  intro c hc
  have hlower := hboth c.toLower (hletters _ (List.mem_map_of_mem hc))
  rcases eq_toLower_or c with he | he
  · rw [he]
    exact hlower.1
  · rw [he]
    exact hlower.2

/-- **The characters of a number**: what is read as one has no others. -/
theorem mem_numberChars {s : List Char} {x : Float} (h : readFloat? s = some x) :
    ∀ c ∈ s, c ∈ numberChars := by
  have hmagnitude : ∀ {s : List Char} {x : Float}, readMagnitude? s = some x →
      ∀ c ∈ s, c ∈ numberChars := by
    intro s x h
    rcases Option.or_eq_some_iff.1 h with hname | ⟨-, hdigits⟩
    · exact mem_of_named? hname
    · exact mem_of_readUnsigned? hdigits
  unfold readFloat? at h
  split at h
  · obtain ⟨y, hy, -⟩ := Option.map_eq_some_iff.1 h
    exact List.forall_mem_cons.2 ⟨by decide, hmagnitude hy⟩
  · exact List.forall_mem_cons.2 ⟨by decide, hmagnitude h⟩
  · exact hmagnitude h

end Decimal

open Decimal

/-! ### Their spellings -/

/-- The characters of spelled numbers: those of numbers, spaces, the exponent letter `D` and the
letters of the kind suffix. -/
def spellingChars : List Char := [' ', 'D', '_', 'd', 'p'] ++ numberChars

theorem mem_eraseKind {s : List Char} {c : Char} (h : c ∈ s) :
    c ∈ eraseKind s ∨ c ∈ ['_', 'd', 'p'] := by
  fun_induction eraseKind s with
  | case1 s ih =>
    have hcases : c ∈ ['_', 'd', 'p'] ∨ c ∈ s := by
      rw [← List.mem_append]
      exact h
    exact hcases.elim Or.inr ih
  | case2 x s _ ih =>
    rcases List.mem_cons.1 h with rfl | hm
    · exact Or.inl List.mem_cons_self
    · exact (ih hm).imp_left (List.mem_cons_of_mem x)
  | case3 => exact Or.inl h

/-- **The characters of a spelled number**: what stands for one has no others. -/
theorem mem_spellingChars {s : List Char} {x : Float} (h : coefficient? s = some x) :
    ∀ c ∈ s, c ∈ spellingChars := by
  intro c hc
  by_cases hspace : c = ' '
  · rw [hspace]
    decide
  have hfilter : c ∈ s.filter fun d => d ≠ ' ' := by simp [hc, hspace]
  rcases mem_eraseKind hfilter with hm | hm
  · have hnumber := mem_numberChars h (respellChar c) (List.mem_map_of_mem hm)
    rw [respellChar] at hnumber
    split at hnumber
    next hd =>
      rw [hd]
      decide
    · exact List.mem_append_right _ hnumber
  · have hkind : ∀ d ∈ ['_', 'd', 'p'], d ∈ spellingChars := forall_mem_of_all (by decide)
    exact hkind c hm

/-! ### Spaces -/

/-- A text without its spaces. -/
def withoutSpaces (s : List Char) : List Char := s.filter fun c => c ≠ ' '

theorem withoutSpaces_append (s t : List Char) :
    withoutSpaces (s ++ t) = withoutSpaces s ++ withoutSpaces t := List.filter_append s t

theorem coefficient?_congr {s t : List Char} (h : withoutSpaces s = withoutSpaces t) :
    coefficient? s = coefficient? t := by
  rw [withoutSpaces, withoutSpaces] at h
  rw [coefficient?, coefficient?, respell, respell, h]

@[simp] theorem withoutSpaces_withoutSpaces (s : List Char) :
    withoutSpaces (withoutSpaces s) = withoutSpaces s := by
  simp [withoutSpaces]

theorem splitOn_withoutSpaces (s : List Char) :
    (withoutSpaces s).splitOn ',' = (s.splitOn ',').map withoutSpaces := by
  induction s with
  | nil => rfl
  | cons c s ih =>
    simp only [List.splitOn] at ih ⊢
    have hcons : withoutSpaces (c :: s) =
        if c = ' ' then withoutSpaces s else c :: withoutSpaces s := by
      by_cases hc : c = ' ' <;> simp [withoutSpaces, hc]
    rw [List.splitOnP_cons_eq_if_modifyHead, hcons]
    cases hs : s.splitOnP (· == ',') with
    | nil => exact absurd hs (List.splitOnP_ne_nil _ s)
    | cons t ts =>
      rw [hs] at ih
      by_cases hspace : c = ' '
      · rw [if_pos hspace, ih, hspace]
        rfl
      · rw [if_neg hspace, List.splitOnP_cons_eq_if_modifyHead, ih]
        by_cases hcomma : (c == ',') = true
        · rw [if_pos hcomma, if_pos hcomma]
          rfl
        · rw [if_neg hcomma, if_neg hcomma]
          simp [withoutSpaces, hspace]

/-- **Spaces make no difference** to the numbers of a list. -/
theorem coefficients_congr {s t : List Char} (h : withoutSpaces s = withoutSpaces t) :
    coefficients s = coefficients t := by
  have hspaces : ∀ u, coefficients u = coefficients (withoutSpaces u) := by
    intro u
    have hone : (fun v => coefficient? (withoutSpaces v)) = coefficient? :=
      funext fun v => coefficient?_congr (withoutSpaces_withoutSpaces v)
    rw [coefficients, coefficients, splitOn_withoutSpaces, List.filterMap_map]
    exact congrArg (List.filterMap · _) hone.symm
  rw [hspaces s, h, ← hspaces t]

theorem coefficients_cons_space (s : List Char) : coefficients (' ' :: s) = coefficients s :=
  coefficients_congr rfl

/-- A text without blanks other than spaces may be trimmed. -/
theorem withoutSpaces_trimEnd {s : List Char} (h : ∀ c ∈ s, isBlank c = true → c = ' ') :
    withoutSpaces (trimEnd s) = withoutSpaces s := by
  obtain ⟨trail, hblank, he⟩ := exists_eq_trimEnd s
  have htrail : withoutSpaces trail = [] := by
    refine List.filter_eq_nil_iff.2 ?_
    intro c hc
    have hspace := h c (by rw [he]; exact List.mem_append_right _ hc) (hblank c hc)
    simp [hspace]
  have happend := congrArg withoutSpaces he
  rw [withoutSpaces_append, htrail, List.append_nil] at happend
  exact happend.symm

/-! ### Lists -/

/-- Texts with commas and spaces between them. -/
def commaList (parts : List (List Char)) : List Char := [',', ' '].intercalate parts

theorem coefficients_of_not_mem {s : List Char} (h : ',' ∉ s) :
    coefficients s = (coefficient? s).toList := by
  rw [coefficients, splitOn_of_not_mem h, List.filterMap_cons, List.filterMap_nil]
  cases coefficient? s <;> rfl

theorem coefficients_append_comma {a : List Char} (h : ',' ∉ a) (b : List Char) :
    coefficients (a ++ ',' :: b) = (coefficient? a).toList ++ coefficients b := by
  rw [← coefficients_of_not_mem h, coefficients, splitOn_append_cons, List.filterMap_append]
  rfl

/-- **The numbers of a list** are those of its parts; a part that is none is left out.  Spaces may
follow the commas. -/
theorem coefficients_intercalate {gap : List Char} (hgap : withoutSpaces gap = [])
    {parts : List (List Char)} (h : ∀ s ∈ parts, ',' ∉ s) :
    coefficients ((',' :: gap).intercalate parts) = parts.filterMap coefficient? := by
  induction parts with
  | nil => rfl
  | cons s parts ih =>
    have hs := h s List.mem_cons_self
    have hcons : (s :: parts).filterMap coefficient? =
        (coefficient? s).toList ++ parts.filterMap coefficient? := by
      rw [List.filterMap_cons]
      cases coefficient? s <;> rfl
    rw [hcons]
    cases parts with
    | nil =>
      rw [List.intercalate_singleton, coefficients_of_not_mem hs, List.filterMap_nil,
        List.append_nil]
    | cons t parts =>
      have hrest := ih fun u hu => h u (List.mem_cons_of_mem s hu)
      have hspaces : ∀ u, coefficients (gap ++ u) = coefficients u := fun u =>
        coefficients_congr (by rw [withoutSpaces_append, hgap, List.nil_append])
      rw [List.intercalate_cons_cons, List.append_assoc, List.cons_append,
        coefficients_append_comma hs, hspaces, hrest]

theorem coefficients_commaList {parts : List (List Char)} (h : ∀ s ∈ parts, ',' ∉ s) :
    coefficients (commaList parts) = parts.filterMap coefficient? :=
  coefficients_intercalate rfl h

theorem not_mem_commaList {c : Char} {parts : List (List Char)} (hc : c ∉ [',', ' '])
    (h : ∀ s ∈ parts, c ∉ s) : c ∉ commaList parts :=
  not_mem_intercalate hc h

end AtmosChem
