import AtmosChem.Json.Printer
import AtmosChem.Json.Reader

/-!
# Numerals and literals read back

The scalars of a document are read as they are written.  A numeral goes on as long as digits, a
point or an exponent mark follow, so it is read back in front of a text that begins with none of
these (`NumeralEnds`).  A literal ends at its own quote, whatever stands behind it.

* `Numeral.read?_text`: a numeral is read back.
* `exists_scan?_literal`: so is a literal.  A text comes back as it was; the literal of half a
  surrogate pair denotes no text again.
-/

namespace AtmosChem

namespace Decimal

/-! ### The digits of a number -/

theorem digitsOf_zero : digitsOf 0 = [0] := rfl

/-- A positive number does not begin with a zero. -/
theorem exists_digitsBelow_eq_cons {fuel n : Nat} (h : n < fuel) (hpos : 0 < n) :
    ∃ d ds, digitsBelow fuel n = d :: ds ∧ d ≠ 0 := by
  induction fuel generalizing n with
  | zero => omega
  | succ fuel ih =>
    rw [digitsBelow]
    split
    next hn =>
      refine ⟨⟨n, hn⟩, [], rfl, ?_⟩
      intro hzero
      have hval : n = 0 := congrArg Fin.val hzero
      omega
    · obtain ⟨d, ds, hds, hd⟩ := ih (n := n / 10) (by omega) (by omega)
      exact ⟨d, ds ++ [_], by rw [hds, List.cons_append], hd⟩

theorem exists_digitsOf_eq_cons {n : Nat} (hpos : 0 < n) :
    ∃ d ds, digitsOf n = d :: ds ∧ d ≠ 0 :=
  exists_digitsBelow_eq_cons (Nat.lt_succ_self n) hpos

theorem digitsOf_ne_nil (n : Nat) : digitsOf n ≠ [] := by
  rcases Nat.eq_zero_or_pos n with rfl | hpos
  · simp [digitsOf_zero]
  · obtain ⟨d, ds, hds, -⟩ := exists_digitsOf_eq_cons hpos
    simp [hds]

/-- The text of a number begins with a digit. -/
theorem exists_decimalText_eq_cons (n : Nat) : ∃ d s, decimalText n = digitChar d :: s := by
  cases h : digitsOf n with
  | nil => exact absurd h (digitsOf_ne_nil n)
  | cons d ds => exact ⟨d, ds.map digitChar, by rw [decimalText, h, List.map_cons]⟩

theorem digitChar_ne_minus (d : Digit) : digitChar d ≠ '-' := by
  revert d
  decide

namespace Numeral

/-! ### Numerals -/

/-- Whether a numeral ends in front of a text. -/
def NumeralEnds (s : List Char) : Prop :=
  ∀ c ∈ s.head?, digit? c = none ∧ c ≠ '.' ∧ c ≠ 'e' ∧ c ≠ 'E'

theorem readWhole?_decimalText (n : Nat) {s : List Char} (h : ∀ c ∈ s.head?, digit? c = none) :
    readWhole? (decimalText n ++ s) = some (n, s) := by
  have htake := takeDigits_append (digitsOf n) h
  rcases Nat.eq_zero_or_pos n with rfl | hpos
  · rw [digitsOf_zero] at htake
    rw [readWhole?, decimalText, digitsOf_zero, htake]
    rfl
  · obtain ⟨d, ds, hds, hd⟩ := exists_digitsOf_eq_cons hpos
    have hnat := natOf_digitsOf n
    rw [hds] at htake hnat
    rw [readWhole?, decimalText, hds, htake]
    split
    next heq => simp at heq
    next heq =>
      obtain ⟨hcons, -⟩ := Prod.mk.inj heq
      exact absurd (List.cons.inj hcons).1 hd
    next heq =>
      obtain ⟨rfl, rfl⟩ := Prod.mk.inj heq
      rw [hnat]

theorem readFraction?_fractionText (ds : List Digit) {s : List Char}
    (h : ∀ c ∈ s.head?, digit? c = none ∧ c ≠ '.') :
    readFraction? (fractionText ds ++ s) = some (ds, s) := by
  cases ds with
  | nil =>
    cases s with
    | nil => rfl
    | cons c s =>
      have hc : c ≠ '.' := (h c (by simp)).2
      simp [fractionText, readFraction?, hc]
  | cons d ds =>
    have htake := takeDigits_append (d :: ds) (s := s) fun c hc => (h c hc).1
    rw [fractionText, List.cons_append, readFraction?, htake]
    exact nofun

theorem readExponentDigits?_decimalText (negative : Bool) (n : Nat) {s : List Char}
    (h : ∀ c ∈ s.head?, digit? c = none) :
    readExponentDigits? negative (decimalText n ++ s) =
      some (some (if negative then -(n : Int) else n), s) := by
  have htake := takeDigits_append (digitsOf n) h
  have hnat := natOf_digitsOf n
  rw [readExponentDigits?, decimalText, htake]
  split
  next heq =>
    obtain ⟨hnil, -⟩ := Prod.mk.inj heq
    exact absurd hnil (digitsOf_ne_nil n)
  next heq =>
    obtain ⟨rfl, rfl⟩ := Prod.mk.inj heq
    rw [hnat]

/-- The text of an optional exponent is read back. -/
theorem readExponent?_exponentText (e : Option Int) {s : List Char} (h : NumeralEnds s) :
    readExponent? (e.elim [] exponentText ++ s) = some (e, s) := by
  cases e with
  | none =>
    cases s with
    | nil => rfl
    | cons c s =>
      obtain ⟨-, -, he, hE⟩ := h c (by simp)
      simp [readExponent?, he, hE]
  | some e =>
    have hdigits := fun negative => readExponentDigits?_decimalText negative e.natAbs (s := s)
      fun c hc => (h c hc).1
    by_cases he : e < 0
    · have hval : -(e.natAbs : Int) = e := by omega
      have hread := hdigits true
      rw [if_pos rfl, hval] at hread
      simpa [exponentText, readExponent?, he] using hread
    · have hval : (e.natAbs : Int) = e := by omega
      have hread := hdigits false
      rw [if_neg Bool.false_ne_true, hval] at hread
      simpa [exponentText, readExponent?, he] using hread

theorem digit?_head_exponentText (e : Option Int) {s : List Char} (h : NumeralEnds s) :
    ∀ c ∈ (e.elim [] exponentText ++ s).head?, digit? c = none ∧ c ≠ '.' := by
  intro c hc
  cases e with
  | none => exact ⟨(h c hc).1, (h c hc).2.1⟩
  | some e =>
    obtain rfl : 'e' = c := by simpa [exponentText] using hc
    decide

theorem digit?_head_fractionText (ds : List Digit) {s : List Char}
    (h : ∀ c ∈ s.head?, digit? c = none) :
    ∀ c ∈ (fractionText ds ++ s).head?, digit? c = none := by
  intro c hc
  cases ds with
  | nil => exact h c hc
  | cons d ds =>
    obtain rfl : '.' = c := by simpa [fractionText] using hc
    decide

/-- **A numeral is read as it is written**, in front of a text where it ends. -/
theorem read?_text (n : Numeral) {s : List Char} (h : NumeralEnds s) :
    read? (n.text ++ s) = some (n, s) := by
  obtain ⟨negative, whole, fraction, exponent⟩ := n
  have hexp := readExponent?_exponentText exponent h
  have hfraction := readFraction?_fractionText fraction (digit?_head_exponentText exponent h)
  have hwhole := readWhole?_decimalText whole
    (digit?_head_fractionText fraction fun c hc => (digit?_head_exponentText exponent h c hc).1)
  cases negative with
  | true => simp [text, read?, hwhole, hfraction, hexp]
  | false =>
    obtain ⟨d, t, ht⟩ := exists_decimalText_eq_cons whole
    rw [ht, List.cons_append] at hwhole
    simp [text, read?, ht, digitChar_ne_minus, hwhole, hfraction, hexp]

/-- A numeral begins with a minus or a digit. -/
theorem exists_text_eq_cons (n : Numeral) :
    ∃ c s, n.text = c :: s ∧ (c = '-' ∨ ∃ d, c = digitChar d) := by
  obtain ⟨d, t, ht⟩ := exists_decimalText_eq_cons n.whole
  cases hn : n.negative with
  | true => exact ⟨'-', _, by simp only [text, hn, if_true, List.cons_append]; rfl, Or.inl rfl⟩
  | false =>
    refine ⟨digitChar d, t ++ fractionText n.fraction ++ n.exponent.elim [] exponentText, ?_,
      Or.inr ⟨d, rfl⟩⟩
    simp [text, hn, ht]

end Numeral

end Decimal

namespace Json

/-! ### Literals -/

/-- The characters with a short escape. -/
def shortEscaped : List Char := ['"', '\\', '\x08', '\x0c', '\n', '\r', '\t']

/-- The unit that a character of a text comes back as: a control without a short escape as an
escaped code unit, all else as itself. -/
def literalUnit (c : Char) : CodeUnit :=
  if c.toNat < 32 ∧ c ∉ shortEscaped then .escaped c.toNat else .char c

theorem hexValue?_hexChar (n : Nat) (h : n < 16) : hexValue? (hexChar n) = some n := by
  revert n
  decide

/-- The four digits of a control. -/
theorem hexValues?_control {n : Nat} (h : n < 32) :
    hexValues? '0' '0' (hexChar (n / 16)) (hexChar (n % 16)) = some n := by
  have hhigh := hexValue?_hexChar (n / 16) (by omega)
  have hlow := hexValue?_hexChar (n % 16) (by omega)
  have hzero : hexValue? '0' = some 0 := by decide
  have hsum : ((0 * 16 + 0) * 16 + n / 16) * 16 + n % 16 = n := by omega
  simp [hexValues?, hzero, hhigh, hlow]
  omega

/-- A short escape stands for its character. -/
theorem exists_literalChar_eq {c : Char} (h : c ∈ shortEscaped) :
    ∃ e ∈ ['"', '\\', 'b', 'f', 'n', 'r', 't'],
      literalChar c = ['\\', e] ∧ shortEscape? e = some c ∧ literalUnit c = .char c := by
  simp only [shortEscaped, List.mem_cons, List.not_mem_nil, or_false] at h
  rcases h with rfl | rfl | rfl | rfl | rfl | rfl | rfl
  · exact ⟨'"', by decide, rfl, rfl, rfl⟩
  · exact ⟨'\\', by decide, rfl, rfl, rfl⟩
  · exact ⟨'b', by decide, rfl, rfl, rfl⟩
  · exact ⟨'f', by decide, rfl, rfl, rfl⟩
  · exact ⟨'n', by decide, rfl, rfl, rfl⟩
  · exact ⟨'r', by decide, rfl, rfl, rfl⟩
  · exact ⟨'t', by decide, rfl, rfl, rfl⟩

theorem literalChar_of_not_mem {c : Char} (h : c ∉ shortEscaped) :
    literalChar c = if c.toNat < 32 then
      ['\\', 'u', '0', '0', hexChar (c.toNat / 16), hexChar (c.toNat % 16)] else [c] := by
  simp only [shortEscaped, List.mem_cons, List.not_mem_nil, or_false, not_or] at h
  simp only [literalChar, h, if_false]

/-- One character inside a literal is read as one unit. -/
theorem scan?_literalChar (c : Char) (s : List Char) :
    scan? (literalChar c ++ s) = (scan? s).map fun p => (literalUnit c :: p.1, p.2) := by
  by_cases hshort : c ∈ shortEscaped
  · obtain ⟨e, he, hchar, hescape, hunit⟩ := exists_literalChar_eq hshort
    have hu : e ≠ 'u' := by
      rintro rfl
      exact absurd he (by decide)
    rw [hchar, hunit, List.cons_append, List.singleton_append, scan?]
    · cases h : scan? s <;> simp [hescape]
    · intro _ _ _ _ _ h
      exact absurd h hu
  · rw [literalChar_of_not_mem hshort]
    split
    next hc =>
      have hunit : literalUnit c = .escaped c.toNat := if_pos ⟨hc, hshort⟩
      cases h : scan? s <;> simp [scan?, h, hunit, hexValues?_control hc]
    next hc =>
      have hunit : literalUnit c = .char c := if_neg fun h => hc h.1
      have hquote : c ≠ '"' := fun h => hshort (by simp [h, shortEscaped])
      have hslash : c ≠ '\\' := fun h => hshort (by simp [h, shortEscaped])
      rw [List.singleton_append, scan?]
      · cases scan? s <;> simp [hunit, hc, hslash]
      · exact hquote
      · intro _ _ _ _ _ h
        exact absurd h hslash
      · intro _ _ h
        exact absurd h hslash

theorem scan?_flatMap_literalChar (s r : List Char) :
    scan? (s.flatMap literalChar ++ '"' :: r) = some (s.map literalUnit, r) := by
  induction s with
  | nil => simp [scan?]
  | cons c s ih =>
    rw [List.flatMap_cons, List.append_assoc, scan?_literalChar, ih]
    rfl

theorem textOf?_escaped_cons {n : Nat} (h : n < 32) (us : List CodeUnit) :
    textOf? (.escaped n :: us) = (textOf? us).map (Char.ofNat n :: ·) := by
  have hlow : ¬ 0xd800 ≤ n := by omega
  match us with
  | [] => simp [textOf?, hlow]
  | .char c :: us => simp [textOf?, hlow]
  | .escaped m :: us => simp [textOf?, hlow]

theorem textOf?_literalUnit (c : Char) (us : List CodeUnit) :
    textOf? (literalUnit c :: us) = (textOf? us).map (c :: ·) := by
  rw [literalUnit]
  split
  next hc => rw [textOf?_escaped_cons hc.1, Char.ofNat_toNat]
  · rw [textOf?]

theorem textOf?_map_literalUnit (s : List Char) : textOf? (s.map literalUnit) = some s := by
  induction s with
  | nil => rfl
  | cons c s ih =>
    rw [List.map_cons, textOf?_literalUnit, ih]
    rfl

/-- **A literal is read as it is written**, whatever stands behind it. -/
theorem exists_scan?_literal (s : Option String) (r : List Char) :
    ∃ t us, literal s = '"' :: t ∧ scan? (t ++ r) = some (us, r) ∧
      (textOf? us).map String.ofList = s := by
  cases s with
  | none =>
    refine ⟨['\\', 'u', 'd', '8', '0', '0', '"'], [.escaped 0xd800], rfl, ?_, rfl⟩
    simp [scan?, hexValues?, hexValue?]
  | some s =>
    refine ⟨s.toList.flatMap literalChar ++ ['"'], s.toList.map literalUnit, rfl, ?_, ?_⟩
    · rw [List.append_assoc, List.singleton_append, scan?_flatMap_literalChar]
    · rw [textOf?_map_literalUnit, Option.map_some, String.ofList_toList]

end Json

end AtmosChem
