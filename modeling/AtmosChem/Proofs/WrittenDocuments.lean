import AtmosChem.Proofs.WrittenScalars

/-!
# Documents read back

A document has one value: the text that is written for a value is read as that value, on one line or
on many (`read?_render`).  The proof goes by way of lexemes, like the reading itself.

* `lexemes`: the lexemes of a value.  They do not depend on lines and blanks.
* `lexemes?_renderAt`: the text of a value has these lexemes.
* `run?_lexemes`: the machine makes the value of them.
-/

namespace AtmosChem.Json

open Decimal (Numeral digit? digitChar)

mutual

/-- The lexemes of a value. -/
def lexemes : Json → List Lexeme
  | null => [.null]
  | bool b => [.bool b]
  | number n => [.number n]
  | string s => [.string s]
  | array [] => [.openArray, .closeArray]
  | array (v :: vs) => .openArray :: lexemes v ++ lexemesOfItems vs
  | object [] => [.openObject, .closeObject]
  | object ((k, v) :: fs) => .openObject :: .string k :: .colon :: lexemes v ++ lexemesOfFields fs

/-- The lexemes of the items after the first one, with the closing bracket. -/
def lexemesOfItems : List Json → List Lexeme
  | [] => [.closeArray]
  | v :: vs => .comma :: lexemes v ++ lexemesOfItems vs

/-- The lexemes of the fields after the first one, with the closing bracket. -/
def lexemesOfFields : List (Option String × Json) → List Lexeme
  | [] => [.closeObject]
  | (k, v) :: fs => .comma :: .string k :: .colon :: lexemes v ++ lexemesOfFields fs

end

/-! ### Lexemes at the beginning of a text -/

/-- Whether a text consists of given lexemes, however much fuel there is beyond its length. -/
def Consists (s : List Char) (xs : List Lexeme) : Prop :=
  ∀ fuel, s.length ≤ fuel → lexemesWithin? fuel s = some xs

theorem Consists.lexemes? {s : List Char} {xs : List Lexeme} (h : Consists s xs) :
    Json.lexemes? s = some xs :=
  h s.length (Nat.le_refl _)

theorem consists_nil : Consists [] [] := by
  intro fuel _
  cases fuel <;> rfl

theorem Consists.gap {c : Char} {s : List Char} {xs : List Lexeme} (hc : isGap c = true)
    (h : Consists s xs) : Consists (c :: s) xs := by
  intro fuel hfuel
  rw [List.length_cons] at hfuel
  cases fuel with
  | zero => omega
  | succ fuel =>
    rw [lexemesWithin?, if_pos hc]
    exact h fuel (by omega)

/-- A text that begins with a lexeme, what follows being no longer than the rest. -/
theorem Consists.cons {c : Char} {s r : List Char} {x : Lexeme} {xs : List Lexeme}
    (hc : isGap c = false) (hx : lexeme? (c :: s) = some (x, r)) (hr : r.length ≤ s.length)
    (h : Consists r xs) : Consists (c :: s) (x :: xs) := by
  intro fuel hfuel
  rw [List.length_cons] at hfuel
  cases fuel with
  | zero => omega
  | succ fuel =>
    have hrest := h fuel (by omega)
    rw [lexemesWithin?, if_neg (by simp [hc]), hx]
    simp [hrest]

theorem Consists.blanks {s : List Char} {xs : List Lexeme} (h : Consists s xs) (n : Nat) :
    Consists (List.replicate n ' ' ++ s) xs := by
  induction n with
  | zero => exact h
  | succ n ih => exact ih.gap (by decide)

theorem Consists.newline {s : List Char} {xs : List Lexeme} (h : Consists s xs) (indent : Indent)
    (depth : Nat) : Consists (newline indent depth ++ s) xs := by
  cases indent with
  | none => exact h
  | some width => exact (h.blanks _).gap (by decide)

theorem Consists.keyMark {s : List Char} {xs : List Lexeme} (h : Consists s xs) (indent : Indent) :
    Consists (keyMark indent ++ s) (.colon :: xs) := by
  cases indent with
  | none => exact h.cons (by decide) rfl (Nat.le_refl _)
  | some width => exact (h.gap (c := ' ') (by decide)).cons (by decide) rfl (Nat.le_refl _)

theorem Consists.literal {s : List Char} {xs : List Lexeme} (h : Consists s xs)
    (k : Option String) : Consists (literal k ++ s) (.string k :: xs) := by
  obtain ⟨t, us, hk, hscan, htext⟩ := exists_scan?_literal k s
  rw [hk, List.cons_append]
  refine Consists.cons (r := s) (by decide) ?_ (by simp) h
  simp [lexeme?, hscan, htext]

/-- The characters that lexemes other than numbers begin with. -/
def lexemeMarks : List Char := ['[', ']', '\x7b', '\x7d', ',', ':', 'n', 't', 'f', '"']

theorem lexeme?_of_not_mem {c : Char} (h : c ∉ lexemeMarks) (s : List Char) :
    lexeme? (c :: s) = (Numeral.read? (c :: s)).map fun p => (.number p.1, p.2) := by
  simp only [lexemeMarks, List.mem_cons, List.not_mem_nil, or_false, not_or] at h
  rw [lexeme?] <;> simp_all

/-- A text that begins with a minus or a digit begins with a number. -/
theorem lexeme?_of_digit {c : Char} (hc : c = '-' ∨ ∃ d, c = digitChar d) (s : List Char) :
    lexeme? (c :: s) = (Numeral.read? (c :: s)).map fun p => (.number p.1, p.2) := by
  have hall : ∀ d, digitChar d ∉ lexemeMarks := by decide
  refine lexeme?_of_not_mem ?_ s
  rcases hc with rfl | ⟨d, rfl⟩
  · decide
  · exact hall d

theorem isGap_of_digit {c : Char} (hc : c = '-' ∨ ∃ d, c = digitChar d) : isGap c = false := by
  have hall : ∀ d, isGap (digitChar d) = false := by decide
  rcases hc with rfl | ⟨d, rfl⟩
  · decide
  · exact hall d

theorem Consists.number {s : List Char} {xs : List Lexeme} (h : Consists s xs)
    (hs : Numeral.NumeralEnds s) (n : Numeral) : Consists (n.text ++ s) (.number n :: xs) := by
  obtain ⟨c, t, ht, hc⟩ := n.exists_text_eq_cons
  have hread := n.read?_text hs
  rw [ht, List.cons_append] at hread ⊢
  refine Consists.cons (isGap_of_digit hc) ?_ (by simp) h
  rw [lexeme?_of_digit hc, hread]
  rfl

/-! ### The text of a value -/

/-- What may stand behind a value: the end, a separator, a closing bracket or a new line. -/
def ValueEnds (s : List Char) : Prop := ∀ c ∈ s.head?, c ∈ [',', ']', '\x7d', '\n']

theorem ValueEnds.numeralEnds {s : List Char} (h : ValueEnds s) : Numeral.NumeralEnds s := by
  intro c hc
  have hmem := h c hc
  simp only [List.mem_cons, List.not_mem_nil, or_false] at hmem
  rcases hmem with rfl | rfl | rfl | rfl <;> decide

theorem valueEnds_nil : ValueEnds [] := by
  intro c hc
  simp at hc

theorem valueEnds_newline (indent : Indent) (depth : Nat) {c : Char} {s : List Char}
    (hc : c ∈ [',', ']', '\x7d', '\n']) : ValueEnds (newline indent depth ++ c :: s) := by
  intro x hx
  cases indent with
  | none =>
    obtain rfl : c = x := by simpa [newline] using hx
    exact hc
  | some width =>
    obtain rfl : '\n' = x := by simpa [newline] using hx
    decide

theorem valueEnds_renderItems (indent : Indent) (depth : Nat) (vs : List Json) (s : List Char) :
    ValueEnds (renderItems indent depth vs ++ s) := by
  cases vs with
  | nil =>
    rw [renderItems, List.append_assoc]
    exact valueEnds_newline indent depth (by decide)
  | cons v vs =>
    intro c hc
    obtain rfl : ',' = c := by simpa [renderItems] using hc
    decide

theorem valueEnds_renderFields (indent : Indent) (depth : Nat)
    (fs : List (Option String × Json)) (s : List Char) :
    ValueEnds (renderFields indent depth fs ++ s) := by
  cases fs with
  | nil =>
    rw [renderFields, List.append_assoc]
    exact valueEnds_newline indent depth (by decide)
  | cons f fs =>
    intro c hc
    obtain rfl : ',' = c := by simpa [renderFields] using hc
    decide

mutual

/-- **The text of a value** has its lexemes, whatever is written behind it. -/
theorem consists_renderAt (indent : Indent) (depth : Nat) {s : List Char} {xs : List Lexeme}
    (hs : ValueEnds s) (h : Consists s xs) :
    ∀ v : Json, Consists (renderAt indent depth v ++ s) (v.lexemes ++ xs)
  | .null => by
    rw [renderAt, lexemes]
    exact h.cons (by decide) rfl (Nat.le_add_right _ 3)
  | .bool true => by
    rw [renderAt, lexemes]
    exact h.cons (by decide) rfl (Nat.le_add_right _ 3)
  | .bool false => by
    rw [renderAt, lexemes]
    exact h.cons (by decide) rfl (Nat.le_add_right _ 4)
  | .number n => by
    rw [renderAt, lexemes]
    exact h.number hs.numeralEnds n
  | .string k => by
    rw [renderAt, lexemes]
    exact h.literal k
  | .array [] => by
    rw [renderAt, lexemes]
    exact (h.cons (c := ']') (by decide) rfl (Nat.le_refl _)).cons (by decide) rfl (Nat.le_refl _)
  | .array (v :: vs) => by
    have hitems := consists_renderItems indent depth h vs
    have hvalue := consists_renderAt indent (depth + 1) (valueEnds_renderItems indent depth vs s)
      hitems v
    rw [renderAt, lexemes]
    simp only [List.cons_append, List.append_assoc]
    exact (hvalue.newline indent (depth + 1)).cons (by decide) rfl (Nat.le_refl _)
  | .object [] => by
    rw [renderAt, lexemes]
    exact (h.cons (c := '\x7d') (by decide) rfl (Nat.le_refl _)).cons (by decide) rfl (Nat.le_refl _)
  | .object ((k, v) :: fs) => by
    have hfields := consists_renderFields indent depth h fs
    have hvalue := consists_renderAt indent (depth + 1) (valueEnds_renderFields indent depth fs s)
      hfields v
    rw [renderAt, lexemes]
    simp only [List.cons_append, List.append_assoc]
    exact (((hvalue.keyMark indent).literal k).newline indent (depth + 1)).cons (by decide) rfl
      (Nat.le_refl _)

theorem consists_renderItems (indent : Indent) (depth : Nat) {s : List Char} {xs : List Lexeme}
    (h : Consists s xs) :
    ∀ vs : List Json, Consists (renderItems indent depth vs ++ s) (lexemesOfItems vs ++ xs)
  | [] => by
    rw [renderItems, lexemesOfItems, List.append_assoc]
    exact (h.cons (c := ']') (by decide) rfl (Nat.le_refl _)).newline indent depth
  | v :: vs => by
    have hitems := consists_renderItems indent depth h vs
    have hvalue := consists_renderAt indent (depth + 1) (valueEnds_renderItems indent depth vs s)
      hitems v
    rw [renderItems, lexemesOfItems]
    simp only [List.cons_append, List.append_assoc]
    exact (hvalue.newline indent (depth + 1)).cons (by decide) rfl (Nat.le_refl _)

theorem consists_renderFields (indent : Indent) (depth : Nat) {s : List Char} {xs : List Lexeme}
    (h : Consists s xs) :
    ∀ fs : List (Option String × Json),
      Consists (renderFields indent depth fs ++ s) (lexemesOfFields fs ++ xs)
  | [] => by
    rw [renderFields, lexemesOfFields, List.append_assoc]
    exact (h.cons (c := '\x7d') (by decide) rfl (Nat.le_refl _)).newline indent depth
  | (k, v) :: fs => by
    have hfields := consists_renderFields indent depth h fs
    have hvalue := consists_renderAt indent (depth + 1) (valueEnds_renderFields indent depth fs s)
      hfields v
    rw [renderFields, lexemesOfFields]
    simp only [List.cons_append, List.append_assoc]
    exact (((hvalue.keyMark indent).literal k).newline indent (depth + 1)).cons (by decide) rfl
      (Nat.le_refl _)

end

/-- **The lexemes of a document** are those of its value, on one line or on many. -/
theorem lexemes?_renderAt (indent : Indent) (v : Json) :
    lexemes? (renderAt indent 0 v) = some v.lexemes := by
  have h := consists_renderAt indent 0 valueEnds_nil consists_nil v
  rw [List.append_nil, List.append_nil] at h
  exact h.lexemes?

/-! ### The machine -/

/-- The first item of an array begins like any value. -/
theorem run?_firstItem (fs : List Frame) (v : Json) (ys : List Lexeme) :
    run? (.firstItem fs) (v.lexemes ++ ys) = run? (.value (.array [] :: fs)) (v.lexemes ++ ys) := by
  match v with
  | .null => rw [lexemes]; rfl
  | .bool b => rw [lexemes]; rfl
  | .number n => rw [lexemes]; rfl
  | .string s => rw [lexemes]; rfl
  | .array [] => rw [lexemes]; rfl
  | .array (_ :: _) => rw [lexemes]; rfl
  | .object [] => rw [lexemes]; rfl
  | .object (_ :: _) => rw [lexemes]; rfl

mutual

/-- **The machine makes a value of its lexemes**, whatever is open around it. -/
theorem run?_lexemes (outer : List Frame) (ys : List Lexeme) :
    ∀ v : Json, run? (.value outer) (v.lexemes ++ ys) = run? (.done v outer) ys
  | .null => by rw [lexemes]; rfl
  | .bool b => by rw [lexemes]; rfl
  | .number n => by rw [lexemes]; rfl
  | .string s => by rw [lexemes]; rfl
  | .array [] => by rw [lexemes]; rfl
  | .array (v :: vs) => by
    have hopen : run? (.value outer) (.openArray :: (v.lexemes ++ (lexemesOfItems vs ++ ys))) =
        run? (.firstItem outer) (v.lexemes ++ (lexemesOfItems vs ++ ys)) := rfl
    rw [lexemes, List.cons_append, List.cons_append, List.append_assoc, hopen, run?_firstItem,
      run?_lexemes, run?_lexemesOfItems]
    rfl
  | .object [] => by rw [lexemes]; rfl
  | .object ((k, v) :: fs) => by
    have hopen : run? (.value outer)
        (.openObject :: .string k :: .colon :: (v.lexemes ++ (lexemesOfFields fs ++ ys))) =
        run? (.value (.object [] k :: outer)) (v.lexemes ++ (lexemesOfFields fs ++ ys)) := rfl
    rw [lexemes]
    simp only [List.cons_append, List.append_assoc]
    rw [hopen, run?_lexemes, run?_lexemesOfFields]
    rfl

theorem run?_lexemesOfItems (outer : List Frame) (ys : List Lexeme) (v : Json) (items : List Json) :
    ∀ vs : List Json, run? (.done v (.array items :: outer)) (lexemesOfItems vs ++ ys) =
      run? (.done (.array ((v :: items).reverse ++ vs)) outer) ys
  | [] => by
    rw [lexemesOfItems, List.append_nil]
    rfl
  | w :: vs => by
    have hcomma : run? (.done v (.array items :: outer))
        (.comma :: (w.lexemes ++ (lexemesOfItems vs ++ ys))) =
        run? (.value (.array (v :: items) :: outer)) (w.lexemes ++ (lexemesOfItems vs ++ ys)) := rfl
    rw [lexemesOfItems, List.cons_append, List.cons_append, List.append_assoc, hcomma,
      run?_lexemes, run?_lexemesOfItems, List.reverse_cons, List.append_assoc,
      List.singleton_append]

theorem run?_lexemesOfFields (outer : List Frame) (ys : List Lexeme) (k : Option String) (v : Json)
    (fields : List (Option String × Json)) :
    ∀ fs : List (Option String × Json),
      run? (.done v (.object fields k :: outer)) (lexemesOfFields fs ++ ys) =
        run? (.done (.object (((k, v) :: fields).reverse ++ fs)) outer) ys
  | [] => by
    rw [lexemesOfFields, List.append_nil]
    rfl
  | (l, w) :: fs => by
    have hcomma : run? (.done v (.object fields k :: outer))
        (.comma :: .string l :: .colon :: (w.lexemes ++ (lexemesOfFields fs ++ ys))) =
        run? (.value (.object ((k, v) :: fields) l :: outer))
          (w.lexemes ++ (lexemesOfFields fs ++ ys)) := rfl
    rw [lexemesOfFields]
    simp only [List.cons_append, List.append_assoc]
    rw [hcomma, run?_lexemes, run?_lexemesOfFields, List.reverse_cons, List.append_assoc,
      List.singleton_append]

end

theorem ofLexemes?_lexemes (v : Json) : ofLexemes? v.lexemes = some v := by
  have h := run?_lexemes [] [] v
  rw [List.append_nil] at h
  rw [ofLexemes?, h]
  rfl

/-- **A document has one value**: the text of a value is read as that value. -/
theorem read?_render (indent : Indent) (v : Json) : read? (v.render indent) = some v := by
  rw [read?, render, String.toList_ofList, lexemes?_renderAt]
  exact ofLexemes?_lexemes v

end AtmosChem.Json
